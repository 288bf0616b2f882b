import XtratuM.Kernel.KThread

/-! The timers of a vCPU under cyclic scheduling: the hardware-clock timer, the watchdog, and
the execution timer, which a kernel timer backs while the vCPU's clock runs. Their times are
integers, as long as no sum of a value and an interval leaves the 64 bits of `xmTime_t`.
-/

namespace XtratuM

def KTIMER_ARMED : XmU32 := 1 <<< 0
def VTIMER_ARMED : XmU32 := 1 <<< 0
def VCLOCK_ENABLED : XmU32 := 1 <<< 0

def XM_HW_CLOCK : XmU32 := 0
def XM_EXEC_CLOCK : XmU32 := 1
def XM_WATCHDOG_TIMER : XmU32 := 2

def XM_VT_EXT_HW_TIMER : Nat := 0
def XM_VT_EXT_EXEC_TIMER : Nat := 1
def XM_VT_EXT_WATCHDOG_TIMER : Nat := 2

def XM_HM_EV_WATCHDOG_TIMER : XmU32 := 3

/-- `MAX_XMTIME`, the largest `xm_s64_t`. -/
def MAX_XMTIME : Int := 2 ^ 63 - 1

/-- `kTimer_t`; the action of a timer is known by the timer it belongs to. -/
structure KTimer where
  value : Int
  interval : Int
  flags : XmU32
  deriving DecidableEq

/-- `vTimer_t`. -/
structure VTimer where
  value : Int
  interval : Int
  flags : XmU32
  kTimer : KTimer
  deriving DecidableEq

/-- `vClock_t`. -/
structure VClock where
  acc : Int
  delta : Int
  flags : XmU32
  deriving DecidableEq

def KTimer.armed (kTimer : KTimer) : Bool :=
  kTimer.flags &&& KTIMER_ARMED != 0

def VTimer.armed (vTimer : VTimer) : Bool :=
  vTimer.flags &&& VTIMER_ARMED != 0

def VClock.enabled (vClock : VClock) : Bool :=
  vClock.flags &&& VCLOCK_ENABLED != 0

/-- The kthread of a vCPU with its clock and timers, and the health-monitor events raised for
it, newest first.
-/
structure VCpu where
  k : KThread
  vClock : VClock
  vTimer : VTimer
  kTimer : KTimer
  watchdogTimer : KTimer
  hmEvents : List XmU32
  deriving DecidableEq

/-- The kernel timers `CreatePartition` puts in a vCPU's own queue. -/
inductive ActiveKTimer
  | vTimer
  | watchdogTimer
  | kTimer
  deriving DecidableEq, Repr

/-- `localActiveKTimers`, where each insertion was at the head. -/
def localActiveKTimers : List ActiveKTimer :=
  [.vTimer, .watchdogTimer, .kTimer]

def VCpu.active (g : VCpu) : ActiveKTimer → KTimer
  | .vTimer => g.vTimer.kTimer
  | .watchdogTimer => g.watchdogTimer
  | .kTimer => g.kTimer

def VCpu.setActive (g : VCpu) (timer : ActiveKTimer) (kTimer : KTimer) : VCpu :=
  match timer with
  | .vTimer => { g with vTimer := { g.vTimer with kTimer } }
  | .watchdogTimer => { g with watchdogTimer := kTimer }
  | .kTimer => { g with kTimer }

-----------------------------------------------------------------------------------------
-- Arming and disarming

/-- `ArmKTimer`; the hardware timer it programs may run the traversal at once, as a later
traversal does.
-/
def armKTimer (kTimer : KTimer) (value interval : Int) : KTimer where
  value
  interval
  flags := kTimer.flags ||| KTIMER_ARMED

/-- `DisarmKTimer`, whose result nobody reads; it clears the bit under the other name. -/
def disarmKTimer (kTimer : KTimer) : KTimer :=
  if kTimer.armed then { kTimer with flags := kTimer.flags &&& ~~~VTIMER_ARMED } else kTimer

/-- `ArmVTimer`. -/
def armVTimer (vTimer : VTimer) (vClock : VClock) (value interval : Int) : VTimer where
  value
  interval
  flags := vTimer.flags ||| VTIMER_ARMED
  kTimer :=
    if vClock.enabled then
      armKTimer vTimer.kTimer (value - vClock.acc + vClock.delta) interval
    else
      vTimer.kTimer

/-- `DisarmVTimer`. -/
def disarmVTimer (vTimer : VTimer) : VTimer :=
  if vTimer.flags &&& KTIMER_ARMED ≠ 0 then
    { vTimer with flags := vTimer.flags &&& ~~~KTIMER_ARMED }
  else
    vTimer

/-- `StopVClock`, reading the clock as `now`. -/
def stopVClock (g : VCpu) (now : Int) : VCpu :=
  { g with
    vTimer :=
      if g.vTimer.armed then
        { g.vTimer with kTimer := disarmKTimer g.vTimer.kTimer }
      else
        g.vTimer
    vClock :=
      { g.vClock with
        flags := g.vClock.flags &&& ~~~VCLOCK_ENABLED
        acc := g.vClock.acc + (now - g.vClock.delta) } }

/-- `ResumeVClock`, reading the clock as `now`. -/
def resumeVClock (g : VCpu) (now : Int) : VCpu :=
  { g with
    vClock := { g.vClock with delta := now, flags := g.vClock.flags ||| VCLOCK_ENABLED }
    vTimer :=
      if g.vTimer.armed then
        { g.vTimer with
          kTimer :=
            armKTimer g.vTimer.kTimer (g.vTimer.value - g.vClock.acc + now) g.vTimer.interval }
      else
        g.vTimer }

/-- The arms of `SetTimerSys` that disarm a timer. -/
def disarmTimer (g : VCpu) (clockId : XmU32) : XmRet × VCpu :=
  if clockId = XM_HW_CLOCK then
    (.ok, { g with kTimer := disarmKTimer g.kTimer })
  else if clockId = XM_EXEC_CLOCK then
    (.ok, { g with vTimer := disarmVTimer g.vTimer })
  else if clockId = XM_WATCHDOG_TIMER then
    (.ok, { g with watchdogTimer := disarmKTimer g.watchdogTimer })
  else
    (.invalidParam, g)

/-- The arms of `SetTimerSys` that arm one. -/
def armTimer (g : VCpu) (clockId : XmU32) (abstime interval : Int) : XmRet × VCpu :=
  if clockId = XM_HW_CLOCK then
    (.ok, { g with kTimer := armKTimer g.kTimer abstime interval })
  else if clockId = XM_EXEC_CLOCK then
    (.ok, { g with vTimer := armVTimer g.vTimer g.vClock abstime interval })
  else if clockId = XM_WATCHDOG_TIMER then
    (.ok, { g with watchdogTimer := armKTimer g.watchdogTimer abstime interval })
  else
    (.invalidParam, g)

/-- `SetTimerSys`, made by the running vCPU for itself. -/
def setTimerSys (g : VCpu) (clockId : XmU32) (abstime interval : Int) : XmRet × VCpu :=
  if abstime < 0 ∨ interval < 0 then
    (.invalidParam, g)
  else if abstime = 0 then
    disarmTimer g clockId
  else
    armTimer g clockId abstime interval

-----------------------------------------------------------------------------------------
-- Traversal

/-- `VTimerHndl`. -/
def vTimerHndl (g : VCpu) : Except Stop VCpu := do
  assert (g.vClock.enabled = true)
  assert (g.vTimer.armed = true)
  let vTimer :=
    if 0 < g.vTimer.interval then
      { g.vTimer with value := g.vTimer.value + g.vTimer.interval }
    else
      { g.vTimer with flags := g.vTimer.flags &&& ~~~VTIMER_ARMED }
  pure { g with vTimer, k := setExtIrqPending g.k XM_VT_EXT_EXEC_TIMER }

/-- `KThrTimerHndl`. -/
def kThrTimerHndl (g : VCpu) : VCpu :=
  { g with k := setExtIrqPending g.k XM_VT_EXT_HW_TIMER }

/-- `KThrWatchdogTimerHndl`; what the health monitor then does is its own. -/
def kThrWatchdogTimerHndl (g : VCpu) : VCpu :=
  { g with
    k := setExtIrqPending g.k XM_VT_EXT_WATCHDOG_TIMER
    hmEvents := XM_HM_EV_WATCHDOG_TIMER :: g.hmEvents }

def VCpu.action (g : VCpu) : ActiveKTimer → Except Stop VCpu
  | .vTimer => vTimerHndl g
  | .watchdogTimer => .ok (kThrWatchdogTimerHndl g)
  | .kTimer => .ok (kThrTimerHndl g)

/-- The loop `do value += interval while (value <= cTime)`. -/
def advance (cTime interval value : Int) (positive : 0 < interval) : Int :=
  if value + interval ≤ cTime then
    advance cTime interval (value + interval) positive
  else
    value + interval
termination_by (cTime - value).toNat
decreasing_by omega

/-- `if (nextAct > value) nextAct = value`. -/
def earlier (nextAct value : Int) : Int :=
  if value < nextAct then value else nextAct

/-- What is left to do with an expired timer after its action. -/
def rearm (g : VCpu) (timer : ActiveKTimer) (cTime nextAct : Int) : VCpu × Int :=
  let kTimer := g.active timer
  if positive : 0 < kTimer.interval then
    let value := advance cTime kTimer.interval kTimer.value positive
    (g.setActive timer { kTimer with value }, earlier nextAct value)
  else
    (g.setActive timer { kTimer with flags := kTimer.flags &&& ~~~KTIMER_ARMED }, nextAct)

/-- One round of the loop of `TraverseKTimerQueue`. -/
def traverseKTimer (cTime : Int) (timer : ActiveKTimer) (g : VCpu) (nextAct : Int)
    : Except Stop (VCpu × Int) :=
  if (g.active timer).armed then
    if (g.active timer).value ≤ cTime then do
      let g ← g.action timer
      pure (rearm g timer cTime nextAct)
    else
      .ok (g, earlier nextAct (g.active timer).value)
  else
    .ok (g, nextAct)

def traverseKTimers (cTime : Int)
    : List ActiveKTimer → VCpu → Int → Except Stop (VCpu × Int)
  | [], g, nextAct => .ok (g, nextAct)
  | timer :: rest, g, nextAct => do
      let (g, nextAct) ← traverseKTimer cTime timer g nextAct
      traverseKTimers cTime rest g nextAct

/-- `TraverseKTimerQueue` of a vCPU's own queue. -/
def traverseKTimerQueue (g : VCpu) (cTime : Int) : Except Stop (VCpu × Int) :=
  traverseKTimers cTime localActiveKTimers g MAX_XMTIME

-----------------------------------------------------------------------------------------
-- Flags

theorem flag_set {flags bit : XmU32} (nonzero : bit ≠ 0) : (flags ||| bit) &&& bit ≠ 0 := by
  rw [BitVec.and_comm, BitVec.and_or_distrib_left, BitVec.and_self]
  exact fun clear => nonzero (BitVec.or_eq_zero_iff.mp clear).2

theorem flag_cleared (flags bit : XmU32) : flags &&& ~~~bit &&& bit = 0 := by
  simp [BitVec.and_assoc]

/-- The two names of the bit are used for one another. -/
theorem vTimer_armed_bit : VTIMER_ARMED = KTIMER_ARMED :=
  rfl

@[simp] theorem armKTimer_armed (kTimer : KTimer) (value interval : Int)
    : (armKTimer kTimer value interval).armed = true := by
  simpa [armKTimer, KTimer.armed] using flag_set (by decide)

@[simp] theorem armKTimer_interval (kTimer : KTimer) (value interval : Int)
    : (armKTimer kTimer value interval).interval = interval :=
  rfl

@[simp] theorem disarmKTimer_armed (kTimer : KTimer) : (disarmKTimer kTimer).armed = false := by
  unfold disarmKTimer
  split
  · simpa [KTimer.armed, vTimer_armed_bit] using flag_cleared kTimer.flags KTIMER_ARMED
  · next off => simpa using off

@[simp] theorem armVTimer_armed (vTimer : VTimer) (vClock : VClock) (value interval : Int)
    : (armVTimer vTimer vClock value interval).armed = true := by
  simpa [armVTimer, VTimer.armed] using flag_set (by decide)

@[simp] theorem disarmVTimer_armed (vTimer : VTimer) : (disarmVTimer vTimer).armed = false := by
  unfold disarmVTimer
  split
  · simpa [VTimer.armed, vTimer_armed_bit] using flag_cleared vTimer.flags KTIMER_ARMED
  · next off => simpa [VTimer.armed, vTimer_armed_bit] using off

/-- The timer behind an execution timer is left as it is, and it may well be armed. -/
@[simp] theorem disarmVTimer_kTimer (vTimer : VTimer)
    : (disarmVTimer vTimer).kTimer = vTimer.kTimer := by
  unfold disarmVTimer
  split <;> rfl

@[simp] theorem stopVClock_enabled (g : VCpu) (now : Int)
    : (stopVClock g now).vClock.enabled = false := by
  simpa [stopVClock, VClock.enabled] using flag_cleared g.vClock.flags VCLOCK_ENABLED

@[simp] theorem resumeVClock_enabled (g : VCpu) (now : Int)
    : (resumeVClock g now).vClock.enabled = true := by
  simpa [resumeVClock, VClock.enabled] using flag_set (by decide)

-----------------------------------------------------------------------------------------
-- The execution timer

/-- `TraverseKTimerQueue` calls `VTimerHndl`. -/
def Due (g : VCpu) (cTime : Int) : Prop :=
  g.vTimer.kTimer.armed = true ∧ g.vTimer.kTimer.value ≤ cTime

instance (g : VCpu) (cTime : Int) : Decidable (Due g cTime) :=
  inferInstanceAs (Decidable (_ ∧ _))

/-- What the two ASSERTs of `VTimerHndl` ask. -/
def Runs (g : VCpu) : Prop :=
  g.vClock.enabled = true ∧ g.vTimer.armed = true

/-- The clock and the execution timer are those of the other state. -/
structure SameExecTimer (g g' : VCpu) : Prop where
  vClock : g'.vClock = g.vClock
  vTimer : g'.vTimer = g.vTimer

theorem SameExecTimer.refl (g : VCpu) : SameExecTimer g g where
  vClock := rfl
  vTimer := rfl

theorem SameExecTimer.trans {g g' g'' : VCpu} (first : SameExecTimer g g')
    (second : SameExecTimer g' g'')
    : SameExecTimer g g'' where
  vClock := second.vClock.trans first.vClock
  vTimer := second.vTimer.trans first.vTimer

/-- A round on another timer always ends, and it leaves the execution timer alone. -/
theorem traverseKTimer_other (cTime : Int) {timer : ActiveKTimer} (other : timer ≠ .vTimer)
    (g : VCpu) (nextAct : Int)
    : ∃ g' nextAct', traverseKTimer cTime timer g nextAct = .ok (g', nextAct')
        ∧ SameExecTimer g g' := by
  unfold traverseKTimer rearm
  cases timer with
  | vTimer => exact absurd rfl other
  | watchdogTimer =>
      split
      · split
        · simp only [VCpu.action, ok_bind]
          split
          · exact ⟨_, _, rfl, rfl, rfl⟩
          · exact ⟨_, _, rfl, rfl, rfl⟩
        · exact ⟨_, _, rfl, .refl g⟩
      · exact ⟨_, _, rfl, .refl g⟩
  | kTimer =>
      split
      · split
        · simp only [VCpu.action, ok_bind]
          split
          · exact ⟨_, _, rfl, rfl, rfl⟩
          · exact ⟨_, _, rfl, rfl, rfl⟩
        · exact ⟨_, _, rfl, .refl g⟩
      · exact ⟨_, _, rfl, .refl g⟩

theorem traverseKTimers_others (cTime : Int) {timers : List ActiveKTimer}
    (others : .vTimer ∉ timers) (g : VCpu) (nextAct : Int)
    : ∃ g' nextAct', traverseKTimers cTime timers g nextAct = .ok (g', nextAct')
        ∧ SameExecTimer g g' := by
  induction timers generalizing g nextAct with
  | nil => exact ⟨g, nextAct, rfl, .refl g⟩
  | cons timer rest ih =>
      rw [List.mem_cons, not_or] at others
      obtain ⟨g', nextAct', round, same⟩ :=
        traverseKTimer_other cTime (Ne.symm others.1) g nextAct
      obtain ⟨g'', nextAct'', rounds, sames⟩ := ih others.2 g' nextAct'
      refine ⟨g'', nextAct'', ?_, same.trans sames⟩
      rw [traverseKTimers, round]
      exact rounds

/-- The whole traversal does to the execution timer what the first round does. -/
theorem traverseKTimerQueue_first (g : VCpu) (cTime : Int)
    : (∀ stop, traverseKTimerQueue g cTime = .error stop
        ↔ traverseKTimer cTime .vTimer g MAX_XMTIME = .error stop)
      ∧ ∀ g' nextAct, traverseKTimerQueue g cTime = .ok (g', nextAct) →
        ∃ first next, traverseKTimer cTime .vTimer g MAX_XMTIME = .ok (first, next)
          ∧ SameExecTimer first g' := by
  rw [traverseKTimerQueue, localActiveKTimers, traverseKTimers]
  cases traverseKTimer cTime .vTimer g MAX_XMTIME with
  | error stop => simp [bind, Except.bind]
  | ok result =>
      cases result with
      | mk first next =>
          have others : ActiveKTimer.vTimer ∉ [ActiveKTimer.watchdogTimer, .kTimer] := by decide
          obtain ⟨g', nextAct', rounds, same⟩ := traverseKTimers_others cTime others first next
          rw [ok_bind]
          simp only [rounds, reduceCtorEq, implies_true, true_and, Except.ok.injEq,
            Prod.mk.injEq]
          intro g'' nextAct'' returned
          cases returned.1
          exact ⟨first, next, ⟨rfl, rfl⟩, same⟩

theorem vTimerHndl_fails {g : VCpu} : vTimerHndl g = .error .assertion ↔ ¬ Runs g := by
  unfold vTimerHndl Runs
  by_cases enabled : g.vClock.enabled = true
  · by_cases armed : g.vTimer.armed = true
    · simp [enabled, armed, pure, Except.pure]
    · simp [enabled, armed, assert, bind, Except.bind]
  · simp [enabled, assert, bind, Except.bind]

/-- A traversal stops at an ASSERT exactly when it calls `VTimerHndl` on a timer that is
disarmed or whose clock does not run.
-/
theorem traverseKTimerQueue_fails {g : VCpu} {cTime : Int}
    : traverseKTimerQueue g cTime = .error .assertion ↔ Due g cTime ∧ ¬ Runs g := by
  rw [(traverseKTimerQueue_first g cTime).1, traverseKTimer, Due]
  simp only [VCpu.active, VCpu.action]
  by_cases armed : g.vTimer.kTimer.armed = true
  · by_cases due : g.vTimer.kTimer.value ≤ cTime
    · simp [armed, due, bind_eq_error, vTimerHndl_fails, pure, Except.pure]
    · simp [armed, due]
  · simp [armed]

/-- An execution timer that expired: the vTimer and the timer behind it go on exactly when
each has an interval of its own.
-/
structure Expired (g g' : VCpu) : Prop where
  vClock : g'.vClock = g.vClock
  interval : g'.vTimer.interval = g.vTimer.interval
  kInterval : g'.vTimer.kTimer.interval = g.vTimer.kTimer.interval
  armed : g'.vTimer.armed = true ↔ 0 < g.vTimer.interval
  kArmed : g'.vTimer.kTimer.armed = true ↔ 0 < g.vTimer.kTimer.interval

theorem vTimerHndl_returns {g g' : VCpu} (returned : vTimerHndl g = .ok g')
    : Runs g ∧ g'.vClock = g.vClock ∧ g'.vTimer.interval = g.vTimer.interval
      ∧ g'.vTimer.kTimer = g.vTimer.kTimer
      ∧ (g'.vTimer.armed = true ↔ 0 < g.vTimer.interval) := by
  obtain ⟨_, enabled, returned⟩ := bind_eq_ok.mp returned
  obtain ⟨_, armed, returned⟩ := bind_eq_ok.mp returned
  cases returned
  refine ⟨⟨assert_ok.mp enabled, assert_ok.mp armed⟩, rfl, ?_, ?_, ?_⟩
  · dsimp only
    split <;> rfl
  · dsimp only
    split <;> rfl
  · dsimp only
    split
    · next periodic => exact iff_of_true (assert_ok.mp armed) periodic
    · next single =>
        simpa [single, VTimer.armed] using flag_cleared g.vTimer.flags VTIMER_ARMED

/-- An armed timer stays armed when it has an interval. -/
theorem rearm_effect (g : VCpu) (timer : ActiveKTimer) (cTime nextAct : Int)
    (armed : (g.active timer).armed = true)
    : ∃ kTimer next, rearm g timer cTime nextAct = (g.setActive timer kTimer, next)
        ∧ kTimer.interval = (g.active timer).interval
        ∧ (kTimer.armed = true ↔ 0 < (g.active timer).interval) := by
  unfold rearm
  by_cases periodic : 0 < (g.active timer).interval
  · rw [dif_pos periodic]
    exact ⟨_, _, rfl, rfl, iff_of_true armed periodic⟩
  · rw [dif_neg periodic]
    refine ⟨_, _, rfl, rfl, iff_of_false ?_ periodic⟩
    simpa [KTimer.armed] using flag_cleared (g.active timer).flags KTIMER_ARMED

/-- A traversal that returns leaves an execution timer that is not due alone, and expires one
that is, whose clock then runs.
-/
theorem traverseKTimerQueue_returns {g g' : VCpu} {cTime nextAct : Int}
    (returned : traverseKTimerQueue g cTime = .ok (g', nextAct))
    : (¬ Due g cTime ∧ SameExecTimer g g') ∨ (Due g cTime ∧ Runs g ∧ Expired g g') := by
  obtain ⟨first, next, round, same⟩ := (traverseKTimerQueue_first g cTime).2 _ _ returned
  unfold traverseKTimer at round
  by_cases armed : (g.active .vTimer).armed = true
  · rw [if_pos armed] at round
    by_cases due : (g.active .vTimer).value ≤ cTime
    · rw [if_pos due] at round
      obtain ⟨handled, handler, rearmed⟩ := bind_eq_ok.mp round
      obtain ⟨runs, vClock, interval, kTimer, vArmed⟩ := vTimerHndl_returns handler
      have still : (handled.active .vTimer).armed = true := by rwa [VCpu.active, kTimer]
      obtain ⟨kTimer', _, rearms, kInterval, kArmed⟩ :=
        rearm_effect handled .vTimer cTime MAX_XMTIME still
      cases (Except.ok.inj rearmed).symm.trans rearms
      rw [VCpu.active, kTimer] at kInterval kArmed
      refine Or.inr ⟨⟨armed, due⟩, runs, ?_⟩
      exact
        { vClock := by rw [same.vClock, VCpu.setActive, vClock]
          interval := by rw [same.vTimer, VCpu.setActive, interval]
          kInterval := by rw [same.vTimer, VCpu.setActive, kInterval]
          armed := by
            rw [same.vTimer]
            exact vArmed
          kArmed := by rw [same.vTimer, VCpu.setActive, kArmed] }
    · rw [if_neg due] at round
      cases round
      exact Or.inl ⟨fun expired => due expired.2, same⟩
  · rw [if_neg armed] at round
    cases round
    exact Or.inl ⟨fun expired => armed expired.1, same⟩

end XtratuM
