import XtratuM.Sched.ExecutionTimer

/-! The execution clock and its timer in the 64 bits of `xmTime_t`, and the times they pass on to
`SetHwTimer`, whose ASSERT refuses a negative one.
-/

namespace XtratuM.ClockRequests

open Reachability

/-- A sum of times, in signed 64-bit arithmetic. -/
def xmTime (value : Int) : Int :=
  value.bmod (2 ^ 64)

/-- `ArmVTimer`, and the value `ArmKTimer` passes on to `SetHwTimer` where it is called. -/
def armVTimer (vTimer : VTimer) (vClock : VClock) (value interval : Int)
    : VTimer × Option Int :=
  let armed := { vTimer with value, interval, flags := vTimer.flags ||| VTIMER_ARMED }
  if vClock.enabled then
    let kValue := xmTime (xmTime (value - vClock.acc) + vClock.delta)
    ({ armed with kTimer := armKTimer vTimer.kTimer kValue interval }, some kValue)
  else
    (armed, none)

/-- `StopVClock`. -/
def stopVClock (g : VCpu) (now : Int) : VCpu :=
  { g with
    vTimer :=
      if g.vTimer.armed then
        { g.vTimer with kTimer := disarmKTimer g.vTimer.kTimer }
      else
        g.vTimer
    vClock :=
      { g.vClock with
        flags := g.vClock.flags &&& ~~~VCLOCK_ENABLED
        acc := xmTime (g.vClock.acc + xmTime (now - g.vClock.delta)) } }

/-- `ResumeVClock`, and the value it passes on. -/
def resumeVClock (g : VCpu) (now : Int) : VCpu × Option Int :=
  let resumed :=
    { g with vClock := { g.vClock with delta := now, flags := g.vClock.flags ||| VCLOCK_ENABLED } }
  if g.vTimer.armed then
    let value := xmTime (xmTime (g.vTimer.value - g.vClock.acc) + now)
    ({ resumed with
        vTimer :=
          { g.vTimer with kTimer := armKTimer g.vTimer.kTimer value g.vTimer.interval } },
      some value)
  else
    (resumed, none)

/-- The arms of `SetTimerSys` that arm a timer, and the value they pass on. -/
def armTimer (g : VCpu) (clockId : XmU32) (abstime interval : Int)
    : (XmRet × VCpu) × Option Int :=
  if clockId = XM_HW_CLOCK then
    ((.ok, { g with kTimer := armKTimer g.kTimer abstime interval }), some abstime)
  else if clockId = XM_EXEC_CLOCK then
    let (vTimer, passed) := armVTimer g.vTimer g.vClock abstime interval
    ((.ok, { g with vTimer }), passed)
  else if clockId = XM_WATCHDOG_TIMER then
    ((.ok, { g with watchdogTimer := armKTimer g.watchdogTimer abstime interval }), some abstime)
  else
    ((.invalidParam, g), none)

/-- `SetTimerSys`, and the value it passes on. -/
def setTimerSys (g : VCpu) (clockId : XmU32) (abstime interval : Int)
    : (XmRet × VCpu) × Option Int :=
  if abstime < 0 ∨ interval < 0 then
    ((.invalidParam, g), none)
  else if abstime = 0 then
    (disarmTimer g clockId, none)
  else
    armTimer g clockId abstime interval

/-- `VTimerHndl`. -/
def vTimerHndl (g : VCpu) : Except Stop VCpu := do
  assert (g.vClock.enabled = true)
  assert (g.vTimer.armed = true)
  let vTimer :=
    if 0 < g.vTimer.interval then
      { g.vTimer with value := xmTime (g.vTimer.value + g.vTimer.interval) }
    else
      { g.vTimer with flags := g.vTimer.flags &&& ~~~VTIMER_ARMED }
  pure { g with vTimer, k := setExtIrqPending g.k XM_VT_EXT_EXEC_TIMER }

-----------------------------------------------------------------------------------------
-- Runs

/-- A vCPU, the last time read from the clock, and the value the last step passed on to
`SetHwTimer`, if it did.
-/
structure ClockedVCpu where
  vCpu : VCpu
  running : Bool
  cTime : Int
  passed : Option Int

inductive ClockEvent
  /-- `SetTimerSys` by the running vCPU. -/
  | setTimer (clockId : XmU32) (abstime interval : Int)
  /-- The clock is stopped as the vCPU is left. -/
  | leave (now : Int)
  /-- The clock is resumed as it is entered. -/
  | enter (now : Int)
  /-- A traversal finds the execution timer due; it leaves some timer behind it. -/
  | expire (kTimer : KTimer)

/-- A later reading of a 64-bit clock that does not go back. -/
def ClockedVCpu.Reads (s : ClockedVCpu) (now : Int) : Prop :=
  s.cTime ≤ now ∧ now ≤ MAX_XMTIME

inductive ClockNext : ClockedVCpu → ClockEvent → ClockedVCpu → Prop
  | setTimer {s clockId abstime interval} (running : s.running = true)
    (inRange : abstime ≤ MAX_XMTIME)
    : ClockNext s (.setTimer clockId abstime interval)
        { s with
          vCpu := (setTimerSys s.vCpu clockId abstime interval).1.2
          passed := (setTimerSys s.vCpu clockId abstime interval).2 }
  | leave {s now} (running : s.running = true) (reads : s.Reads now)
    : ClockNext s (.leave now)
        { vCpu := stopVClock s.vCpu now, running := false, cTime := now, passed := none }
  | enter {s now} (reads : s.Reads now)
    : ClockNext s (.enter now)
        { vCpu := (resumeVClock s.vCpu now).1
          running := true
          cTime := now
          passed := (resumeVClock s.vCpu now).2 }
  | expire {s g kTimer} (handled : vTimerHndl s.vCpu = .ok g)
    : ClockNext s (.expire kTimer)
        { s with vCpu := { g with vTimer := { g.vTimer with kTimer } }, passed := none }

/-- `CreatePartition` zeroes the timers, and the clock starts from 0. -/
def createdVCpu (k : KThread) : ClockedVCpu where
  running := false
  cTime := 0
  passed := none
  vCpu :=
    { k
      vClock := { acc := 0, delta := 0, flags := 0 }
      vTimer :=
        { value := 0, interval := 0, flags := 0
          kTimer := { value := 0, interval := 0, flags := 0 } }
      kTimer := { value := 0, interval := 0, flags := 0 }
      watchdogTimer := { value := 0, interval := 0, flags := 0 }
      hmEvents := [] }

/-- The ASSERT at the head of `SetHwTimer` holds of the value passed on. -/
def Passes (s : ClockedVCpu) : Prop :=
  ∀ nextAct, s.passed = some nextAct → 0 ≤ nextAct

/-- The time, up to the reading `since`, in which the vCPU's clock did not run. -/
def idle (g : VCpu) (since : Int) : Int :=
  since - g.vClock.acc

/-- The time the execution timer is set for, counted on the system's clock, is an `xmTime_t`. -/
def Fits (s : ClockedVCpu) : ClockEvent → Prop
  | .setTimer clockId abstime interval =>
      clockId = XM_EXEC_CLOCK → 0 ≤ interval →
        abstime + idle s.vCpu s.vCpu.vClock.delta ≤ MAX_XMTIME
  | .enter now =>
      s.vCpu.vTimer.armed = true →
        0 ≤ s.vCpu.vTimer.value + idle s.vCpu now
          ∧ s.vCpu.vTimer.value + idle s.vCpu now ≤ MAX_XMTIME
  | .leave _ => True
  | .expire _ => True

-----------------------------------------------------------------------------------------
-- 64-bit sums

theorem xmTime_eq {value : Int} (inRange : -(2 ^ 63) ≤ value ∧ value < 2 ^ 63)
    : xmTime value = value := by
  apply Int.bmod_eq_of_le <;> omega

theorem xmTime_add (a b : Int) : xmTime (xmTime a + b) = xmTime (a + b) :=
  Int.bmod_add_bmod

theorem xmTime_range (value : Int) : -(2 ^ 63) ≤ xmTime value ∧ xmTime value < 2 ^ 63 := by
  have low := Int.le_bmod (x := value) (m := 2 ^ 64) (by decide)
  have high := Int.bmod_lt (x := value) (m := 2 ^ 64) (by decide)
  unfold xmTime
  omega

/-- A sum past the largest time wraps to a negative one. -/
theorem xmTime_wraps {value : Int} (past : 2 ^ 63 ≤ value) (below : value < 2 ^ 64 + 2 ^ 63)
    : xmTime value = value - 2 ^ 64 := by
  unfold xmTime
  rw [← Int.sub_bmod_right]
  apply Int.bmod_eq_of_le <;> omega

/-- A sum of a 64-bit value and an idle time keeps its sign exactly when it is one of the
non-negative times.
-/
theorem xmTime_nonneg {value : Int} (low : -(2 ^ 63) ≤ value) (high : value < 2 ^ 64)
    : 0 ≤ xmTime value ↔ 0 ≤ value ∧ value ≤ MAX_XMTIME := by
  unfold MAX_XMTIME
  by_cases fits : value < 2 ^ 63
  · rw [xmTime_eq ⟨low, fits⟩]
    omega
  · rw [xmTime_wraps (by omega) (by omega)]
    omega

-----------------------------------------------------------------------------------------
-- Invariant

/-- The clock has counted no more than the time that has passed, and while it runs no more than
the time at which it was resumed.
-/
structure Clocked (s : ClockedVCpu) : Prop where
  acc : 0 ≤ s.vCpu.vClock.acc ∧ s.vCpu.vClock.acc ≤ s.cTime
  delta : 0 ≤ s.vCpu.vClock.delta ∧ s.vCpu.vClock.delta ≤ s.cTime
  cTime : s.cTime ≤ MAX_XMTIME
  running : s.running = true →
    s.vCpu.vClock.enabled = true ∧ s.vCpu.vClock.acc ≤ s.vCpu.vClock.delta
  value : -(2 ^ 63) ≤ s.vCpu.vTimer.value ∧ s.vCpu.vTimer.value ≤ MAX_XMTIME

theorem createdVCpu_clocked (k : KThread) : Passes (createdVCpu k) ∧ Clocked (createdVCpu k) := by
  refine ⟨?_, ?_⟩
  · intro _ passed
    cases passed
  · refine { acc := ?_, delta := ?_, cTime := ?_, running := ?_, value := ?_ }
    · exact ⟨le_refl _, le_refl _⟩
    · exact ⟨le_refl _, le_refl _⟩
    · change (0 : Int) ≤ MAX_XMTIME
      decide
    · intro stopped
      cases stopped
    · change -(2 ^ 63) ≤ (0 : Int) ∧ 0 ≤ MAX_XMTIME
      decide

/-- What the clock counts while the vCPU runs fits in 64 bits, and is not ahead of the system's
clock.
-/
theorem counted {s : ClockedVCpu} (clocked : Clocked s) (running : s.running = true) {now : Int}
    (reads : s.Reads now)
    : xmTime (s.vCpu.vClock.acc + xmTime (now - s.vCpu.vClock.delta))
        = s.vCpu.vClock.acc + (now - s.vCpu.vClock.delta)
      ∧ 0 ≤ s.vCpu.vClock.acc + (now - s.vCpu.vClock.delta)
      ∧ s.vCpu.vClock.acc + (now - s.vCpu.vClock.delta) ≤ now := by
  have acc := clocked.acc
  have delta := clocked.delta
  have behind := (clocked.running running).2
  obtain ⟨later, inRange⟩ := reads
  unfold MAX_XMTIME at inRange
  have lap : xmTime (now - s.vCpu.vClock.delta) = now - s.vCpu.vClock.delta :=
    xmTime_eq (by omega)
  rw [lap]
  exact ⟨xmTime_eq (by omega), by omega, by omega⟩

/-- The value passed on for a timer keeps its sign exactly when its time fits. -/
theorem passed_nonneg {g : VCpu} {value since : Int} (low : -(2 ^ 63) ≤ value)
    (high : value ≤ MAX_XMTIME) (acc : 0 ≤ g.vClock.acc) (behind : g.vClock.acc ≤ since)
    (inRange : since ≤ MAX_XMTIME)
    : 0 ≤ xmTime (xmTime (value - g.vClock.acc) + since)
      ↔ 0 ≤ value + idle g since ∧ value + idle g since ≤ MAX_XMTIME := by
  have sum : value - g.vClock.acc + since = value + idle g since := by
    unfold idle
    omega
  rw [xmTime_add, sum]
  unfold MAX_XMTIME at high inRange
  apply xmTime_nonneg <;> unfold idle <;> omega

-----------------------------------------------------------------------------------------
-- Steps

theorem passes_some {s : ClockedVCpu} {value : Int} (passed : s.passed = some value)
    : Passes s ↔ 0 ≤ value := by
  simp [Passes, passed]

theorem passes_none {s : ClockedVCpu} (passed : s.passed = none) : Passes s := by
  simp [Passes, passed]

/-- `SetTimerSys` arms the execution timer, or it leaves the clock and the execution timer's time
alone and passes on no other value than the one it accepted.
-/
theorem setTimerSys_cases (g : VCpu) (clockId : XmU32) (abstime interval : Int)
    : (clockId = XM_EXEC_CLOCK ∧ 0 < abstime ∧ 0 ≤ interval
        ∧ (setTimerSys g clockId abstime interval).1.2
          = { g with vTimer := (armVTimer g.vTimer g.vClock abstime interval).1 }
        ∧ (setTimerSys g clockId abstime interval).2
          = (armVTimer g.vTimer g.vClock abstime interval).2)
      ∨ (¬ (clockId = XM_EXEC_CLOCK ∧ 0 < abstime ∧ 0 ≤ interval)
        ∧ (setTimerSys g clockId abstime interval).1.2.vClock = g.vClock
        ∧ (setTimerSys g clockId abstime interval).1.2.vTimer.value = g.vTimer.value
        ∧ ∀ nextAct, (setTimerSys g clockId abstime interval).2 = some nextAct →
          0 ≤ nextAct) := by
  unfold setTimerSys
  by_cases negative : abstime < 0 ∨ interval < 0
  · rw [if_pos negative]
    exact Or.inr ⟨by omega, rfl, rfl, by simp⟩
  · rw [if_neg negative]
    by_cases zero : abstime = 0
    · rw [if_pos zero]
      refine Or.inr ⟨by omega, ?_, ?_, by simp⟩
      · unfold disarmTimer
        repeat' split
        all_goals rfl
      · unfold disarmTimer disarmVTimer
        repeat' split
        all_goals rfl
    · rw [if_neg zero]
      by_cases isExec : clockId = XM_EXEC_CLOCK
      · subst isExec
        exact Or.inl ⟨rfl, by omega, by omega, rfl, rfl⟩
      · refine Or.inr ⟨fun arms => isExec arms.1, ?_⟩
        unfold armTimer
        simp only [isExec, if_false]
        repeat' split
        all_goals simp
        all_goals omega

theorem armVTimer_passes {s : ClockedVCpu} (clocked : Clocked s) (running : s.running = true)
    {abstime : Int} (interval : Int) (positive : 0 < abstime) (inRange : abstime ≤ MAX_XMTIME)
    : ∃ value, (armVTimer s.vCpu.vTimer s.vCpu.vClock abstime interval).2 = some value
        ∧ (0 ≤ value ↔ abstime + idle s.vCpu s.vCpu.vClock.delta ≤ MAX_XMTIME) := by
  obtain ⟨enabled, behind⟩ := clocked.running running
  have delta := clocked.delta
  have cTime := clocked.cTime
  unfold armVTimer
  rw [if_pos enabled]
  refine ⟨_, rfl, ?_⟩
  rw [passed_nonneg (by omega) inRange clocked.acc.1 behind (by omega)]
  unfold idle
  omega

theorem Clocked.setTimer {s : ClockedVCpu} (clocked : Clocked s) (running : s.running = true)
    (clockId : XmU32) {abstime : Int} (interval : Int) (inRange : abstime ≤ MAX_XMTIME)
    {after : ClockedVCpu}
    (same : after = { s with
      vCpu := (setTimerSys s.vCpu clockId abstime interval).1.2
      passed := (setTimerSys s.vCpu clockId abstime interval).2 })
    : Clocked after ∧ (Passes after ↔ Fits s (.setTimer clockId abstime interval)) := by
  subst same
  have behind := clocked.running running
  have delta := clocked.delta
  have cTime := clocked.cTime
  rcases setTimerSys_cases s.vCpu clockId abstime interval with
    ⟨rfl, positive, nonneg, effect, passed⟩ | ⟨others, vClock, value, passed⟩
  · obtain ⟨value, passes, fits⟩ := armVTimer_passes clocked running interval positive inRange
    rw [effect, passed]
    refine ⟨?_, ?_⟩
    · have set : (armVTimer s.vCpu.vTimer s.vCpu.vClock abstime interval).1.value = abstime := by
        unfold armVTimer
        rw [if_pos behind.1]
      exact
        { acc := clocked.acc
          delta := clocked.delta
          cTime := clocked.cTime
          running := clocked.running
          value := by
            dsimp only
            rw [set]
            omega }
    · rw [passes_some passes, fits]
      exact ⟨fun sum _ _ => sum, fun all => all rfl nonneg⟩
  · refine ⟨?_, ?_⟩
    · exact
        { acc := by simpa [vClock] using clocked.acc
          delta := by simpa [vClock] using clocked.delta
          cTime := clocked.cTime
          running := by simpa [vClock] using clocked.running
          value := by simpa [value] using clocked.value }
    · refine iff_of_true passed ?_
      intro isExec nonneg
      have early : abstime ≤ 0 := by
        by_contra positive
        exact others ⟨isExec, by omega, nonneg⟩
      have acc := clocked.acc
      unfold idle
      omega

theorem Clocked.leave {s : ClockedVCpu} (clocked : Clocked s) (running : s.running = true)
    {now : Int} (reads : s.Reads now)
    : Clocked
        { vCpu := stopVClock s.vCpu now, running := false, cTime := now, passed := none } := by
  obtain ⟨sum, nonneg, behind⟩ := counted clocked running reads
  have delta := clocked.delta
  obtain ⟨later, inRange⟩ := reads
  refine { acc := ?_, delta := ?_, cTime := inRange, running := ?_, value := ?_ }
  · unfold stopVClock
    dsimp only
    rw [sum]
    exact ⟨nonneg, behind⟩
  · exact ⟨delta.1, delta.2.trans later⟩
  · intro stopped
    cases stopped
  · unfold stopVClock
    dsimp only
    split <;> exact clocked.value

theorem Clocked.enter {s : ClockedVCpu} (clocked : Clocked s) {now : Int} (reads : s.Reads now)
    {after : ClockedVCpu}
    (same : after =
      { vCpu := (resumeVClock s.vCpu now).1, running := true, cTime := now
        passed := (resumeVClock s.vCpu now).2 })
    : Clocked after ∧ (Passes after ↔ Fits s (.enter now)) := by
  subst same
  have acc := clocked.acc
  have delta := clocked.delta
  obtain ⟨later, inRange⟩ := reads
  have kept : (resumeVClock s.vCpu now).1.vClock
        = { s.vCpu.vClock with
            delta := now, flags := s.vCpu.vClock.flags ||| VCLOCK_ENABLED }
      ∧ (resumeVClock s.vCpu now).1.vTimer.value = s.vCpu.vTimer.value := by
    unfold resumeVClock
    dsimp only
    split <;> exact ⟨rfl, rfl⟩
  obtain ⟨vClock, value⟩ := kept
  refine ⟨?_, ?_⟩
  · refine { acc := ?_, delta := ?_, cTime := inRange, running := ?_, value := ?_ }
    · dsimp only
      rw [vClock]
      exact ⟨acc.1, acc.2.trans later⟩
    · dsimp only
      rw [vClock]
      exact ⟨by dsimp only; omega, le_refl _⟩
    · intro _
      dsimp only
      rw [vClock]
      refine ⟨?_, acc.2.trans later⟩
      simpa [VClock.enabled] using flag_set (by decide)
    · dsimp only
      rw [value]
      exact clocked.value
  · unfold resumeVClock
    cases armed : s.vCpu.vTimer.armed with
    | true =>
        rw [if_pos rfl, passes_some rfl, passed_nonneg clocked.value.1 clocked.value.2 acc.1
          (acc.2.trans later) inRange]
        simp [Fits, armed]
    | false => exact iff_of_true (passes_none (by simp)) (by simp [Fits, armed])

theorem Clocked.expire {s : ClockedVCpu} (clocked : Clocked s) {g : VCpu}
    (handled : vTimerHndl s.vCpu = .ok g) (kTimer : KTimer)
    : Clocked
        { s with vCpu := { g with vTimer := { g.vTimer with kTimer } }, passed := none } := by
  obtain ⟨_, _, handled⟩ := bind_eq_ok.mp handled
  obtain ⟨_, _, handled⟩ := bind_eq_ok.mp handled
  cases handled
  refine
    { acc := clocked.acc, delta := clocked.delta, cTime := clocked.cTime
      running := clocked.running, value := ?_ }
  dsimp only
  split
  · have range := xmTime_range (s.vCpu.vTimer.value + s.vCpu.vTimer.interval)
    unfold MAX_XMTIME
    dsimp only
    omega
  · exact clocked.value

/-- One step keeps the clock's bounds, and passes on a non-negative value exactly when the time
it is for fits, by cases on the event.
-/
theorem clocked_step {s s' : ClockedVCpu} {event : ClockEvent} (clocked : Clocked s)
    (next : ClockNext s event s')
    : Clocked s' ∧ (Passes s' ↔ Fits s event) := by
  cases next with
  | setTimer running inRange => exact clocked.setTimer running _ _ inRange rfl
  | leave running reads =>
      exact ⟨clocked.leave running reads, iff_of_true (passes_none rfl) trivial⟩
  | enter reads => exact clocked.enter reads rfl
  | expire handled =>
      exact ⟨clocked.expire handled _, iff_of_true (passes_none rfl) trivial⟩

-----------------------------------------------------------------------------------------
-- Refinement

/-- What the event is where times are integers; an expiry is part of a traversal there. -/
def ClockEvent.timerEvent : ClockEvent → Option Timers.TimerEvent
  | .setTimer clockId abstime interval => some (.setTimer clockId abstime interval)
  | .leave now => some (.leave now)
  | .enter now => some (.enter now)
  | .expire _ => none

theorem passed_exact {g : VCpu} {value since : Int} (low : 0 ≤ value + idle g since)
    (high : value + idle g since ≤ MAX_XMTIME)
    : xmTime (xmTime (value - g.vClock.acc) + since) = value - g.vClock.acc + since := by
  rw [xmTime_add]
  apply xmTime_eq
  unfold idle at low high
  unfold MAX_XMTIME at high
  omega

theorem setTimerSys_exact {s : ClockedVCpu} (clocked : Clocked s) (running : s.running = true)
    {clockId : XmU32} {abstime interval : Int} (fits : Fits s (.setTimer clockId abstime interval))
    : (setTimerSys s.vCpu clockId abstime interval).1
      = XtratuM.setTimerSys s.vCpu clockId abstime interval := by
  obtain ⟨enabled, behind⟩ := clocked.running running
  unfold setTimerSys XtratuM.setTimerSys
  split
  · rfl
  · next accepted =>
      split
      · rfl
      · next later =>
          unfold armTimer XtratuM.armTimer
          by_cases isExec : clockId = XM_EXEC_CLOCK
          · have sum : abstime + idle s.vCpu s.vCpu.vClock.delta ≤ MAX_XMTIME :=
              fits isExec (by omega)
            have nonneg : 0 ≤ abstime + idle s.vCpu s.vCpu.vClock.delta := by
              unfold idle
              omega
            have sound := passed_exact nonneg sum
            subst isExec
            simp [armVTimer, XtratuM.armVTimer, enabled, sound, XM_EXEC_CLOCK, XM_HW_CLOCK]
          · simp only [isExec, if_false]
            repeat' split
            all_goals rfl

/-- As long as the times fit, the 64-bit code takes the steps it takes on integers. -/
theorem clockNext_timerEffect {s s' : ClockedVCpu} {event : ClockEvent} (clocked : Clocked s)
    (fits : Fits s event) (next : ClockNext s event s') {event' : Timers.TimerEvent}
    (same : event.timerEvent = some event')
    : Timers.TimerEffect { vCpu := s.vCpu, running := s.running } event'
        { vCpu := s'.vCpu, running := s'.running } := by
  cases next with
  | setTimer running inRange =>
      cases same
      have exact' := setTimerSys_exact clocked running fits
      dsimp only
      rw [exact']
      exact .setTimer running
  | @leave now running reads =>
      cases same
      have exact' : stopVClock s.vCpu now = XtratuM.stopVClock s.vCpu now := by
        unfold stopVClock XtratuM.stopVClock
        rw [(counted clocked running reads).1]
      dsimp only
      rw [exact']
      exact .leave running
  | @enter now reads =>
      cases same
      have exact' : (resumeVClock s.vCpu now).1 = XtratuM.resumeVClock s.vCpu now := by
        unfold resumeVClock XtratuM.resumeVClock
        cases armed : s.vCpu.vTimer.armed with
        | true =>
            obtain ⟨low, high⟩ := fits armed
            simp [passed_exact low high]
        | false => simp
      dsimp only
      rw [exact']
      exact .enter
  | expire => cases same

/-- Every value that a run of stops, resumes, requests and expiries passes on to `SetHwTimer` is
one that its ASSERT accepts, exactly when each time the execution timer is set for fits.
-/
theorem setHwTimer_assert_holds {k : KThread} {past : List ClockEvent} {s : ClockedVCpu}
    : Reach (fun s event s' => ClockNext s event s' ∧ Passes s') (createdVCpu k) past s
      ↔ Reach (guarded Fits ClockNext) (createdVCpu k) past s :=
  Reach.good_iff_guarded (createdVCpu_clocked k) fun _ _ _ _ clocked next =>
    clocked_step clocked next

/-- A vCPU entered at time 100 that asks to be told when it has run for the longest time there is
trips the ASSERT.
-/
theorem longest_time_wraps
    : ¬ ∀ (k : KThread) (past : List ClockEvent) (s : ClockedVCpu),
        Reach ClockNext (createdVCpu k) past s → Passes s := by
  intro claimed
  have entered : Reach ClockNext (createdVCpu { flags := 0, g := none }) [.enter 100] _ :=
    .step .start (.enter ⟨by decide, by decide⟩)
  have asked : Reach ClockNext (createdVCpu { flags := 0, g := none })
      [.setTimer XM_EXEC_CLOCK MAX_XMTIME 0, .enter 100] _ :=
    .step entered (.setTimer rfl (le_refl _))
  exact absurd (claimed _ _ _ asked _ rfl) (by decide)

end XtratuM.ClockRequests
