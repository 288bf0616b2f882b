import XtratuM.Kernel.TimerQueue
import XtratuM.Library.Reachability

/-! The hardware timer of a processor, which `SetHwTimer` programs for the earliest expiry.
Readings of the clock are listed in the order in which they are made. Times are integers: the sums
of a device's interval and the clock, and of a timer's value and its interval, are taken to stay
within the 64 bits of `xmTime_t`.
-/

namespace XtratuM.HwTimers

open Reachability TimerQueue

def NEXT_ACT_IS_VALID : XmU32 := 0x1

/-- `hwTimer_t`, by the intervals it can be programmed for. -/
structure HwTimer where
  minInterval : Int
  maxInterval : Int
  positive : 0 < minInterval
  ordered : minInterval ≤ maxInterval

/-- `localTime_t`. -/
structure LocalTime where
  flags : XmU32
  nextAct : Int

/-- The queues of a processor: `none` is `globalActiveKTimers`, and `some k` the
`localActiveKTimers` of kthread `k`.
-/
structure ActiveKTimers (κ ν : Type) where
  lists : Lists (Option κ) ν
  nodes : Option κ → List ν
  holds : ∀ l, Holds lists l (nodes l)

/-- The timers of a processor, what its hardware timer was last programmed with, and the running
kthread, unless it is the idle one.
-/
structure CpuTime (κ ν σ : Type) where
  timers : Timers ν σ
  localTime : LocalTime
  interval : Option Int
  cKThread : Option κ

variable {κ ν σ : Type}

section Code

variable [DecidableEq ν]

def LocalTime.valid (localTime : LocalTime) : Bool :=
  localTime.flags &&& NEXT_ACT_IS_VALID != 0

/-- The part of `SetHwTimer` that programs the hardware timer. -/
def CpuTime.program (s : CpuTime κ ν σ) (device : HwTimer) (cTime : Int) : CpuTime κ ν σ :=
  let nextTime := s.localTime.nextAct - cTime
  let nextTime := if nextTime < device.minInterval then device.minInterval else nextTime
  let nextTime := if nextTime > device.maxInterval then device.maxInterval else nextTime
  { s with
    localTime := { s.localTime with nextAct := nextTime + cTime }
    interval := some nextTime }

/-- The traversals of `TimerHandler`. -/
def CpuTime.traverse (s : CpuTime κ ν σ) (queues : ActiveKTimers κ ν) (action : Actions ν σ)
    (cTime : Int) : Except Stop (CpuTime κ ν σ × Int) := do
  let (timers, nextAct) ←
    TimerQueue.traverseKTimerQueue queues.lists action none cTime s.timers
  match s.cKThread with
  | none => pure ({ s with timers }, nextAct)
  | some k => do
      let (timers, nLocalAct) ←
        TimerQueue.traverseKTimerQueue queues.lists action (some k) cTime timers
      pure ({ s with timers },
        if nLocalAct ≠ 0 ∧ nLocalAct < nextAct then nLocalAct else nextAct)

mutual

/-- `SetHwTimer`, with what is left of the readings; there is no result where they end first. -/
def setHwTimer (queues : ActiveKTimers κ ν) (action : Actions ν σ) (device : HwTimer)
    (readings : List Int) (nextAct : Int) (s : CpuTime κ ν σ)
    : Except Stop (Option (CpuTime κ ν σ × List Int)) := do
  assert (0 ≤ nextAct)
  if nextAct = 0 then
    pure (some (s, readings))
  else if s.localTime.valid ∧ s.localTime.nextAct ≤ nextAct then
    pure (some (s, readings))
  else
    match readings with
    | [] => pure none
    | cTime :: readings =>
        let s := { s with
          localTime := { flags := s.localTime.flags ||| NEXT_ACT_IS_VALID, nextAct } }
        if 0 ≤ nextAct - cTime then
          pure (some (s.program device cTime, readings))
        else
          timerHandler queues action device readings s

/-- `TimerHandler`. -/
def timerHandler (queues : ActiveKTimers κ ν) (action : Actions ν σ) (device : HwTimer)
    (readings : List Int) (s : CpuTime κ ν σ)
    : Except Stop (Option (CpuTime κ ν σ × List Int)) :=
  match readings with
  | [] => pure none
  | cTime :: readings => do
      let cleared := { s with
        localTime := { s.localTime with flags := s.localTime.flags &&& ~~~NEXT_ACT_IS_VALID } }
      let (s, nextAct) ← cleared.traverse queues action cTime
      setHwTimer queues action device readings nextAct s

end

def CpuTime.setKTimer (s : CpuTime κ ν σ) (n : ν) (kTimer : KTimer) : CpuTime κ ν σ :=
  { s with timers := s.timers.set n kTimer }

/-- `ArmKTimer`. -/
def armKTimer (queues : ActiveKTimers κ ν) (action : Actions ν σ) (device : HwTimer) (n : ν)
    (value interval : Int) (readings : List Int) (s : CpuTime κ ν σ)
    : Except Stop (Option (CpuTime κ ν σ × List Int)) :=
  setHwTimer queues action device readings value
    (s.setKTimer n (XtratuM.armKTimer (s.timers.timer n) value interval))

/-- `Schedule` at the time it reads, as far as the timers go: the queue of the next kthread is
traversed while the last one is still the running one.
-/
def switchKThread (queues : ActiveKTimers κ ν) (action : Actions ν σ) (device : HwTimer)
    (newK : Option κ) (readings : List Int) (s : CpuTime κ ν σ)
    : Except Stop (Option (CpuTime κ ν σ × List Int)) := do
  match newK, readings with
  | none, _ => pure (some ({ s with cKThread := none }, readings))
  | some _, [] => pure none
  | some k, cTime :: readings => do
      let (timers, nextAct) ←
        TimerQueue.traverseKTimerQueue queues.lists action (some k) cTime s.timers
      let programmed ← setHwTimer queues action device readings nextAct { s with timers }
      pure (programmed.map fun (s, readings) => ({ s with cKThread := some k }, readings))

-----------------------------------------------------------------------------------------
-- Runs

/-- What happens to a processor's timers, with all the readings of the clock it makes. -/
inductive TimeEvent (κ ν : Type)
  | arm (n : ν) (value interval : Int) (readings : List Int)
  | disarm (n : ν)
  | interrupt (readings : List Int)
  | switch (newK : Option κ) (readings : List Int)

/-- The readings of the event. -/
def TimeEvent.readings : TimeEvent κ ν → List Int
  | .arm _ _ _ readings => readings
  | .disarm _ => []
  | .interrupt readings => readings
  | .switch _ readings => readings

def TimeEvent.run (queues : ActiveKTimers κ ν) (action : Actions ν σ) (device : HwTimer)
    (s : CpuTime κ ν σ) : TimeEvent κ ν → Except Stop (Option (CpuTime κ ν σ × List Int))
  | .arm n value interval readings => armKTimer queues action device n value interval readings s
  | .disarm n =>
      .ok (some (s.setKTimer n (disarmKTimer (s.timers.timer n)), []))
  | .interrupt readings => timerHandler queues action device readings s
  | .switch newK readings => switchKThread queues action device newK readings s

/-- A processor, and the time last read from its clock. -/
structure Clocked (κ ν σ : Type) where
  cpu : CpuTime κ ν σ
  cTime : Int

/-- An event that ends, on a clock that does not go back. -/
structure TimeNext (queues : ActiveKTimers κ ν) (action : Actions ν σ) (device : HwTimer)
    (s : Clocked κ ν σ) (event : TimeEvent κ ν) (s' : Clocked κ ν σ) : Prop where
  run : event.run queues action device s.cpu = .ok (some (s'.cpu, []))
  clock : (s.cTime :: event.readings).Pairwise (· ≤ ·)
  cTime : s'.cTime = event.readings.getLastD s.cTime

/-- A processor at boot: the memory of its timers is zeroed. -/
def bootedCpu (world : σ) : Clocked κ ν σ where
  cTime := 0
  cpu :=
    { timers :=
        { timer := fun _ => { value := 0, interval := 0, flags := 0 }, world, calls := [] }
      localTime := { flags := 0, nextAct := 0 }
      interval := none
      cKThread := none }

end Code

-----------------------------------------------------------------------------------------
-- Expiries

/-- `time` is the first after `cTime` at which the timer is due. -/
def DueNext (cTime : Int) (kTimer : KTimer) (time : Int) : Prop :=
  kTimer.armed = true
    ∧ IsLeast
      { t | cTime < t ∧ (t = kTimer.value
        ∨ 0 < kTimer.interval ∧ kTimer.value ≤ t ∧ t ≡ kTimer.value [ZMOD kTimer.interval]) }
      time

/-- The times a traversal of the two queues at `cTime` chooses from: the next expiry of each armed
timer, and the last time there is.
-/
def expiries (queues : ActiveKTimers κ ν) (s : CpuTime κ ν σ) (cTime : Int) : Set Int :=
  insert MAX_XMTIME
    { time | ∃ l, (l = none ∨ l = s.cKThread) ∧ ∃ n ∈ queues.nodes l,
      DueNext cTime (s.timers.timer n) time }

/-- The time a timer is left armed for is the next at which it was due. -/
theorem armed_iff_dueNext {cTime time : Int} {kTimer kTimer' : KTimer}
    (settled : Settled cTime kTimer kTimer')
    : kTimer'.armed = true ∧ kTimer'.value = time ↔ DueNext cTime kTimer time := by
  by_cases expires : Expires cTime kTimer
  · by_cases periodic : 0 < kTimer.interval
    · obtain ⟨flags, least⟩ := settled.periodic expires periodic
      have armed : kTimer'.armed = true := by
        simpa [KTimer.armed, flags] using expires.1
      have same : { t | cTime < t ∧ (t = kTimer.value
          ∨ 0 < kTimer.interval ∧ kTimer.value ≤ t ∧ t ≡ kTimer.value [ZMOD kTimer.interval]) }
          = { t | cTime < t ∧ t ≡ kTimer.value [ZMOD kTimer.interval] } := by
        ext t
        refine and_congr_right fun later => ⟨?_, ?_⟩
        · rintro (rfl | ⟨_, _, congruent⟩)
          · exact Int.ModEq.refl _
          · exact congruent
        · exact fun congruent => Or.inr ⟨periodic, expires.2.trans later.le, congruent⟩
      rw [DueNext, same]
      constructor
      · rintro ⟨_, rfl⟩
        exact ⟨expires.1, least⟩
      · exact fun due => ⟨armed, least.unique due.2⟩
    · obtain ⟨off, _⟩ := settled.oneShot expires periodic
      refine iff_of_false (fun armed => ?_) ?_
      · rw [off] at armed
        cases armed.1
      · rintro ⟨_, ⟨later, same | ⟨positive, _⟩⟩, _⟩
        · have past := expires.2
          omega
        · exact periodic positive
  · rw [settled.other expires]
    have future (armed : kTimer.armed = true) : cTime < kTimer.value := by
      by_contra past
      exact expires ⟨armed, not_lt.mp past⟩
    constructor
    · rintro ⟨armed, rfl⟩
      refine ⟨armed, ⟨future armed, Or.inl rfl⟩, ?_⟩
      rintro t ⟨_, rfl | ⟨_, after, _⟩⟩
      · exact le_refl _
      · exact after
    · rintro ⟨armed, least⟩
      refine ⟨armed, le_antisymm ?_ ?_⟩
      · rcases least.1.2 with rfl | ⟨_, after, _⟩
        · exact le_refl _
        · exact after
      · exact least.2 ⟨future armed, Or.inl rfl⟩

/-- A traversal does not change when its timers are due after it. -/
theorem dueNext_settled {cTime later time : Int} {kTimer kTimer' : KTimer}
    (settled : Settled cTime kTimer kTimer') (order : cTime ≤ later)
    : DueNext later kTimer' time ↔ DueNext later kTimer time := by
  by_cases expires : Expires cTime kTimer
  · by_cases periodic : 0 < kTimer.interval
    · obtain ⟨flags, least⟩ := settled.periodic expires periodic
      have congruent := least.1.2
      have same : { t | later < t ∧ (t = kTimer'.value ∨ 0 < kTimer'.interval
            ∧ kTimer'.value ≤ t ∧ t ≡ kTimer'.value [ZMOD kTimer'.interval]) }
          = { t | later < t ∧ (t = kTimer.value ∨ 0 < kTimer.interval
            ∧ kTimer.value ≤ t ∧ t ≡ kTimer.value [ZMOD kTimer.interval]) } := by
        ext t
        rw [settled.interval]
        refine and_congr_right fun after => ⟨?_, ?_⟩
        · rintro (rfl | ⟨_, _, periods⟩)
          · have past := expires.2
            exact Or.inr ⟨periodic, by omega, congruent⟩
          · have past := expires.2
            exact Or.inr ⟨periodic, by omega, periods.trans congruent⟩
        · rintro (rfl | ⟨_, _, periods⟩)
          · have past := expires.2
            omega
          · refine Or.inr ⟨periodic, least.2 ⟨by omega, periods⟩, periods.trans congruent.symm⟩
      rw [DueNext, DueNext, same, KTimer.armed, KTimer.armed, flags]
    · obtain ⟨off, value⟩ := settled.oneShot expires periodic
      refine iff_of_false (fun due => ?_) ?_
      · rw [DueNext, off] at due
        cases due.1
      · rintro ⟨_, ⟨after, same | ⟨positive, _⟩⟩, _⟩
        · have past := expires.2
          omega
        · exact periodic positive
  · rw [settled.other expires]

theorem dueNext_later {cTime time : Int} {kTimer : KTimer} (due : DueNext cTime kTimer time)
    : cTime < time :=
  due.2.1.1

/-- A traversal of the two queues settles every timer of them. -/
def SettledQueues (queues : ActiveKTimers κ ν) (s : CpuTime κ ν σ) (cTime : Int)
    (timers : Timers ν σ) : Prop :=
  ∀ l, (l = none ∨ l = s.cKThread) → ∀ n ∈ queues.nodes l,
    Settled cTime (s.timers.timer n) (timers.timer n)

theorem SettledQueues.expiries_eq {queues : ActiveKTimers κ ν} {s : CpuTime κ ν σ} {cTime : Int}
    {timers : Timers ν σ} (settled : SettledQueues queues s cTime timers)
    : expiries queues s cTime = insert MAX_XMTIME
      { time | ∃ l, (l = none ∨ l = s.cKThread)
        ∧ time ∈ armedValues timers.timer (queues.nodes l) } := by
  have same (time : Int) : (∃ l, (l = none ∨ l = s.cKThread) ∧ ∃ n ∈ queues.nodes l,
      DueNext cTime (s.timers.timer n) time)
      ↔ ∃ l, (l = none ∨ l = s.cKThread)
        ∧ time ∈ armedValues timers.timer (queues.nodes l) := by
    refine exists_congr fun l => and_congr_right fun active => exists_congr fun n => ?_
    exact and_congr_right fun member => (armed_iff_dueNext (settled l active n member)).symm
  unfold expiries
  simp only [same]

theorem SettledQueues.expiries_later {queues : ActiveKTimers κ ν} {s : CpuTime κ ν σ}
    {cTime later : Int} {timers : Timers ν σ} (settled : SettledQueues queues s cTime timers)
    (order : cTime ≤ later)
    : expiries queues { s with timers } later = expiries queues s later := by
  have same (time : Int) : (∃ l, (l = none ∨ l = s.cKThread) ∧ ∃ n ∈ queues.nodes l,
      DueNext later (timers.timer n) time)
      ↔ ∃ l, (l = none ∨ l = s.cKThread) ∧ ∃ n ∈ queues.nodes l,
        DueNext later (s.timers.timer n) time := by
    refine exists_congr fun l => and_congr_right fun active => exists_congr fun n => ?_
    exact and_congr_right fun member => dueNext_settled (settled l active n member) order
  unfold expiries
  simp only [same]

/-- `if (nLocalAct && nLocalAct < nextAct)`, where neither is 0. -/
theorem isLeast_local {a b m : Int} {first rest : Set Int} (head : IsLeast (insert m first) a)
    (tail : IsLeast (insert m rest) b) (nonzero : b ≠ 0)
    : IsLeast (insert m (first ∪ rest)) (if b ≠ 0 ∧ b < a then b else a) := by
  have both : IsLeast (insert m first ∪ insert m rest) (min a b) := head.union tail
  have union : insert m first ∪ insert m rest = insert m (first ∪ rest) := by
    ext x
    simp only [Set.mem_union, Set.mem_insert_iff]
    tauto
  have least : (if b ≠ 0 ∧ b < a then b else a) = min a b := by
    split
    · next sooner => exact (min_eq_right sooner.2.le).symm
    · next later =>
        rw [not_and] at later
        exact (min_eq_left (not_lt.mp (later nonzero))).symm
  rw [least, ← union]
  exact both

theorem expiries_positive {queues : ActiveKTimers κ ν} {s : CpuTime κ ν σ} {cTime time : Int}
    (nonneg : 0 ≤ cTime) (expiry : time ∈ expiries queues s cTime)
    : 0 < time := by
  rcases expiry with rfl | ⟨_, _, _, _, due⟩
  · decide
  · have later := dueNext_later due
    omega

/-- The hardware timer is programmed for a time that is not after `time` exactly when the minimum
interval is over by then, and the wanted time has come or the maximum interval is over too.
-/
theorem program_le (s : CpuTime κ ν σ) (device : HwTimer) (cTime time : Int)
    : (s.program device cTime).localTime.nextAct ≤ time
      ↔ cTime + device.minInterval ≤ time
        ∧ (s.localTime.nextAct ≤ time ∨ cTime + device.maxInterval ≤ time) := by
  have ordered := device.ordered
  unfold CpuTime.program
  dsimp only
  split <;> split <;> omega

section Calls

variable [DecidableEq ν]

/-- The traversals of `TimerHandler` end, return the first expiry after their time, and leave
when the timers are due later as it was.
-/
theorem traverse_spec (queues : ActiveKTimers κ ν) (action : Actions ν σ) (s : CpuTime κ ν σ)
    {cTime : Int} (nonneg : 0 ≤ cTime)
    : ∃ timers nextAct, s.traverse queues action cTime = .ok ({ s with timers }, nextAct)
      ∧ SettledQueues queues s cTime timers
      ∧ IsLeast (expiries queues s cTime) nextAct := by
  obtain ⟨first, nextAct, globally, ofGlobal, _⟩ :=
    traverseKTimerQueue_settles (queues.holds none) action cTime s.timers
  unfold CpuTime.traverse
  rw [globally, ok_bind]
  cases current : s.cKThread with
  | none =>
      have settled : SettledQueues queues s cTime first := by
        rintro l (rfl | rfl)
        · exact ofGlobal.settled
        · rw [current]
          exact ofGlobal.settled
      refine ⟨_, _, rfl, settled, ?_⟩
      rw [settled.expiries_eq]
      simpa [current] using ofGlobal.least
  | some k =>
      obtain ⟨second, nLocalAct, locally, ofLocal, _⟩ :=
        traverseKTimerQueue_settles (queues.holds (some k)) action cTime first
      have apart : ∀ n ∈ queues.nodes none, n ∉ queues.nodes (some k) := fun n member =>
        (queues.holds (some k)).disjoint (queues.holds none) (by simp) member
      have settled : SettledQueues queues s cTime second := by
        rintro l (rfl | rfl)
        · intro n member
          rw [ofLocal.others n (apart n member)]
          exact ofGlobal.settled n member
        · rw [current]
          intro n member
          rw [← ofGlobal.others n fun inside => apart n inside member]
          exact ofLocal.settled n member
      dsimp only
      rw [locally, ok_bind]
      refine ⟨_, _, rfl, settled, ?_⟩
      have globals : armedValues second.timer (queues.nodes none)
          = armedValues first.timer (queues.nodes none) := by
        ext value
        refine exists_congr fun n => and_congr_right fun member => ?_
        rw [ofLocal.others n (apart n member)]
      have values : { time | ∃ l, (l = none ∨ l = s.cKThread)
            ∧ time ∈ armedValues second.timer (queues.nodes l) }
          = armedValues first.timer (queues.nodes none)
            ∪ armedValues second.timer (queues.nodes (some k)) := by
        rw [← globals]
        ext value
        simp [current]
      have nonzero : nLocalAct ≠ 0 := by
        rcases ofLocal.least.1 with rfl | ⟨n, member, armed, rfl⟩
        · decide
        · have due := (armed_iff_dueNext (ofLocal.settled n member)).mp ⟨armed, rfl⟩
          have later := dueNext_later due
          omega
      rw [settled.expiries_eq, values]
      exact isLeast_local ofGlobal.least ofLocal.least nonzero

-----------------------------------------------------------------------------------------
-- Programming

/-- `SetHwTimer` where no expiry is programmed that comes first. -/
theorem setHwTimer_sooner (queues : ActiveKTimers κ ν) (action : Actions ν σ) (device : HwTimer)
    {nextAct : Int} {s : CpuTime κ ν σ} (positive : 0 < nextAct)
    (sooner : ¬ (s.localTime.valid ∧ s.localTime.nextAct ≤ nextAct)) (readings : List Int)
    : setHwTimer queues action device readings nextAct s
      = match readings with
        | [] => .ok none
        | cTime :: readings =>
            if 0 ≤ nextAct - cTime then
              .ok (some (CpuTime.program { s with
                localTime := { flags := s.localTime.flags ||| NEXT_ACT_IS_VALID, nextAct } }
                device cTime, readings))
            else
              timerHandler queues action device readings { s with
                localTime := { flags := s.localTime.flags ||| NEXT_ACT_IS_VALID, nextAct } } := by
  rw [setHwTimer.eq_def, assert_of positive.le, ok_bind, if_neg positive.ne', if_neg sooner]
  cases readings <;> rfl

/-- A processor whose programmed expiry is not valid any more. -/
theorem cleared_not_valid (flags : XmU32) (nextAct : Int)
    : (LocalTime.mk (flags &&& ~~~NEXT_ACT_IS_VALID) nextAct).valid = false := by
  simp [LocalTime.valid, flag_cleared]

/-- A round of `TimerHandler`: it programs the first expiry after its time, or starts again where
that has come by the next reading.
-/
theorem timerHandler_cons (queues : ActiveKTimers κ ν) (action : Actions ν σ) (device : HwTimer)
    {cTime : Int} (nonneg : 0 ≤ cTime) (readings : List Int) (s : CpuTime κ ν σ)
    : ∃ settled : CpuTime κ ν σ, IsLeast (expiries queues s cTime) settled.localTime.nextAct
      ∧ (∀ later, cTime ≤ later → expiries queues settled later = expiries queues s later)
      ∧ timerHandler queues action device (cTime :: readings) s
        = match readings with
          | [] => .ok none
          | again :: rest =>
              if 0 ≤ settled.localTime.nextAct - again then
                .ok (some (settled.program device again, rest))
              else
                timerHandler queues action device rest settled := by
  obtain ⟨timers, nextAct, traversed, settled, least⟩ := traverse_spec queues action
    { s with
      localTime := { s.localTime with flags := s.localTime.flags &&& ~~~NEXT_ACT_IS_VALID } }
    nonneg
  refine ⟨{ s with
    timers
    localTime :=
      { flags := s.localTime.flags &&& ~~~NEXT_ACT_IS_VALID ||| NEXT_ACT_IS_VALID, nextAct } },
    least, fun later order => settled.expiries_later order, ?_⟩
  rw [timerHandler, traversed, ok_bind]
  exact setHwTimer_sooner _ _ _ (expiries_positive nonneg least.1) (by simp [cleared_not_valid]) _

/-- `TimerHandler` reads the clock once more after it has handled the timers, and starts again
where the next of them is due by then; the last two readings tell what it programs.
-/
theorem timerHandler_programs {queues : ActiveKTimers κ ν} {action : Actions ν σ}
    {device : HwTimer} {readings : List Int} (nonneg : ∀ cTime ∈ readings, 0 ≤ cTime)
    (sorted : readings.Pairwise (· ≤ ·)) {s s' : CpuTime κ ν σ}
    (returned : timerHandler queues action device readings s = .ok (some (s', [])))
    : ∃ earlier handled last nextAct, readings = earlier ++ [handled, last]
      ∧ IsLeast (expiries queues s handled) nextAct
      ∧ ∀ time, s'.localTime.nextAct ≤ time ↔ last + device.minInterval ≤ time
        ∧ (nextAct ≤ time ∨ last + device.maxInterval ≤ time) := by
  induction readings using List.twoStepInduction generalizing s with
  | nil => cases returned
  | singleton cTime =>
      obtain ⟨settled, _, _, round⟩ :=
        timerHandler_cons queues action device (nonneg cTime (by simp)) [] s
      rw [round] at returned
      cases returned
  | cons_cons cTime again rest ih _ =>
      obtain ⟨settled, least, later, round⟩ :=
        timerHandler_cons queues action device (nonneg cTime (by simp)) (again :: rest) s
      rw [round] at returned
      dsimp only at returned
      split at returned
      · cases returned
        exact ⟨[], cTime, again, _, rfl, least, fun time => program_le _ _ _ _⟩
      · obtain ⟨ahead, sorted⟩ := List.pairwise_cons.mp sorted
        obtain ⟨earlier, handled, last, next, rfl, least, programs⟩ := ih
          (fun c member => nonneg c (by simp [member])) (List.pairwise_cons.mp sorted).2 returned
        refine ⟨cTime :: again :: earlier, handled, last, next, rfl, ?_, programs⟩
        rwa [later handled (ahead handled (by simp))] at least

-----------------------------------------------------------------------------------------
-- Arming

/-- Arming a timer for `value` leaves the programmed expiry no later: the value does not come
before it, or the minimum interval is over by then, counted from the last reading of the clock;
and a value in the past, for which the timers are handled first, needs a timer that is due by then
as well, or the maximum interval to be over.
-/
def KeepsExpiry (queues : ActiveKTimers κ ν) (device : HwTimer) (s : CpuTime κ ν σ) (n : ν)
    (value interval : Int) (readings : List Int) : Prop :=
  s.localTime.nextAct ≤ value
    ∨ ∃ earlier last, readings = earlier ++ [last]
      ∧ last + device.minInterval ≤ s.localTime.nextAct
      ∧ (last ≤ value
        ∨ last + device.maxInterval ≤ s.localTime.nextAct
        ∨ ∃ handled time, earlier.getLast? = some handled
          ∧ time ∈ expiries queues
            (s.setKTimer n (XtratuM.armKTimer (s.timers.timer n) value interval)) handled
          ∧ time ≤ s.localTime.nextAct)

/-- An arming ends, where no timer is due between the reading at which the timers are handled and
the next one.
-/
theorem armKTimer_returns (queues : ActiveKTimers κ ν) (action : Actions ν σ) (device : HwTimer)
    (s : CpuTime κ ν σ) (n : ν) {value : Int} (positive : 0 < value) (interval cTime : Int)
    {handled last : Int} (nonneg : 0 ≤ handled)
    (calm : ∀ time ∈ expiries queues
      (s.setKTimer n (XtratuM.armKTimer (s.timers.timer n) value interval)) handled, last ≤ time)
    : ∃ s' rest, armKTimer queues action device n value interval [cTime, handled, last] s
      = .ok (some (s', rest)) := by
  unfold armKTimer
  by_cases sooner : s.localTime.valid ∧ s.localTime.nextAct ≤ value
  · rw [setHwTimer.eq_def, assert_of positive.le, ok_bind, if_neg positive.ne']
    exact ⟨_, _, if_pos sooner⟩
  · rw [setHwTimer_sooner queues action device positive
      (s := s.setKTimer n (XtratuM.armKTimer (s.timers.timer n) value interval)) sooner]
    dsimp only
    split
    · exact ⟨_, _, rfl⟩
    · obtain ⟨settled, least, _, round⟩ :=
        timerHandler_cons queues action device nonneg [last]
          { s.setKTimer n (XtratuM.armKTimer (s.timers.timer n) value interval) with
            localTime :=
              { flags := s.localTime.flags ||| NEXT_ACT_IS_VALID, nextAct := value } }
      have time := calm _ least.1
      dsimp only at round
      rw [if_pos (by omega)] at round
      exact ⟨_, _, round⟩

theorem armKTimer_keepsExpiry {queues : ActiveKTimers κ ν} {action : Actions ν σ}
    {device : HwTimer} {s s' : CpuTime κ ν σ} {n : ν} {value interval : Int} {readings : List Int}
    (valid : s.localTime.valid = true) (positive : 0 < value)
    (nonneg : ∀ cTime ∈ readings, 0 ≤ cTime) (sorted : readings.Pairwise (· ≤ ·))
    (returned : armKTimer queues action device n value interval readings s
      = .ok (some (s', [])))
    : s'.localTime.nextAct ≤ s.localTime.nextAct
      ↔ KeepsExpiry queues device s n value interval readings := by
  unfold armKTimer at returned
  by_cases later : s.localTime.nextAct ≤ value
  · refine iff_of_true ?_ (Or.inl later)
    rw [setHwTimer.eq_def, assert_of positive.le, ok_bind, if_neg positive.ne',
      if_pos ⟨valid, later⟩] at returned
    cases returned
    exact le_refl _
  · rw [setHwTimer_sooner queues action device positive
      (s := s.setKTimer n (XtratuM.armKTimer (s.timers.timer n) value interval))
      fun both => later both.2] at returned
    cases readings with
    | nil => cases returned
    | cons cTime rest =>
        dsimp only at returned
        split at returned
        · next future =>
            cases returned
            rw [program_le]
            dsimp only
            constructor
            · rintro ⟨elapsed, _⟩
              exact Or.inr ⟨[], cTime, rfl, elapsed, Or.inl (by omega)⟩
            · rintro (value | ⟨earlier, last, split, elapsed, _⟩)
              · exact absurd value later
              · have same := congrArg List.getLast? split
                simp only [List.getLast?_singleton, List.getLast?_append, Option.some_or,
                  Option.some.injEq] at same
                exact ⟨same ▸ elapsed, Or.inl (by omega)⟩
        · next past =>
            obtain ⟨ahead, sorted⟩ := List.pairwise_cons.mp sorted
            obtain ⟨earlier, handled, last, nextAct, rfl, least, programs⟩ :=
              timerHandler_programs (fun c member => nonneg c (by simp [member])) sorted returned
            have behind := ahead last (by simp)
            rw [programs]
            constructor
            · rintro ⟨elapsed, due⟩
              refine Or.inr ⟨cTime :: earlier ++ [handled], last, by simp, elapsed, Or.inr ?_⟩
              rcases due with due | maximum
              · exact Or.inr ⟨handled, nextAct, List.getLast?_concat .., least.1, due⟩
              · exact Or.inl maximum
            · rintro (value | ⟨before, final, split, elapsed, cases'⟩)
              · exact absurd value later
              · have parts : cTime :: earlier ++ [handled] = before ∧ last = final := by
                  have same : (cTime :: earlier ++ [handled]) ++ [last] = before ++ [final] := by
                    rw [← split]
                    simp
                  simpa using List.append_inj' same rfl
                obtain ⟨rfl, rfl⟩ := parts
                refine ⟨elapsed, ?_⟩
                rcases cases' with early | maximum | ⟨c, time, isLast, expiry, due⟩
                · omega
                · exact Or.inr maximum
                · rw [List.getLast?_concat] at isLast
                  cases isLast
                  exact Or.inl ((least.2 expiry).trans due)

theorem cTime_nonneg {queues : ActiveKTimers κ ν} {action : Actions ν σ} {device : HwTimer}
    {world : σ} {past : List (TimeEvent κ ν)} {s : Clocked κ ν σ}
    (run : Reach (TimeNext queues action device) (bootedCpu world) past s)
    : 0 ≤ s.cTime := by
  refine run.invariant (P := fun s => 0 ≤ s.cTime) (le_refl _) ?_
  intro s event s' nonneg next
  have ahead := (List.pairwise_cons.mp next.clock).1
  rw [next.cTime]
  rcases List.eq_nil_or_concat event.readings with none | ⟨earlier, last, same⟩
  · simpa [none] using nonneg
  · rw [same] at ahead ⊢
    simpa using nonneg.trans (ahead last (by simp))

/-- In every reachable state with a programmed expiry, arming a timer leaves that expiry no later
exactly when its value and the readings of the clock keep it.
-/
theorem armKTimer_not_later {queues : ActiveKTimers κ ν} {action : Actions ν σ}
    {device : HwTimer} {world : σ} {past : List (TimeEvent κ ν)} {s s' : Clocked κ ν σ} {n : ν}
    {value interval : Int} {readings : List Int}
    (run : Reach (TimeNext queues action device) (bootedCpu world) past s)
    (valid : s.cpu.localTime.valid = true) (positive : 0 < value)
    (armed : TimeNext queues action device s (.arm n value interval readings) s')
    : s'.cpu.localTime.nextAct ≤ s.cpu.localTime.nextAct
      ↔ KeepsExpiry queues device s.cpu n value interval readings := by
  obtain ⟨ahead, sorted⟩ := List.pairwise_cons.mp armed.clock
  have start := cTime_nonneg run
  exact armKTimer_keepsExpiry valid positive (fun c member => start.trans (ahead c member)) sorted
    armed.run

end Calls

/-- The scheduler's timer, `true`, and the hardware-clock timer of the one vCPU, `false`. -/
def twoQueues : ActiveKTimers Unit Bool where
  lists :=
    { node := fun n =>
        { list := some (if n then none else some ()), prev := some n, next := some n }
      list := fun l => { head := some l.isNone, noElem := 1 } }
  nodes l := [l.isNone]
  holds l :=
    { distinct := by simp
      circle := by
        change List.IsChain _ [l.isNone, l.isNone]
        rw [List.isChain_cons_cons]
        exact ⟨⟨rfl, rfl⟩, List.isChain_singleton _⟩
      head_eq := rfl
      noElem_eq := rfl
      owned := by
        intro n member
        cases List.mem_singleton.mp member
        cases l <;> rfl }

/-- The intervals of the local APIC's timer, in microseconds. -/
def lapicTimer : HwTimer where
  minInterval := 50
  maxInterval := 1000000
  positive := by decide
  ordered := by decide

def twoActions : Actions Bool Unit :=
  fun _ => some id

/-- The slot ends at time 60, and the vCPU is entered at time 5. -/
def slotEvents : List (TimeEvent Unit Bool) :=
  [.switch (some ()) [5], .arm true 60 0 [0]]

theorem slot_run
    : ∃ cpu, Reach (TimeNext twoQueues twoActions lapicTimer) (bootedCpu ()) slotEvents
          { cpu, cTime := 5 }
        ∧ cpu.localTime.valid = true ∧ cpu.localTime.nextAct = 60
        ∧ (∃ cpu', TimeNext twoQueues twoActions lapicTimer { cpu, cTime := 5 }
          (.arm false 55 0 [6]) { cpu := cpu', cTime := 6 })
        ∧ ∃ cpu', TimeNext twoQueues twoActions lapicTimer { cpu, cTime := 5 }
          (.arm false 55 0 [20]) { cpu := cpu', cTime := 20 } ∧ cpu'.localTime.nextAct = 70 := by
  refine ⟨_, .step (s := { cpu := _, cTime := 0 }) (.step .start ⟨rfl, by decide, rfl⟩)
    ⟨rfl, by decide, rfl⟩, rfl, rfl, ⟨_, rfl, by decide, rfl⟩, ⟨_, ⟨rfl, by decide, rfl⟩, rfl⟩⟩

/-- A timer that the vCPU arms for time 55 at time 6 keeps the end of its slot. -/
theorem armKTimer_not_later_slot
    : ∃ s s' : Clocked Unit Bool Unit,
        TimeNext twoQueues twoActions lapicTimer s (.arm false 55 0 [6]) s'
        ∧ s'.cpu.localTime.nextAct ≤ s.cpu.localTime.nextAct := by
  obtain ⟨cpu, run, valid, slotEnd, ⟨cpu', armed⟩, _⟩ := slot_run
  refine ⟨_, _, armed, (armKTimer_not_later run valid (by decide) armed).mpr ?_⟩
  exact Or.inr ⟨[], 6, rfl, by rw [slotEnd]; decide, Or.inl (by decide)⟩

/-- Armed for time 55 at time 20, within the minimum interval, it moves the end of the slot from
time 60 to time 70.
-/
theorem minimum_interval_postpones
    : ¬ ∀ (device : HwTimer) (past : List (TimeEvent Unit Bool)) (s s' : Clocked Unit Bool Unit)
        (n : Bool) (value interval cTime : Int),
        Reach (TimeNext twoQueues twoActions device) (bootedCpu ()) past s →
        s.cpu.localTime.valid = true → cTime < s.cpu.localTime.nextAct → 0 < value →
        TimeNext twoQueues twoActions device s (.arm n value interval [cTime]) s' →
        s'.cpu.localTime.nextAct ≤ s.cpu.localTime.nextAct := by
  intro claimed
  obtain ⟨cpu, run, valid, slotEnd, _, cpu', armed, postponed⟩ := slot_run
  have kept := claimed _ _ _ _ _ _ _ _ run valid (by rw [slotEnd]; decide) (by decide) armed
  rw [slotEnd, postponed] at kept
  exact absurd kept (by decide)

end XtratuM.HwTimers
