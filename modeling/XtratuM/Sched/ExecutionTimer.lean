import XtratuM.Kernel.KTimer
import XtratuM.Library.Reachability

/-! Runs of one vCPU under cyclic scheduling and its execution timer. A clock reading is part
of the step that makes it, and may be any time.
-/

namespace XtratuM.Timers

open Reachability

structure TimedVCpu where
  vCpu : VCpu
  running : Bool

/-- What happens to a vCPU's timers. -/
inductive TimerEvent
  /-- `SetTimerSys` by the running vCPU. -/
  | setTimer (clockId : XmU32) (abstime interval : Int)
  /-- `Schedule` leaves the vCPU and stops its clock. -/
  | leave (now : Int)
  /-- The clock is resumed: after a switch to the vCPU, or where it starts at its entry point. -/
  | enter (now : Int)
  /-- A traversal of the vCPU's queue: for the running vCPU on a timer interrupt and from
  `SetHwTimer`, and in `Schedule` for the vCPU that is about to be entered.
  -/
  | traverse (cTime : Int)
  deriving DecidableEq

/-- The time the event reads from the clock. -/
def TimerEvent.reading : TimerEvent → Option Int
  | .setTimer _ _ _ => none
  | .leave now => some now
  | .enter now => some now
  | .traverse cTime => some cTime

/-- A step is recorded with the state it was taken in. -/
structure TimerStep where
  before : TimedVCpu
  event : TimerEvent

/-- The effect of an event; a traversal that stops at an ASSERT has no next state. -/
inductive TimerEffect : TimedVCpu → TimerEvent → TimedVCpu → Prop
  | setTimer {s clockId abstime interval} (running : s.running = true)
    : TimerEffect s (.setTimer clockId abstime interval)
        { s with vCpu := (setTimerSys s.vCpu clockId abstime interval).2 }
  | leave {s now} (running : s.running = true)
    : TimerEffect s (.leave now) { vCpu := stopVClock s.vCpu now, running := false }
  | enter {s now}
    : TimerEffect s (.enter now) { vCpu := resumeVClock s.vCpu now, running := true }
  | traverse {s cTime g nextAct} (returned : traverseKTimerQueue s.vCpu cTime = .ok (g, nextAct))
    : TimerEffect s (.traverse cTime) { s with vCpu := g }

def TimerNext (s : TimedVCpu) (step : TimerStep) (s' : TimedVCpu) : Prop :=
  step.before = s ∧ TimerEffect s step.event s'

/-- A vCPU as `CreatePartition` leaves it: its memory was zeroed. -/
def createdVCpu (k : KThread) : TimedVCpu where
  running := false
  vCpu :=
    { k
      vClock := { acc := 0, delta := 0, flags := 0 }
      vTimer :=
        { value := 0, interval := 0, flags := 0
          kTimer := { value := 0, interval := 0, flags := 0 } }
      kTimer := { value := 0, interval := 0, flags := 0 }
      watchdogTimer := { value := 0, interval := 0, flags := 0 }
      hmEvents := [] }

/-- The call arms the execution timer. -/
def TimerEvent.ArmsExecTimer (event : TimerEvent) : Prop :=
  ∃ abstime interval, 0 < abstime ∧ 0 ≤ interval
    ∧ event = .setTimer XM_EXEC_CLOCK abstime interval

/-- The call disarms the execution timer. -/
def TimerEvent.DisarmsExecTimer (event : TimerEvent) : Prop :=
  ∃ interval, 0 ≤ interval ∧ event = .setTimer XM_EXEC_CLOCK 0 interval

/-- The execution timer was disarmed while the timer behind it was armed, and has not been
armed since.
-/
def DisarmedWhileArmed (past : List TimerStep) : Prop :=
  Since
    (fun step _ => step.event.DisarmsExecTimer ∧ step.before.vCpu.vTimer.kTimer.armed = true)
    (fun step => step.event.ArmsExecTimer)
    past

-----------------------------------------------------------------------------------------
-- Invariant

/-- Both timers of the execution timer are armed. -/
def BothArmed (g : VCpu) : Prop :=
  g.vTimer.kTimer.armed = true ∧ g.vTimer.armed = true

/-- Only the timer behind it is. -/
def Orphaned (g : VCpu) : Prop :=
  g.vTimer.kTimer.armed = true ∧ g.vTimer.armed = false

/-- Hypercalls find the clock running, and timers that are both armed have a running clock and
agree on the interval.
-/
structure Coupled (s : TimedVCpu) : Prop where
  running : s.running = true → s.vCpu.vClock.enabled = true
  enabled : BothArmed s.vCpu → s.vCpu.vClock.enabled = true
  interval : BothArmed s.vCpu → s.vCpu.vTimer.kTimer.interval = s.vCpu.vTimer.interval

theorem createdVCpu_disarmed (k : KThread)
    : (createdVCpu k).vCpu.vTimer.kTimer.armed = false := by
  simp [createdVCpu, KTimer.armed]

theorem createdVCpu_coupled (k : KThread) : Coupled (createdVCpu k) where
  running stopped := by cases stopped
  enabled both := by simp [BothArmed, createdVCpu_disarmed] at both
  interval both := by simp [BothArmed, createdVCpu_disarmed] at both

/-- Events that leave the clock and the execution timer as they are. -/
theorem Coupled.same {s : TimedVCpu} (coupled : Coupled s) {g : VCpu}
    (same : SameExecTimer s.vCpu g)
    : Coupled { s with vCpu := g } where
  running := by simpa [same.vClock] using coupled.running
  enabled := by simpa [BothArmed, same.vClock, same.vTimer] using coupled.enabled
  interval := by simpa [BothArmed, same.vTimer] using coupled.interval

/-- What `SetTimerSys` does to the execution timer: it is armed, disarmed or left alone. -/
theorem setTimerSys_effect (g : VCpu) (clockId : XmU32) (abstime interval : Int)
    : ((TimerEvent.setTimer clockId abstime interval).ArmsExecTimer
        ∧ (setTimerSys g clockId abstime interval).2
          = { g with vTimer := armVTimer g.vTimer g.vClock abstime interval })
      ∨ ((TimerEvent.setTimer clockId abstime interval).DisarmsExecTimer
        ∧ (setTimerSys g clockId abstime interval).2
          = { g with vTimer := disarmVTimer g.vTimer })
      ∨ (¬ (TimerEvent.setTimer clockId abstime interval).ArmsExecTimer
        ∧ ¬ (TimerEvent.setTimer clockId abstime interval).DisarmsExecTimer
        ∧ SameExecTimer g (setTimerSys g clockId abstime interval).2) := by
  unfold setTimerSys
  by_cases negative : abstime < 0 ∨ interval < 0
  · rw [if_pos negative]
    refine Or.inr (Or.inr ⟨?_, ?_, .refl g⟩)
    · rintro ⟨_, _, later, positive, same⟩
      cases same
      omega
    · rintro ⟨_, positive, same⟩
      cases same
      omega
  · rw [if_neg negative]
    by_cases isExec : clockId = XM_EXEC_CLOCK
    · subst isExec
      by_cases zero : abstime = 0
      · rw [if_pos zero]
        subst zero
        exact Or.inr (Or.inl ⟨⟨interval, by omega, rfl⟩, rfl⟩)
      · rw [if_neg zero]
        exact Or.inl ⟨⟨abstime, interval, by omega, by omega, rfl⟩, rfl⟩
    · refine Or.inr (Or.inr ⟨?_, ?_, ?_⟩)
      · rintro ⟨_, _, _, _, same⟩
        cases same
        exact isExec rfl
      · rintro ⟨_, _, same⟩
        cases same
        exact isExec rfl
      · unfold disarmTimer armTimer
        simp only [isExec, if_false]
        repeat' split
        all_goals exact ⟨rfl, rfl⟩

theorem Coupled.setTimer {s : TimedVCpu} (coupled : Coupled s) (running : s.running = true)
    (clockId : XmU32) (abstime interval : Int)
    : Coupled { s with vCpu := (setTimerSys s.vCpu clockId abstime interval).2 } := by
  have enabled := coupled.running running
  rcases setTimerSys_effect s.vCpu clockId abstime interval with
    ⟨_, effect⟩ | ⟨_, effect⟩ | ⟨_, _, same⟩
  · rw [effect]
    refine { running := fun _ => enabled, enabled := fun _ => enabled, interval := ?_ }
    intro _
    simp [armVTimer, enabled]
  · rw [effect]
    refine { running := fun _ => enabled, enabled := fun _ => enabled, interval := ?_ }
    intro both
    simp [BothArmed] at both
  · exact coupled.same same

theorem stopVClock_vTimer (g : VCpu) (now : Int)
    : (stopVClock g now).vTimer.armed = g.vTimer.armed
      ∧ ((stopVClock g now).vTimer.kTimer.armed = true
        ↔ g.vTimer.kTimer.armed = true ∧ g.vTimer.armed = false) := by
  unfold stopVClock
  cases armed : g.vTimer.armed with
  | false => simp [armed]
  | true => simpa [VTimer.armed] using armed

theorem resumeVClock_vTimer (g : VCpu) (now : Int)
    : (resumeVClock g now).vTimer.armed = g.vTimer.armed
      ∧ (g.vTimer.armed = true →
        (resumeVClock g now).vTimer.kTimer.armed = true
          ∧ (resumeVClock g now).vTimer.kTimer.interval
            = (resumeVClock g now).vTimer.interval)
      ∧ (g.vTimer.armed = false → (resumeVClock g now).vTimer = g.vTimer) := by
  unfold resumeVClock
  cases armed : g.vTimer.armed with
  | false => simp [armed]
  | true => simpa [VTimer.armed] using armed

/-- Every event keeps the two timers coupled, by cases on the event. -/
theorem Coupled.step {s s' : TimedVCpu} {event : TimerEvent} (coupled : Coupled s)
    (effect : TimerEffect s event s')
    : Coupled s' := by
  cases effect with
  | setTimer running => exact coupled.setTimer running _ _ _
  | leave _ =>
      have notBoth : ∀ now, ¬ BothArmed (stopVClock s.vCpu now) := by
        intro now both
        obtain ⟨vArmed, kArmed⟩ := stopVClock_vTimer s.vCpu now
        have disarmed := (kArmed.mp both.1).2
        rw [← vArmed, both.2] at disarmed
        cases disarmed
      refine { running := ?_, enabled := ?_, interval := ?_ }
      · intro stopped
        cases stopped
      · exact fun both => absurd both (notBoth _)
      · exact fun both => absurd both (notBoth _)
  | enter =>
      refine { running := ?_, enabled := ?_, interval := ?_ }
      · exact fun _ => resumeVClock_enabled _ _
      · exact fun _ => resumeVClock_enabled _ _
      · intro both
        obtain ⟨vArmed, rearmed, _⟩ := resumeVClock_vTimer s.vCpu _
        exact (rearmed (vArmed ▸ both.2)).2
  | traverse returned =>
      rcases traverseKTimerQueue_returns returned with ⟨_, same⟩ | ⟨due, runs, expired⟩
      · exact coupled.same same
      · have agree := coupled.interval ⟨due.1, runs.2⟩
        refine { running := ?_, enabled := ?_, interval := ?_ }
        · intro _
          rw [expired.vClock, runs.1]
        · intro _
          rw [expired.vClock, runs.1]
        · intro _
          rw [expired.interval, expired.kInterval, agree]

theorem coupled_of_run {k : KThread} {past : List TimerStep} {s : TimedVCpu}
    (run : Reach TimerNext (createdVCpu k) past s)
    : Coupled s :=
  run.invariant (createdVCpu_coupled k) fun _ _ _ coupled taken => coupled.step taken.2

-----------------------------------------------------------------------------------------
-- The backing timer on its own

/-- The backing timer is left armed alone by a disarm that finds it armed, until the execution
timer is armed again; no other event makes or ends that.
-/
theorem orphaned_step {s s' : TimedVCpu} {event : TimerEvent} (coupled : Coupled s)
    (effect : TimerEffect s event s')
    : Orphaned s'.vCpu ↔ (event.DisarmsExecTimer ∧ s.vCpu.vTimer.kTimer.armed = true)
        ∨ (¬ event.ArmsExecTimer ∧ Orphaned s.vCpu) := by
  cases effect with
  | @setTimer clockId abstime interval running =>
      rcases setTimerSys_effect s.vCpu clockId abstime interval with
        ⟨arms, effect⟩ | ⟨disarms, effect⟩ | ⟨arms, disarms, same⟩
      · have disarms : ¬ (TimerEvent.setTimer clockId abstime interval).DisarmsExecTimer := by
          rintro ⟨_, _, same⟩
          obtain ⟨_, _, positive, _, arm⟩ := arms
          cases same
          cases arm
          omega
        simp [effect, Orphaned, arms, disarms]
      · have arms : ¬ (TimerEvent.setTimer clockId abstime interval).ArmsExecTimer := by
          rintro ⟨_, _, positive, _, same⟩
          obtain ⟨_, _, disarm⟩ := disarms
          cases same
          cases disarm
          omega
        simp only [effect, Orphaned, disarmVTimer_kTimer, disarmVTimer_armed, and_true, disarms,
          true_and, arms, not_false_eq_true]
        exact ⟨Or.inl, fun either => either.elim id And.left⟩
      · simp [Orphaned, same.vTimer, arms, disarms]
  | @leave now running =>
      obtain ⟨vArmed, kArmed⟩ := stopVClock_vTimer s.vCpu now
      simp only [Orphaned, vArmed, kArmed, TimerEvent.DisarmsExecTimer,
        TimerEvent.ArmsExecTimer, reduceCtorEq, and_false, exists_false, false_and, false_or,
        not_false_eq_true, true_and]
      exact ⟨And.left, fun orphaned => ⟨orphaned, orphaned.2⟩⟩
  | @enter now =>
      obtain ⟨vArmed, _, kept⟩ := resumeVClock_vTimer s.vCpu now
      simp only [Orphaned, TimerEvent.DisarmsExecTimer, TimerEvent.ArmsExecTimer, reduceCtorEq,
        and_false, exists_false, false_and, false_or, not_false_eq_true, true_and, vArmed]
      constructor
      · intro orphaned
        rwa [kept orphaned.2] at orphaned
      · intro orphaned
        rwa [kept orphaned.2]
  | @traverse cTime g nextAct returned =>
      simp only [TimerEvent.DisarmsExecTimer, TimerEvent.ArmsExecTimer, reduceCtorEq, and_false,
        exists_false, false_and, false_or, not_false_eq_true, true_and]
      rcases traverseKTimerQueue_returns returned with ⟨_, same⟩ | ⟨due, runs, expired⟩
      · simp [Orphaned, same.vTimer]
      · have agree := coupled.interval ⟨due.1, runs.2⟩
        refine iff_of_false ?_ ?_
        · intro orphaned
          have periodic := expired.kArmed.mp orphaned.1
          rw [agree] at periodic
          have armed := expired.armed.mpr periodic
          rw [orphaned.2] at armed
          cases armed
        · intro orphaned
          have armed := runs.2
          rw [orphaned.2] at armed
          cases armed

theorem orphaned_iff {k : KThread} {past : List TimerStep} {s : TimedVCpu}
    (run : Reach TimerNext (createdVCpu k) past s)
    : Orphaned s.vCpu ↔ DisarmedWhileArmed past := by
  refine Reach.since (P := fun s => Orphaned s.vCpu) ?_ ?_ run
  · intro orphaned
    simp [Orphaned, createdVCpu_disarmed] at orphaned
  · intro past s step s' before taken
    obtain ⟨rfl, effect⟩ := taken
    exact orphaned_step (coupled_of_run before) effect

/-- In every run of a vCPU's timers, a traversal of its queue passes the ASSERTs of
`VTimerHndl` exactly when the handler is not called, or the execution timer has not been
disarmed with its backing timer armed since it was last armed.
-/
theorem vTimerHndl_asserts_hold {k : KThread} {past : List TimerStep} {s : TimedVCpu}
    (run : Reach TimerNext (createdVCpu k) past s) (cTime : Int)
    : traverseKTimerQueue s.vCpu cTime ≠ .error .assertion
      ↔ (Due s.vCpu cTime → ¬ DisarmedWhileArmed past) := by
  have coupled := coupled_of_run run
  rw [← orphaned_iff run, Ne, traverseKTimerQueue_fails, not_and, not_not]
  refine forall_congr' ?_
  intro due
  constructor
  · intro runs orphaned
    have armed := runs.2
    rw [orphaned.2] at armed
    cases armed
  · intro notOrphaned
    have armed : s.vCpu.vTimer.armed = true := by
      by_contra off
      exact notOrphaned ⟨due.1, by simpa using off⟩
    exact ⟨coupled.enabled ⟨due.1, armed⟩, armed⟩

/-- A run goes on with an event taken in the state it reached. -/
theorem timerRun_step {k : KThread} {past : List TimerStep} {s s' : TimedVCpu}
    {event : TimerEvent} (run : Reach TimerNext (createdVCpu k) past s)
    (effect : TimerEffect s event s')
    : Reach TimerNext (createdVCpu k) ({ before := s, event } :: past) s' :=
  .step run ⟨rfl, effect⟩

/-- A vCPU entered at time 0. -/
def enteredVCpu : TimedVCpu where
  running := true
  vCpu := resumeVClock (createdVCpu { flags := 0, g := none }).vCpu 0

/-- It arms its execution timer for time 10. -/
def armedVCpu : TimedVCpu where
  running := true
  vCpu := (setTimerSys enteredVCpu.vCpu XM_EXEC_CLOCK 10 0).2

/-- It disarms it again. -/
def disarmedVCpu : TimedVCpu where
  running := true
  vCpu := (setTimerSys armedVCpu.vCpu XM_EXEC_CLOCK 0 0).2

def armedPast : List TimerStep :=
  [ { before := enteredVCpu, event := .setTimer XM_EXEC_CLOCK 10 0 },
    { before := createdVCpu { flags := 0, g := none }, event := .enter 0 } ]

theorem armedVCpu_run
    : Reach TimerNext (createdVCpu { flags := 0, g := none }) armedPast armedVCpu :=
  timerRun_step (timerRun_step .start .enter) (.setTimer rfl)

/-- The armed timer expires in order. -/
theorem vTimerHndl_asserts_hold_armed
    : Due armedVCpu.vCpu 10 ∧ traverseKTimerQueue armedVCpu.vCpu 10 ≠ .error .assertion := by
  refine ⟨by decide, (vTimerHndl_asserts_hold armedVCpu_run 10).mpr ?_⟩
  intro _
  simp [DisarmedWhileArmed, armedPast, since_cons, not_since_nil, TimerEvent.DisarmsExecTimer]

/-- On a clock that never goes back, the timer that was armed for time 10 and disarmed before
still calls its handler at time 10, and the handler stops the system.
-/
theorem disarmed_timer_fires
    : ¬ ∀ (k : KThread) (past : List TimerStep) (s : TimedVCpu) (cTime : Int),
        Reach TimerNext (createdVCpu k) past s →
        (cTime :: past.filterMap fun step => step.event.reading).Pairwise (· ≥ ·) →
        traverseKTimerQueue s.vCpu cTime ≠ .error .assertion := by
  intro claimed
  have run : Reach TimerNext (createdVCpu { flags := 0, g := none })
      ({ before := armedVCpu, event := .setTimer XM_EXEC_CLOCK 0 0 } :: armedPast)
      disarmedVCpu :=
    timerRun_step armedVCpu_run (.setTimer rfl)
  exact claimed _ _ _ 10 run (by decide) (by decide)

end XtratuM.Timers
