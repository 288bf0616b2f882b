import XtratuM.Sched.ClockTraversal

/-! The execution timer with an interval against the execution clock: its period is counted for
the vCPU and again for the timer behind it, and the two counts have to agree.
-/

namespace XtratuM.ClockRequests

open Reachability
open Timers

/-- While the vCPU runs with its execution timer armed, the timer behind it is armed for the same
time of the execution clock.
-/
def Follows (s : TimedVCpu) : Prop :=
  s.running = true → s.vCpu.vTimer.armed = true →
    s.vCpu.vTimer.kTimer.armed = true
      ∧ s.vCpu.vTimer.kTimer.value
        = s.vCpu.vTimer.value - s.vCpu.vClock.acc + s.vCpu.vClock.delta

def ClockedVCpu.timed (s : ClockedVCpu) : TimedVCpu where
  vCpu := s.vCpu
  running := s.running

/-- What happens to a vCPU's timers on a clock that does not go back. A value that the ASSERT of
`SetHwTimer` refuses and a traversal that does not return leave no next state.
-/
inductive ExecNext : ClockedVCpu → TimerEvent → ClockedVCpu → Prop
  | setTimer {s s' clockId abstime interval} (inRange : interval ≤ MAX_XMTIME)
    (next : ClockNext s (.setTimer clockId abstime interval) s') (passes : Passes s')
    : ExecNext s (.setTimer clockId abstime interval) s'
  | leave {s s' now} (next : ClockNext s (.leave now) s')
    : ExecNext s (.leave now) s'
  | enter {s s' now} (next : ClockNext s (.enter now) s') (passes : Passes s')
    : ExecNext s (.enter now) s'
  | traverse {s cTime g nextAct} (reads : s.Reads cTime)
    (returned : traverseKTimerQueue s.vCpu cTime = .ok (g, nextAct))
    : ExecNext s (.traverse cTime) { s with vCpu := g, cTime, passed := none }

/-- The call arms the execution timer for one expiry. -/
def ArmsOnce (event : TimerEvent) : Prop :=
  ∃ abstime, 0 < abstime ∧ event = .setTimer XM_EXEC_CLOCK abstime 0

/-- Steps that leave the execution timer periodic where it is armed. -/
def PeriodicNext (s : ClockedVCpu) (event : TimerEvent) (s' : ClockedVCpu) : Prop :=
  ¬ ArmsOnce event ∧ ¬ event.DisarmsExecTimer ∧ ExecNext s event s'

/-- A traversal that finds the execution timer due comes before its next period is over too, and
that period ends at a time of 64 bits.
-/
def OnTime (s : ClockedVCpu) (event : TimerEvent) : Prop :=
  ∀ cTime, event = .traverse cTime → Due s.vCpu cTime →
    cTime < s.vCpu.vTimer.kTimer.value + s.vCpu.vTimer.kTimer.interval
      ∧ s.vCpu.vTimer.kTimer.value + s.vCpu.vTimer.kTimer.interval ≤ MAX_XMTIME

/-- The timer behind a periodic execution timer is armed only while the vCPU runs, and with the
same interval.
-/
structure Periodic (s : TimedVCpu) : Prop where
  enabled : s.running = true → s.vCpu.vClock.enabled = true
  backed : s.vCpu.vTimer.kTimer.armed = true →
    s.running = true ∧ s.vCpu.vTimer.armed = true
      ∧ s.vCpu.vTimer.kTimer.interval = s.vCpu.vTimer.interval
  interval : s.vCpu.vTimer.armed = true →
    0 < s.vCpu.vTimer.interval ∧ s.vCpu.vTimer.interval ≤ MAX_XMTIME

-----------------------------------------------------------------------------------------
-- Requests and switches

theorem createdVCpu_periodic (k : KThread)
    : Follows (createdVCpu k).timed ∧ Periodic (createdVCpu k).timed := by
  refine ⟨?_, ?_⟩
  · intro stopped
    cases stopped
  · exact
      { enabled := fun stopped => by cases stopped
        backed := fun armed => by
          simp [createdVCpu, ClockedVCpu.timed, KTimer.armed] at armed
        interval := fun armed => by
          simp [createdVCpu, ClockedVCpu.timed, VTimer.armed] at armed }

/-- Events that leave the clock and the execution timer as they are. -/
theorem Follows.same {s : TimedVCpu} {g : VCpu} (same : SameExecTimer s.vCpu g)
    : Follows { s with vCpu := g } ↔ Follows s := by
  simp only [Follows, same.vClock, same.vTimer]

theorem Periodic.same {s : TimedVCpu} (periodic : Periodic s) {g : VCpu}
    (same : SameExecTimer s.vCpu g)
    : Periodic { s with vCpu := g } where
  enabled := by simpa [same.vClock] using periodic.enabled
  backed := by simpa [same.vTimer] using periodic.backed
  interval := by simpa [same.vTimer] using periodic.interval

/-- Arming the timer of the running vCPU arms the one behind it. -/
theorem armVTimer_follows {s : TimedVCpu} (periodic : Periodic s) (running : s.running = true)
    (value : Int) {interval : Int} (positive : 0 < interval) (bounded : interval ≤ MAX_XMTIME)
    : Follows { s with vCpu :=
        { s.vCpu with vTimer := XtratuM.armVTimer s.vCpu.vTimer s.vCpu.vClock value interval } }
      ∧ Periodic { s with vCpu :=
        { s.vCpu with
          vTimer := XtratuM.armVTimer s.vCpu.vTimer s.vCpu.vClock value interval } } := by
  have enabled := periodic.enabled running
  have backing : (XtratuM.armVTimer s.vCpu.vTimer s.vCpu.vClock value interval).kTimer
      = armKTimer s.vCpu.vTimer.kTimer (value - s.vCpu.vClock.acc + s.vCpu.vClock.delta)
        interval := by
    simp [XtratuM.armVTimer, enabled]
  refine ⟨?_, ?_⟩
  · intro _ _
    dsimp only
    rw [backing]
    exact ⟨armKTimer_armed _ _ _, rfl⟩
  · refine
      { enabled := fun _ => enabled, backed := ?_, interval := fun _ => ⟨positive, bounded⟩ }
    intro _
    refine ⟨running, armVTimer_armed _ _ _ _, ?_⟩
    dsimp only
    rw [backing]
    rfl

theorem resumeVClock_follows {s : TimedVCpu} (periodic : Periodic s) (now : Int)
    : Follows { vCpu := XtratuM.resumeVClock s.vCpu now, running := true }
      ∧ Periodic { vCpu := XtratuM.resumeVClock s.vCpu now, running := true } := by
  have enabled := resumeVClock_enabled s.vCpu now
  obtain ⟨_, rearmed, kept⟩ := resumeVClock_vTimer s.vCpu now
  cases armed : s.vCpu.vTimer.armed with
  | true =>
      have backing : (XtratuM.resumeVClock s.vCpu now).vTimer.kTimer
          = armKTimer s.vCpu.vTimer.kTimer (s.vCpu.vTimer.value - s.vCpu.vClock.acc + now)
            s.vCpu.vTimer.interval := by
        simp [XtratuM.resumeVClock, armed]
      have value : (XtratuM.resumeVClock s.vCpu now).vTimer.value = s.vCpu.vTimer.value
          ∧ (XtratuM.resumeVClock s.vCpu now).vTimer.interval = s.vCpu.vTimer.interval
          ∧ (XtratuM.resumeVClock s.vCpu now).vTimer.armed = true := by
        unfold XtratuM.resumeVClock
        rw [if_pos armed]
        exact ⟨rfl, rfl, armed⟩
      refine ⟨?_, ?_⟩
      · intro _ _
        dsimp only
        rw [backing, value.1]
        exact ⟨armKTimer_armed _ _ _, rfl⟩
      · refine { enabled := fun _ => enabled, backed := ?_, interval := ?_ }
        · intro _
          exact ⟨rfl, value.2.2, (rearmed armed).2⟩
        · intro _
          dsimp only
          rw [value.2.1]
          exact periodic.interval armed
  | false =>
      have same := kept armed
      have off : (XtratuM.resumeVClock s.vCpu now).vTimer.armed = false := by rw [same, armed]
      refine ⟨?_, ?_⟩
      · intro _ on
        cases off.symm.trans on
      · refine { enabled := fun _ => enabled, backed := ?_, interval := ?_ }
        · intro on
          dsimp only at on
          rw [same] at on
          have both := (periodic.backed on).2.1
          cases armed.symm.trans both
        · intro on
          cases off.symm.trans on

theorem stopVClock_periodic {s : TimedVCpu} (periodic : Periodic s) (now : Int)
    : Follows { vCpu := XtratuM.stopVClock s.vCpu now, running := false }
      ∧ Periodic { vCpu := XtratuM.stopVClock s.vCpu now, running := false } := by
  obtain ⟨vArmed, kArmed⟩ := stopVClock_vTimer s.vCpu now
  refine ⟨?_, ?_⟩
  · intro stopped
    cases stopped
  · refine { enabled := ?_, backed := ?_, interval := ?_ }
    · intro stopped
      cases stopped
    · intro armed
      obtain ⟨before, alone⟩ := kArmed.mp armed
      have both := (periodic.backed before).2.1
      cases alone.symm.trans both
    · intro armed
      have interval : (XtratuM.stopVClock s.vCpu now).vTimer.interval = s.vCpu.vTimer.interval := by
        unfold XtratuM.stopVClock
        dsimp only
        split <;> rfl
      dsimp only
      rw [interval]
      exact periodic.interval (vArmed ▸ armed)

/-- What a step other than a traversal does to the two counts, where its sums are exact. -/
theorem timerEffect_follows {s s' : TimedVCpu} {event : TimerEvent} (follows : Follows s)
    (periodic : Periodic s) (effect : TimerEffect s event s') (armsNot : ¬ ArmsOnce event)
    (disarmsNot : ¬ event.DisarmsExecTimer)
    (inRange : ∀ clockId abstime interval, event = .setTimer clockId abstime interval →
      interval ≤ MAX_XMTIME)
    (other : ∀ cTime, event ≠ .traverse cTime)
    : Follows s' ∧ Periodic s' := by
  cases effect with
  | @setTimer clockId abstime interval running =>
      rcases setTimerSys_effect s.vCpu clockId abstime interval with
        ⟨⟨_, _, later, nonneg, same⟩, effect⟩ | ⟨disarms, _⟩ | ⟨_, _, same⟩
      · cases same
        have positive : 0 < interval := by
          rcases nonneg.eq_or_lt with rfl | positive
          · exact absurd ⟨abstime, later, rfl⟩ armsNot
          · exact positive
        rw [effect]
        exact armVTimer_follows periodic running abstime positive (inRange _ _ _ rfl)
      · exact absurd disarms disarmsNot
      · exact ⟨(Follows.same same).mpr follows, periodic.same same⟩
  | leave running => exact stopVClock_periodic periodic _
  | enter => exact resumeVClock_follows periodic _
  | traverse _ => exact absurd rfl (other _)

-----------------------------------------------------------------------------------------
-- Traversals

theorem Clocked.traverse {s : ClockedVCpu} (clocked : Clocked s) {cTime : Int} {g : VCpu}
    (reads : s.Reads cTime) (vClock : g.vClock = s.vCpu.vClock)
    (value : -(2 ^ 63) ≤ g.vTimer.value ∧ g.vTimer.value ≤ MAX_XMTIME)
    : Clocked { s with vCpu := g, cTime, passed := none } where
  acc := by
    dsimp only
    rw [vClock]
    exact ⟨clocked.acc.1, clocked.acc.2.trans reads.1⟩
  delta := by
    dsimp only
    rw [vClock]
    exact ⟨clocked.delta.1, clocked.delta.2.trans reads.1⟩
  cTime := reads.2
  running := by simpa only [vClock] using clocked.running
  value := value

/-- Where the timer behind is armed for the execution timer's time and due, one period added to each
of them in 64 bits keeps them together exactly when its end is a time in the future.
-/
theorem period_follows {value kValue interval acc delta cTime kValue' : Int}
    (follows : kValue = value - acc + delta) (low : -(2 ^ 63) ≤ value) (high : value ≤ MAX_XMTIME)
    (positive : 0 < interval) (bounded : interval ≤ MAX_XMTIME) (behind : acc ≤ delta)
    (now : 0 ≤ cTime ∧ cTime ≤ MAX_XMTIME) (due : kValue ≤ cTime)
    (advances : advance cTime interval advanceRounds kValue = .ok kValue')
    : kValue' = xmTime (value + interval) - acc + delta
      ↔ cTime < kValue + interval ∧ kValue + interval ≤ MAX_XMTIME := by
  unfold MAX_XMTIME at *
  have once := advance_once advances
  have past : cTime < kValue' := by
    obtain ⟨_, _, _, past, _⟩ := advance_eq_ok.mp advances
    exact past
  have small : kValue' < 2 ^ 63 := by
    obtain ⟨_, _, same, _⟩ := advance_eq_ok.mp advances
    exact same ▸ (xmTime_range _).2
  constructor
  · intro together
    by_cases fits : value + interval < 2 ^ 63
    · rw [xmTime_eq ⟨by omega, fits⟩] at together
      omega
    · -- the vCPU's own time wraps below 0, and the timer behind it is in the future
      have wraps : xmTime (value + interval) = value + interval - 2 ^ 64 :=
        xmTime_wraps (by omega) (by omega)
      omega
  · rintro ⟨future, fits⟩
    have sum : xmTime (kValue + interval) = kValue + interval := xmTime_eq (by omega)
    have own : xmTime (value + interval) = value + interval := xmTime_eq (by omega)
    have first : kValue' = kValue + interval := sum ▸ once.mpr (sum.symm ▸ future)
    rw [first, own, follows]
    omega

theorem traverse_follows {s : ClockedVCpu} (follows : Follows s.timed) (periodic : Periodic s.timed)
    (clocked : Clocked s) {cTime nextAct : Int} {g : VCpu} (reads : s.Reads cTime)
    (due : Due s.vCpu cTime) (returned : traverseKTimerQueue s.vCpu cTime = .ok (g, nextAct))
    : Clocked { s with vCpu := g, cTime, passed := none }
      ∧ Periodic { vCpu := g, running := s.running }
      ∧ (Follows { vCpu := g, running := s.running }
        ↔ cTime < s.vCpu.vTimer.kTimer.value + s.vCpu.vTimer.kTimer.interval
          ∧ s.vCpu.vTimer.kTimer.value + s.vCpu.vTimer.kTimer.interval ≤ MAX_XMTIME) := by
  obtain ⟨running, armed, same⟩ : s.running = true ∧ s.vCpu.vTimer.armed = true
      ∧ s.vCpu.vTimer.kTimer.interval = s.vCpu.vTimer.interval :=
    periodic.backed due.1
  obtain ⟨positive, bounded⟩ : 0 < s.vCpu.vTimer.interval ∧ s.vCpu.vTimer.interval ≤ MAX_XMTIME :=
    periodic.interval armed
  have kPositive : 0 < s.vCpu.vTimer.kTimer.interval := by rwa [same]
  have value : s.vCpu.vTimer.kTimer.value
      = s.vCpu.vTimer.value - s.vCpu.vClock.acc + s.vCpu.vClock.delta :=
    (follows running armed).2
  obtain ⟨kValue, advances, vClock, vTimer⟩ :=
    traverseKTimerQueue_due due positive kPositive returned
  refine ⟨?_, ?_, ?_⟩
  · have range := xmTime_range (s.vCpu.vTimer.value + s.vCpu.vTimer.interval)
    refine clocked.traverse reads vClock ?_
    rw [vTimer]
    unfold MAX_XMTIME
    dsimp only
    omega
  · refine { enabled := ?_, backed := ?_, interval := ?_ }
    · intro on
      dsimp only
      rw [vClock]
      exact periodic.enabled on
    · intro _
      dsimp only
      rw [vTimer]
      exact ⟨running, armed, same⟩
    · intro _
      dsimp only
      rw [vTimer]
      exact ⟨positive, bounded⟩
  · have start := clocked.acc
    have now : 0 ≤ cTime ∧ cTime ≤ MAX_XMTIME := ⟨by have := reads.1; omega, reads.2⟩
    rw [same] at advances ⊢
    rw [← period_follows value clocked.value.1 clocked.value.2 positive bounded
      (clocked.running running).2 now due.2 advances]
    unfold Follows
    dsimp only
    rw [vClock, vTimer]
    exact ⟨fun follows => (follows running armed).2, fun together _ _ => ⟨due.1, together⟩⟩

-----------------------------------------------------------------------------------------
-- Steps and runs

/-- What one step does to the two counts, by cases on the event. -/
theorem periodic_step {s s' : ClockedVCpu} {event : TimerEvent} (follows : Follows s.timed)
    (clocked : Clocked s) (periodic : Periodic s.timed) (taken : PeriodicNext s event s')
    : (Clocked s' ∧ Periodic s'.timed) ∧ (Follows s'.timed ↔ OnTime s event) := by
  obtain ⟨armsNot, disarmsNot, taken⟩ := taken
  -- but for traversals a step whose value is passed on is one on integers
  have exactStep {event' : ClockEvent} (next : ClockNext s event' s') (fits : Fits s event')
      (same : event'.timerEvent = some event) (other : ∀ cTime, event ≠ .traverse cTime)
      (inRange : ∀ clockId abstime interval, event = .setTimer clockId abstime interval →
        interval ≤ MAX_XMTIME)
      : (Clocked s' ∧ Periodic s'.timed) ∧ (Follows s'.timed ↔ OnTime s event) := by
    have effect := clockNext_timerEffect clocked fits next same
    obtain ⟨after, still⟩ :=
      timerEffect_follows follows periodic effect armsNot disarmsNot inRange other
    refine ⟨⟨(clocked_step clocked next).1, still⟩, iff_of_true after ?_⟩
    intro cTime isTraverse
    exact absurd isTraverse (other cTime)
  cases taken with
  | setTimer inRange next passes =>
      refine exactStep next ((clocked_step clocked next).2.mp passes) rfl nofun ?_
      intro _ _ _ same
      cases same
      exact inRange
  | leave next => exact exactStep next trivial rfl nofun nofun
  | enter next passes =>
      exact exactStep next ((clocked_step clocked next).2.mp passes) rfl nofun nofun
  | @traverse cTime g nextAct reads returned =>
      by_cases due : Due s.vCpu cTime
      · obtain ⟨clocked', still, together⟩ :=
          traverse_follows follows periodic clocked reads due returned
        refine ⟨⟨clocked', still⟩, together.trans ?_⟩
        constructor
        · intro inTime _ isTraverse _
          cases isTraverse
          exact inTime
        · exact fun onTime => onTime cTime rfl due
      · have same := traverseKTimerQueue_waits due returned
        have clocked' := clocked.traverse reads same.vClock (same.vTimer ▸ clocked.value)
        refine ⟨⟨clocked', periodic.same same⟩, iff_of_true ((Follows.same same).mpr follows) ?_⟩
        intro _ isTraverse isDue
        cases isTraverse
        exact absurd isDue due

/-- The timer behind a periodic execution timer is with the execution clock all through a run
exactly when every traversal that finds it due comes before its next period is over, which ends at
a time of 64 bits.
-/
theorem execTimer_follows_execClock {k : KThread} {past : List TimerEvent} {s : ClockedVCpu}
    : Reach (fun s event s' => PeriodicNext s event s' ∧ Follows s'.timed) (createdVCpu k) past s
      ↔ Reach (guarded OnTime PeriodicNext) (createdVCpu k) past s := by
  have initial : Follows (createdVCpu k).timed
      ∧ (Clocked (createdVCpu k) ∧ Periodic (createdVCpu k).timed) :=
    ⟨(createdVCpu_periodic k).1, (createdVCpu_clocked k).2, (createdVCpu_periodic k).2⟩
  have keep : ∀ s event s', Follows s.timed → Clocked s ∧ Periodic s.timed →
      PeriodicNext s event s' →
      (Clocked s' ∧ Periodic s'.timed) ∧ (Follows s'.timed ↔ OnTime s event) :=
    fun _ _ _ follows holds taken => periodic_step follows holds.1 holds.2 taken
  exact Reach.good_iff_guarded initial keep

-----------------------------------------------------------------------------------------
-- Late traversals

/-- A vCPU entered at time 0. -/
def enteredVCpu : ClockedVCpu where
  running := true
  cTime := 0
  passed := none
  vCpu := (resumeVClock (createdVCpu { flags := 0, g := none }).vCpu 0).1

/-- It arms its execution timer for time 10 and every 10 after that. -/
def periodicVCpu : ClockedVCpu where
  running := true
  cTime := 0
  passed := some 10
  vCpu := (setTimerSys enteredVCpu.vCpu XM_EXEC_CLOCK 10 10).1.2

theorem periodicVCpu_run
    : Reach PeriodicNext (createdVCpu { flags := 0, g := none })
        [.setTimer XM_EXEC_CLOCK 10 10, .enter 0] periodicVCpu := by
  have enters : ExecNext (createdVCpu { flags := 0, g := none }) (.enter 0) enteredVCpu :=
    .enter (.enter ⟨by decide, by decide⟩) (passes_none rfl)
  have arms : ExecNext enteredVCpu (.setTimer XM_EXEC_CLOCK 10 10) periodicVCpu :=
    .setTimer (by decide) (.setTimer rfl (by decide)) ((passes_some rfl).mpr (by decide))
  refine .step (.step .start ⟨?_, ?_, enters⟩) ⟨?_, ?_, arms⟩
  · simp [ArmsOnce]
  · simp [TimerEvent.DisarmsExecTimer]
  · simp [ArmsOnce]
  · simp [TimerEvent.DisarmsExecTimer]

/-- A traversal at time 35 finds three periods over: the vCPU counts one of them, and the timer
behind it three.
-/
theorem late_traversal_loses_periods
    : ¬ ∀ (k : KThread) (past : List TimerEvent) (s : ClockedVCpu),
        Reach PeriodicNext (createdVCpu k) past s → Follows s.timed := by
  intro claimed
  have counts : (traverseKTimerQueue periodicVCpu.vCpu 35).map
      (fun left => (left.1.vTimer.armed, left.1.vTimer.value, left.1.vTimer.kTimer.value,
        left.1.vClock.acc, left.1.vClock.delta)) = .ok (true, 20, 40, 0, 0) := by
    decide +kernel
  obtain ⟨⟨g, nextAct⟩, returned, counts⟩ := map_eq_ok.mp counts
  simp only [Prod.mk.injEq] at counts
  obtain ⟨armed, value, kValue, acc, delta⟩ := counts
  have traverses : ExecNext periodicVCpu (.traverse 35)
      { periodicVCpu with vCpu := g, cTime := 35, passed := none } :=
    .traverse ⟨by decide, by decide⟩ returned
  have run := Reach.step periodicVCpu_run
    ⟨by simp [ArmsOnce], by simp [TimerEvent.DisarmsExecTimer], traverses⟩
  have follows := (claimed _ _ _ run rfl armed).2
  simp only [ClockedVCpu.timed, value, kValue, acc, delta] at follows
  omega

end XtratuM.ClockRequests
