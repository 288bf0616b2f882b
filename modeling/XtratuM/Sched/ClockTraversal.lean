import Mathlib.Tactic.Ring
import XtratuM.Kernel.TimerQueue
import XtratuM.Sched.ClockRequests

/-! `TraverseKTimerQueue` of a vCPU's own queue in the 64 bits of `xmTime_t`, where adding an
interval to a time may wrap.
-/

namespace XtratuM.ClockRequests

/-- The loop `do value += interval while (value <= cTime)`, for a number of rounds. -/
def advance (cTime interval : Int) : Nat → Int → Except Stop Int
  | 0, _ => .error .diverges
  | rounds + 1, value =>
      if xmTime (value + interval) ≤ cTime then
        advance cTime interval rounds (xmTime (value + interval))
      else
        .ok (xmTime (value + interval))

/-- After as many rounds the loop is back at the time it started from. -/
def advanceRounds : Nat := 2 ^ 64

def action (g : VCpu) : ActiveKTimer → Except Stop VCpu
  | .vTimer => vTimerHndl g
  | .watchdogTimer => .ok (kThrWatchdogTimerHndl g)
  | .kTimer => .ok (kThrTimerHndl g)

/-- What is left to do with an expired timer after its action. -/
def rearm (g : VCpu) (timer : ActiveKTimer) (cTime nextAct : Int) : Except Stop (VCpu × Int) :=
  let kTimer := g.active timer
  if 0 < kTimer.interval then do
    let value ← advance cTime kTimer.interval advanceRounds kTimer.value
    pure (g.setActive timer { kTimer with value }, earlier nextAct value)
  else
    pure (g.setActive timer { kTimer with flags := kTimer.flags &&& ~~~KTIMER_ARMED }, nextAct)

/-- One round of the loop of `TraverseKTimerQueue`. -/
def traverseKTimer (cTime : Int) (timer : ActiveKTimer) (g : VCpu) (nextAct : Int)
    : Except Stop (VCpu × Int) :=
  if (g.active timer).armed then
    if (g.active timer).value ≤ cTime then do
      let g ← action g timer
      rearm g timer cTime nextAct
    else
      .ok (g, earlier nextAct (g.active timer).value)
  else
    .ok (g, nextAct)

def traverseKTimers (cTime : Int)
    : List ActiveKTimer → VCpu → Int → Except Stop (VCpu × Int)
  | [], g, nextAct => .ok (g, nextAct)
  | timer :: rest, g, nextAct => do
      let (g, nextAct) ← traverseKTimer cTime timer g nextAct
      traverseKTimers cTime rest g nextAct

/-- `TraverseKTimerQueue` of a vCPU's own queue. -/
def traverseKTimerQueue (g : VCpu) (cTime : Int) : Except Stop (VCpu × Int) :=
  traverseKTimers cTime localActiveKTimers g MAX_XMTIME

-----------------------------------------------------------------------------------------
-- The loop over the periods

section Advance

variable {cTime interval value value' : Int} {rounds : Nat}

/-- The loop ends with the first of the wrapped times that is in the future, by induction on the
rounds.
-/
theorem advance_eq_ok
    : advance cTime interval rounds value = .ok value'
      ↔ ∃ n < rounds, value' = xmTime (value + (n + 1) * interval) ∧ cTime < value'
        ∧ ∀ m < n, xmTime (value + (m + 1) * interval) ≤ cTime := by
  induction rounds generalizing value with
  | zero => simp [advance]
  | succ rounds ih =>
      have later (n : Nat) : xmTime (xmTime (value + interval) + (n + 1) * interval)
          = xmTime (value + ((n + 1 : Nat) + 1) * interval) := by
        rw [xmTime_add]
        congr 1
        push_cast
        ring
      have first : xmTime (value + ((0 : Nat) + 1) * interval) = xmTime (value + interval) := by
        simp
      unfold advance
      by_cases again : xmTime (value + interval) ≤ cTime
      · rw [if_pos again, ih]
        constructor
        · rintro ⟨n, below, same, past, before⟩
          refine ⟨n + 1, by omega, (later n) ▸ same, past, ?_⟩
          intro m smaller
          cases m with
          | zero => rwa [first]
          | succ m => exact (later m) ▸ before m (by omega)
        · rintro ⟨n, below, same, past, before⟩
          cases n with
          | zero =>
              rw [first] at same
              omega
          | succ n =>
              refine ⟨n, by omega, (later n).symm ▸ same, past, ?_⟩
              intro m smaller
              rw [later m]
              exact before (m + 1) (by omega)
      · rw [if_neg again]
        constructor
        · intro same
          cases same
          exact ⟨0, by omega, first.symm, by omega, fun m smaller => absurd smaller (by omega)⟩
        · rintro ⟨n, below, same, past, before⟩
          cases n with
          | zero => rw [same, first]
          | succ n =>
              have start := before 0 (by omega)
              rw [first] at start
              exact absurd start again

/-- A loop that ends at all does so within the rounds it takes to come back to its start. -/
theorem advance_within (returned : advance cTime interval rounds value = .ok value')
    : advance cTime interval advanceRounds value = .ok value' := by
  obtain ⟨n, below, same, past, before⟩ := advance_eq_ok.mp returned
  refine advance_eq_ok.mpr ⟨n, ?_, same, past, before⟩
  by_contra far
  have far : 2 ^ 64 ≤ n := not_lt.mp far
  have earlier := before (n - 2 ^ 64) (by omega)
  have wraps : xmTime (value + ((n - 2 ^ 64 : Nat) + 1) * interval) = value' := by
    have lap : value + ((n - 2 ^ 64 : Nat) + 1) * interval
        = value + (n + 1) * interval + (2 ^ 64 : Nat) * -interval := by
      rw [Nat.cast_sub far]
      push_cast
      ring
    rw [same, lap]
    exact Int.add_mul_bmod_self_left _ _ _
  omega

/-- One period is enough exactly when its end is in the future. -/
theorem advance_once (returned : advance cTime interval rounds value = .ok value')
    : value' = xmTime (value + interval) ↔ cTime < xmTime (value + interval) := by
  obtain ⟨n, below, same, past, before⟩ := advance_eq_ok.mp returned
  constructor
  · rintro rfl
    exact past
  · intro future
    cases n with
    | zero => simpa using same
    | succ n =>
        have start := before 0 (by omega)
        simp only [Nat.cast_zero, zero_add, one_mul] at start
        omega

/-- Where no sum of the loop leaves the 64 bits, it is the loop on integers. -/
theorem advance_exact (positive : 0 < interval) (low : -(2 ^ 63) ≤ value)
    (high : XtratuM.advance cTime interval value positive ≤ MAX_XMTIME)
    : advance cTime interval advanceRounds value
      = .ok (XtratuM.advance cTime interval value positive) := by
  suffices ends : ∃ rounds, advance cTime interval rounds value
      = .ok (XtratuM.advance cTime interval value positive) by
    obtain ⟨rounds, ends⟩ := ends
    exact advance_within ends
  fun_induction XtratuM.advance cTime interval value positive with
  | case1 value again ih =>
      obtain ⟨rounds, ends⟩ := ih (by omega) high
      have past := (TimerQueue.advance_isLeast cTime interval _ positive again).1.1
      have sum : xmTime (value + interval) = value + interval := by
        unfold MAX_XMTIME at high
        exact xmTime_eq (by omega)
      exact ⟨rounds + 1, by rw [advance, sum, if_pos again, ends]⟩
  | case2 value past =>
      have sum : xmTime (value + interval) = value + interval := by
        unfold MAX_XMTIME at high
        exact xmTime_eq (by omega)
      exact ⟨1, by rw [advance, sum, if_neg past]⟩

end Advance

-----------------------------------------------------------------------------------------
-- The execution timer in a traversal

/-- A round on another timer that returns leaves the execution timer alone. -/
theorem traverseKTimer_other {cTime : Int} {timer : ActiveKTimer} (other : timer ≠ .vTimer)
    {g g' : VCpu} {nextAct nextAct' : Int}
    (returned : traverseKTimer cTime timer g nextAct = .ok (g', nextAct'))
    : SameExecTimer g g' := by
  unfold traverseKTimer at returned
  split at returned
  · split at returned
    · obtain ⟨acted, act, rearms⟩ := bind_eq_ok.mp returned
      have same : SameExecTimer g acted := by
        cases timer with
        | vTimer => exact absurd rfl other
        | watchdogTimer | kTimer =>
            cases act
            exact ⟨rfl, rfl⟩
      refine same.trans ?_
      have set (kTimer : KTimer) : SameExecTimer acted (acted.setActive timer kTimer) := by
        cases timer with
        | vTimer => exact absurd rfl other
        | watchdogTimer | kTimer => exact ⟨rfl, rfl⟩
      unfold rearm at rearms
      dsimp only at rearms
      split at rearms
      · obtain ⟨value, _, rearms⟩ := bind_eq_ok.mp rearms
        cases rearms
        exact set _
      · cases rearms
        exact set _
    · cases returned
      exact .refl g
  · cases returned
    exact .refl g

/-- A traversal that returns does to the execution timer what its first round does. -/
theorem traverseKTimerQueue_first {g g' : VCpu} {cTime nextAct : Int}
    (returned : traverseKTimerQueue g cTime = .ok (g', nextAct))
    : ∃ first next, traverseKTimer cTime .vTimer g MAX_XMTIME = .ok (first, next)
      ∧ SameExecTimer first g' := by
  obtain ⟨⟨first, next⟩, round, returned⟩ := bind_eq_ok.mp returned
  obtain ⟨⟨second, next'⟩, round', returned⟩ := bind_eq_ok.mp returned
  obtain ⟨⟨third, next''⟩, round'', returned⟩ := bind_eq_ok.mp returned
  cases returned
  exact ⟨first, next, round,
    (traverseKTimer_other (by decide) round').trans (traverseKTimer_other (by decide) round'')⟩

/-- An execution timer that is not due is left alone. -/
theorem traverseKTimerQueue_waits {g g' : VCpu} {cTime nextAct : Int} (waits : ¬ Due g cTime)
    (returned : traverseKTimerQueue g cTime = .ok (g', nextAct))
    : SameExecTimer g g' := by
  obtain ⟨first, next, round, same⟩ := traverseKTimerQueue_first returned
  unfold traverseKTimer at round
  split at round
  · next armed =>
      split at round
      · next expired => exact absurd ⟨armed, expired⟩ waits
      · cases round
        exact same
  · cases round
    exact same

/-- One that is due has the interval added once for the vCPU, and until it is in the future for the
timer behind.
-/
theorem traverseKTimerQueue_due {g g' : VCpu} {cTime nextAct : Int} (due : Due g cTime)
    (positive : 0 < g.vTimer.interval) (kPositive : 0 < g.vTimer.kTimer.interval)
    (returned : traverseKTimerQueue g cTime = .ok (g', nextAct))
    : ∃ value,
        advance cTime g.vTimer.kTimer.interval advanceRounds g.vTimer.kTimer.value = .ok value
        ∧ g'.vClock = g.vClock
        ∧ g'.vTimer =
          { g.vTimer with
            value := xmTime (g.vTimer.value + g.vTimer.interval)
            kTimer := { g.vTimer.kTimer with value } } := by
  obtain ⟨first, next, round, same⟩ := traverseKTimerQueue_first returned
  have armed : (g.active .vTimer).armed = true := due.1
  have expired : (g.active .vTimer).value ≤ cTime := due.2
  unfold traverseKTimer at round
  rw [if_pos armed, if_pos expired] at round
  obtain ⟨handled, handler, rearms⟩ := bind_eq_ok.mp round
  obtain ⟨_, _, handler⟩ := bind_eq_ok.mp handler
  obtain ⟨_, _, handler⟩ := bind_eq_ok.mp handler
  cases handler
  simp only [positive, if_true, rearm, VCpu.active, kPositive] at rearms
  obtain ⟨value, advances, rearms⟩ := bind_eq_ok.mp rearms
  cases rearms
  exact ⟨value, advances, same.vClock, same.vTimer⟩

-----------------------------------------------------------------------------------------
-- Refinement

/-- No sum that a traversal makes for a timer leaves the 64 bits. -/
def SumsFit (g : VCpu) (cTime : Int) (timer : ActiveKTimer) : Prop :=
  -(2 ^ 63) ≤ (g.active timer).value
    ∧ (∀ positive : 0 < (g.active timer).interval,
      XtratuM.advance cTime (g.active timer).interval (g.active timer).value positive ≤ MAX_XMTIME)
    ∧ (timer = .vTimer → -(2 ^ 63) ≤ g.vTimer.value + g.vTimer.interval
      ∧ g.vTimer.value + g.vTimer.interval ≤ MAX_XMTIME)

theorem action_exact {g : VCpu} {cTime : Int} {timer : ActiveKTimer} (fits : SumsFit g cTime timer)
    : action g timer = g.action timer := by
  cases timer with
  | vTimer =>
      have sum : xmTime (g.vTimer.value + g.vTimer.interval)
          = g.vTimer.value + g.vTimer.interval := by
        have range := fits.2.2 rfl
        unfold MAX_XMTIME at range
        exact xmTime_eq (by omega)
      simp only [action, VCpu.action, vTimerHndl, XtratuM.vTimerHndl, sum]
  | watchdogTimer | kTimer => rfl

/-- The action of a timer leaves its time, and all of the other timers. -/
theorem action_active {g g' : VCpu} {timer : ActiveKTimer} (acted : g.action timer = .ok g')
    (other : ActiveKTimer)
    : g'.active other = g.active other := by
  cases timer with
  | vTimer =>
      have kTimer := (vTimerHndl_returns acted).2.2.2.1
      obtain ⟨_, _, acted⟩ := bind_eq_ok.mp acted
      obtain ⟨_, _, acted⟩ := bind_eq_ok.mp acted
      cases acted
      cases other with
      | vTimer => exact kTimer
      | watchdogTimer | kTimer => rfl
  | watchdogTimer | kTimer =>
      cases acted
      cases other <;> rfl

theorem rearm_exact {g : VCpu} {timer : ActiveKTimer} {cTime : Int} (nextAct : Int)
    (low : -(2 ^ 63) ≤ (g.active timer).value)
    (high : ∀ positive : 0 < (g.active timer).interval,
      XtratuM.advance cTime (g.active timer).interval (g.active timer).value positive
        ≤ MAX_XMTIME)
    : rearm g timer cTime nextAct = .ok (XtratuM.rearm g timer cTime nextAct) := by
  unfold rearm XtratuM.rearm
  by_cases positive : 0 < (g.active timer).interval
  · simp only [positive, if_true, dite_true, advance_exact positive low (high positive), ok_bind]
    rfl
  · simp only [positive, if_false, dite_false]
    rfl

theorem traverseKTimer_exact {g : VCpu} {timer : ActiveKTimer} {cTime : Int} (nextAct : Int)
    (fits : SumsFit g cTime timer)
    : traverseKTimer cTime timer g nextAct = XtratuM.traverseKTimer cTime timer g nextAct := by
  unfold traverseKTimer XtratuM.traverseKTimer
  rw [action_exact fits]
  split
  · split
    · cases acted : g.action timer with
      | error stop => rfl
      | ok g' =>
          have same := action_active acted timer
          rw [ok_bind, ok_bind, rearm_exact nextAct (same ▸ fits.1) (same ▸ fits.2.1)]
          rfl
    · rfl
  · rfl

theorem setActive_active (g : VCpu) {timer other : ActiveKTimer} (apart : other ≠ timer)
    (kTimer : KTimer)
    : (g.setActive timer kTimer).active other = g.active other := by
  cases timer <;> cases other <;> first | exact absurd rfl apart | rfl

/-- A round leaves the sums of the other timers. -/
theorem SumsFit.next {g g' : VCpu} {timer other : ActiveKTimer} {cTime nextAct nextAct' : Int}
    (fits : SumsFit g cTime other) (apart : other ≠ timer)
    (returned : XtratuM.traverseKTimer cTime timer g nextAct = .ok (g', nextAct'))
    : SumsFit g' cTime other := by
  have active : g'.active other = g.active other := by
    unfold XtratuM.traverseKTimer at returned
    split at returned
    · split at returned
      · obtain ⟨acted, act, rearms⟩ := bind_eq_ok.mp returned
        rw [← action_active act other]
        unfold XtratuM.rearm at rearms
        dsimp only at rearms
        split at rearms
        · cases rearms
          exact setActive_active acted apart _
        · cases rearms
          exact setActive_active acted apart _
      · cases returned
        rfl
    · cases returned
      rfl
  refine ⟨active ▸ fits.1, active ▸ fits.2.1, ?_⟩
  rintro rfl
  obtain ⟨_, _, round, same⟩ := XtratuM.traverseKTimer_other cTime (Ne.symm apart) g nextAct
  cases round.symm.trans returned
  rw [same.vTimer]
  exact fits.2.2 rfl

theorem traverseKTimers_exact {timers : List ActiveKTimer} (distinct : timers.Nodup) {g : VCpu}
    {cTime : Int} (nextAct : Int) (fits : ∀ timer ∈ timers, SumsFit g cTime timer)
    : traverseKTimers cTime timers g nextAct = XtratuM.traverseKTimers cTime timers g nextAct := by
  induction timers generalizing g nextAct with
  | nil => rfl
  | cons timer rest ih =>
      obtain ⟨apart, distinct⟩ := List.nodup_cons.mp distinct
      rw [traverseKTimers, XtratuM.traverseKTimers,
        traverseKTimer_exact nextAct (fits timer List.mem_cons_self)]
      cases round : XtratuM.traverseKTimer cTime timer g nextAct with
      | error stop => rfl
      | ok result =>
          refine ih distinct result.2 fun other member => ?_
          have here := fits other (List.mem_cons_of_mem _ member)
          refine here.next ?_ round
          rintro rfl
          exact apart member

/-- As long as the sums fit, the traversal in 64 bits is the one on integers. -/
theorem traverseKTimerQueue_exact {g : VCpu} {cTime : Int}
    (fits : ∀ timer, SumsFit g cTime timer)
    : traverseKTimerQueue g cTime = XtratuM.traverseKTimerQueue g cTime :=
  traverseKTimers_exact (by decide) MAX_XMTIME fun timer _ => fits timer

end XtratuM.ClockRequests
