import XtratuM.Sched.Maintenance

/-! When the cyclic scheduler asks to be called again: later than now, no later than the end of
the frame, and before or at the first slot that has still to start.
-/

namespace XtratuM.Sched

open Reachability

/-- No slot of `plan` starts strictly between the frame offsets `t` and `t'`. -/
def NoStartBetween (cfg : Config) (plan : CyclicPlan) (t t' : Int) : Prop :=
  ∀ slot ∈ cfg.slotsOf plan, ¬(t < slot.sExec.toNat ∧ slot.sExec.toNat < t')

/-- What a decision taken at frame offset `t` says about the next one. -/
structure Decision.Prompt (cfg : Config) (plan : CyclicPlan) (t : XmU32)
    (decision : Decision) : Prop where
  later : t.toNat < decision.nextTime.toNat
  noStart : NoStartBetween cfg plan t.toNat decision.nextTime.toNat

-----------------------------------------------------------------------------------------
-- Around the slot the search stops at

/-- A slot that is over has started. -/
theorem Passed.started {cfg : Config} (accepted : cfg.Accepted) {plan : CyclicPlan}
    (planned : plan ∈ cfg.planTab) {t : Int} {found i : Nat} (passed : Passed cfg plan t found)
    (before : i < found) (inPlan : i < plan.noSlots) {slot : CyclicSlot}
    (read : cfg.slot (plan.slotsOffset + i) = .ok slot)
    : slot.sExec.toNat ≤ t := by
  have ended := passed i before inPlan slot read
  have begins : slot.sExec ≤ slot.eExec :=
    accepted.no_wrap plan planned slot (Config.slot_mem inPlan read)
  rw [BitVec.le_def] at begins
  omega

/-- A search past the last slot leaves none to start. -/
theorem Passed.noStart_past {cfg : Config} (accepted : cfg.Accepted) {plan : CyclicPlan}
    (planned : plan ∈ cfg.planTab) {t : Int} {found : Nat} (passed : Passed cfg plan t found)
    (past : plan.noSlots ≤ found) (t' : Int)
    : NoStartBetween cfg plan t t' := by
  intro slot member between
  obtain ⟨i, listed⟩ := List.mem_iff_getElem?.mp member
  obtain ⟨inPlan, read⟩ := Config.slotsOf_getElem?.mp listed
  have started := passed.started accepted planned (by omega) inPlan read
  omega

/-- Where the next slot may start when the search stops at `entry`: the slots before it have
started, so only its own start and those of the slots after it are left.
-/
theorem Passed.noStart {cfg : Config} (accepted : cfg.Accepted) {plan : CyclicPlan}
    (planned : plan ∈ cfg.planTab) {t : Int} {found : Nat} (passed : Passed cfg plan t found)
    {entry : CyclicSlot} {t' : Int} (own : entry.sExec.toNat ≤ t ∨ t' ≤ entry.sExec.toNat)
    (read : cfg.slot (plan.slotsOffset + found) = .ok entry)
    (after : ∀ i, found < i → i < plan.noSlots →
      ∀ slot, cfg.slot (plan.slotsOffset + i) = .ok slot → t' ≤ slot.sExec.toNat)
    : NoStartBetween cfg plan t t' := by
  intro slot member between
  obtain ⟨i, listed⟩ := List.mem_iff_getElem?.mp member
  obtain ⟨inPlan, readSlot⟩ := Config.slotsOf_getElem?.mp listed
  rcases Nat.lt_trichotomy i found with before | rfl | later
  · have started := passed.started accepted planned before inPlan readSlot
    omega
  · cases read.symm.trans readSlot
    omega
  · have starts := after i later inPlan slot readSlot
    omega

/-- The slots after `entry` start at its end or later. -/
theorem Config.Accepted.starts_after {cfg : Config} (accepted : cfg.Accepted) {plan : CyclicPlan}
    (planned : plan ∈ cfg.planTab) {found : Nat} {entry : CyclicSlot}
    (read : cfg.slot (plan.slotsOffset + found) = .ok entry)
    : ∀ i, found < i → i < plan.noSlots →
      ∀ slot, cfg.slot (plan.slotsOffset + i) = .ok slot → entry.eExec.toNat ≤ slot.sExec.toNat :=
  fun _ later inPlan _ readSlot =>
    BitVec.le_def.mp (accepted.slots_ordered planned later inPlan read readSlot)

/-- The slots after `following` start no earlier than it. -/
theorem Config.Accepted.starts_from {cfg : Config} (accepted : cfg.Accepted) {plan : CyclicPlan}
    (planned : plan ∈ cfg.planTab) {next : Nat} {following : CyclicSlot}
    (inPlan : next < plan.noSlots) (read : cfg.slot (plan.slotsOffset + next) = .ok following)
    : ∀ i, next ≤ i → i < plan.noSlots →
      ∀ slot, cfg.slot (plan.slotsOffset + i) = .ok slot →
        following.sExec.toNat ≤ slot.sExec.toNat := by
  intro i behind inPlan' slot readSlot
  rcases Nat.lt_or_eq_of_le behind with later | rfl
  · have starts := accepted.starts_after planned read i later inPlan' slot readSlot
    have begins : following.sExec ≤ following.eExec :=
      accepted.no_wrap plan planned following (Config.slot_mem inPlan read)
    rw [BitVec.le_def] at begins
    omega
  · cases read.symm.trans readSlot
    exact le_refl _

-----------------------------------------------------------------------------------------
-- Decisions

/-- One case for each place in which `nextTime` is set. -/
theorem chooseInSlot_prompt {cfg : Config} (accepted : cfg.Accepted) {m : Machine}
    {plan : CyclicPlan} (planned : plan ∈ cfg.planTab) {t : XmU32} {slot : Nat}
    {decision : Decision} {entry : CyclicSlot} (inPlan : slot < plan.noSlots)
    (passed : Passed cfg plan t.toNat slot)
    (read : cfg.slot (plan.slotsOffset + slot) = .ok entry) (ends : t < entry.eExec)
    (returned : chooseInSlot cfg m plan t slot = .ok decision)
    : decision.Prompt cfg plan t := by
  have member : entry ∈ cfg.slotsOf plan := Config.slot_mem inPlan read
  have within := (accepted.slot_within planned member).2
  have after := accepted.starts_after planned read
  rw [BitVec.lt_def] at ends
  obtain ⟨entry', same, returned⟩ := bind_eq_ok.mp returned
  cases read.symm.trans same
  split at returned
  · next begun =>
      replace begun : entry.sExec.toNat ≤ t.toNat := begun
      obtain ⟨_, _, returned⟩ := bind_eq_ok.mp returned
      split at returned
      · cases returned
      · split at returned
        · -- The slot's own vCPU runs until its end.
          cases returned
          refine { later := ends, noStart := ?_ }
          apply passed.noStart accepted planned (Or.inl (by omega)) read
          intro i later inPlan' other readOther
          have starts := after i later inPlan' other readOther
          simp only
          omega
        · split at returned
          · next more =>
              obtain ⟨following, readNext, returned⟩ := bind_eq_ok.mp returned
              cases returned
              have starts := after (slot + 1) (Nat.lt_succ_self slot) more following readNext
              refine { later := by simp only; omega, noStart := ?_ }
              apply passed.noStart accepted planned (Or.inl (by omega)) read
              intro i later inPlan' other readOther
              have order := accepted.starts_from planned more readNext i later inPlan' other
                readOther
              simp only
              omega
          · next last =>
              cases returned
              refine { later := by simp only; omega, noStart := ?_ }
              apply passed.noStart accepted planned (Or.inl (by omega)) read
              intro i later inPlan'
              omega
  · next notBegun =>
      cases returned
      have waits : t.toNat < entry.sExec.toNat := BitVec.not_le.mp notBegun
      refine { later := waits, noStart := ?_ }
      apply passed.noStart accepted planned (Or.inr (by simp)) read
      intro i later inPlan' other readOther
      have order := accepted.starts_from planned inPlan read i (by omega) inPlan' other readOther
      simp only
      omega

theorem chooseSlot_prompt {cfg : Config} (accepted : cfg.Accepted) {m : Machine}
    {plan : CyclicPlan} (planned : plan ∈ cfg.planTab) {t : XmU32} {slot : Int} {found : Nat}
    {decision : Decision} (inFrame : t.toNat < plan.majorFrame.toNat)
    (before : Passed cfg plan t.toNat slot.toNat)
    (returned : chooseSlot cfg m plan t slot = .ok (found, decision))
    : decision.Prompt cfg plan t := by
  have passed : Passed cfg plan t.toNat found := chooseSlot_passed before returned
  obtain ⟨first, _, returned⟩ := bind_eq_ok.mp returned
  obtain ⟨stopped, search, returned⟩ := bind_eq_ok.mp returned
  split at returned
  · next past =>
      cases returned
      exact { later := inFrame, noStart := passed.noStart_past accepted planned past _ }
  · next inPlan =>
      obtain ⟨taken, choice, returned⟩ := bind_eq_ok.mp returned
      cases returned
      rcases advanceSlot_found search with past | ⟨entry, read, ends⟩
      · exact absurd past inPlan
      · exact chooseInSlot_prompt accepted planned (Nat.lt_of_not_le inPlan) passed read ends
          choice

-----------------------------------------------------------------------------------------
-- Calls

/-- What a recomputation decides is prompt, and its next activation is the decision's, counted
from the start of the frame.
-/
theorem Kept.recompute_prompt {cfg : Config} (accepted : cfg.Accepted) {m m' : Machine}
    {newK : Option KThreadRef} (kept : Kept cfg m.clock m.cyclic)
    (returned : Sched.recompute cfg m = .ok (newK, m'))
    : ∃ (plan : CyclicPlan) (decision : Decision) (t : XmU32),
      currentPlan cfg m'.cyclic = .ok plan
      ∧ InFrame plan m.clock m'.cyclic
      ∧ (t.toNat : Int) = m.clock - m'.cyclic.sExec
      ∧ decision.Sound cfg plan t
      ∧ decision.Prompt cfg plan t
      ∧ m'.cyclic.nextAct = decision.nextTime.toNat + m'.cyclic.sExec := by
  obtain ⟨_, coherent, dispatched⟩ :=
    recompute_dispatched accepted (kept.framed (Int.natCast_nonneg _)) returned
  obtain ⟨plan, read, frame⟩ := dispatched.inFrame
  have planned : plan ∈ cfg.planTab := currentPlan_mem read coherent.not_idle
  have offset := frame.offset_toNat
  have notOver := frame.isOpen
  rw [frame.mjf_eq] at notOver
  obtain ⟨framed, refresh, returned⟩ := bind_eq_ok.mp returned
  obtain ⟨plan', read', returned⟩ := bind_eq_ok.mp returned
  obtain ⟨⟨slot, decision⟩, choice, returned⟩ := bind_eq_ok.mp returned
  obtain ⟨kThreadTab, _, returned⟩ := bind_eq_ok.mp returned
  cases returned
  cases read.symm.trans read'
  have passed := kept.refreshed refresh read'
  simp only [getSysClockUsec] at choice offset notOver
  rw [← offset] at passed
  have prompt := chooseSlot_prompt accepted planned (by omega) passed choice
  exact ⟨plan, decision, _, read, frame, offset, chooseSlot_sound accepted planned choice, prompt,
    rfl⟩

/-- Wake-ups are prompt and miss no slot: in every run, a recomputation asks to be called again
after now and no later than the end of the frame, and no slot of the plan in force starts
strictly in between.
-/
theorem getReadyKThreadCyclic_prompt {cfg : Config} (accepted : cfg.Accepted)
    {start m m' : Machine} (booted : start.cyclic = initSchedLocal cfg) {past : List HmEvent}
    (run : Reach (HmNext cfg) start past m) {newK : Option KThreadRef}
    (fresh : usesCache m = false) (returned : getReadyKThreadCyclic cfg m = .ok (newK, m'))
    : getSysClockUsec m < m'.cyclic.nextAct
      ∧ m'.cyclic.nextAct ≤ m'.cyclic.mjf
      ∧ ∃ plan, currentPlan cfg m'.cyclic = .ok plan
        ∧ NoStartBetween cfg plan (getSysClockUsec m - m'.cyclic.sExec)
          (m'.cyclic.nextAct - m'.cyclic.sExec) := by
  simp only [getReadyKThreadCyclic, fresh, Bool.false_eq_true, if_false] at returned
  obtain ⟨plan, decision, t, read, frame, offset, sound, prompt, nextAct⟩ :=
    (reachable_kept accepted booted run).recompute_prompt accepted returned
  have later := prompt.later
  have within := sound.within
  have ends := frame.mjf_eq
  refine ⟨by simp only [getSysClockUsec]; omega, by omega, plan, read, ?_⟩
  have distance : m'.cyclic.nextAct - m'.cyclic.sExec = decision.nextTime.toNat := by omega
  rw [distance, getSysClockUsec, ← offset]
  exact prompt.noStart

/-- Called at 3 and again at 7, in the gap between the two slots of the frame that started at 3,
the scheduler idles until the second one.
-/
theorem twoSlotConfig_prompt
    : ∃ m m', Reach (HmNext twoSlotConfig) twoSlotStart
        [.sched (.tick 4), .sched .getReadyKThread] m
      ∧ getReadyKThreadCyclic twoSlotConfig m = .ok (none, m')
      ∧ getSysClockUsec m < m'.cyclic.nextAct
      ∧ m'.cyclic.nextAct ≤ m'.cyclic.mjf := by
  have calls :
      ((do
        let first ← getReadyKThreadCyclic twoSlotConfig twoSlotStart
        assert (usesCache { first.2 with clock := first.2.clock + 4 } = false)
        getReadyKThreadCyclic twoSlotConfig { first.2 with clock := first.2.clock + 4 }).map
          Prod.fst) = .ok none := by
    decide
  obtain ⟨m', later⟩ := map_fst_eq_ok.mp calls
  obtain ⟨⟨newK, m⟩, first, later⟩ := bind_eq_ok.mp later
  obtain ⟨_, fresh, later⟩ := bind_eq_ok.mp later
  have called : hmStep twoSlotConfig twoSlotStart (.sched .getReadyKThread) = .ok m := by
    simp only [hmStep, step, first]
    rfl
  have run : Reach (HmNext twoSlotConfig) twoSlotStart
      [.sched (.tick 4), .sched .getReadyKThread] { m with clock := m.clock + 4 } :=
    .step (.step .start called) rfl
  obtain ⟨after, within, _⟩ :=
    getReadyKThreadCyclic_prompt twoSlotConfig_accepted rfl run (assert_ok.mp fresh) later
  exact ⟨_, m', run, later, after, within⟩

end XtratuM.Sched
