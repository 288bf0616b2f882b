import XtratuM.Sched.TemporalIsolation

/-! The switch to the maintenance plan that the health monitor forces in the middle of a frame,
and what the scheduler selects right after it.
-/

namespace XtratuM.Sched

open Reachability

/-- The plan that `SwitchSchedPlan(1, ..)` requests. -/
def maintenancePlan (cfg : Config) : PlanRef :=
  if 1 < cfg.noSchedCyclicPlans then .tab (cfg.schedCyclicPlansOffset + 1) else .idle

/-- `XM_HM_AC_SWITCH_TO_MAINTENANCE` in `HmRaiseEvent`, but for its `Schedule`. -/
def switchToMaintenance (cfg : Config) (m : Machine) : Except Stop Machine := do
  let requested ← switchSchedPlan cfg 1 m.cyclic
  let cyclic ← makePlanSwitch cfg (getSysClockUsec m) requested.2
  pure { m with cyclic }

/-- The whole action: the `Schedule` selects what `GetReadyKThreadCyclic` returns. -/
def hmSwitchToMaintenance (cfg : Config) (m : Machine)
    : Except Stop (Option KThreadRef × Machine) := do
  let switched ← switchToMaintenance cfg m
  getReadyKThreadCyclic cfg switched

/-- What happens to a processor: the scheduler's events and switches to maintenance. -/
inductive HmEvent
  | sched (event : Event)
  | maintenance

def hmStep (cfg : Config) (m : Machine) : HmEvent → Except Stop Machine
  | .sched event => step cfg m event
  | .maintenance => switchToMaintenance cfg m

def HmNext (cfg : Config) (m : Machine) (event : HmEvent) (m' : Machine) : Prop :=
  hmStep cfg m event = .ok m'

/-- A guest is only selected as the vCPU of the slot at offset 0 of a frame of the maintenance
plan that starts at `clock`.
-/
def StartsMaintenance (cfg : Config) (clock : Int) (newK : Option KThreadRef)
    (cyclic : CyclicData) : Prop :=
  ∀ partitionId vCpuId, newK = some (.vCpu partitionId vCpuId) →
    cyclic.current = some (maintenancePlan cfg)
    ∧ ∃ plan, cfg.plan (maintenancePlan cfg) = .ok plan
      ∧ cyclic.sExec = clock
      ∧ cyclic.mjf = clock + plan.majorFrame.toNat
      ∧ ∃ slot, OwnSlot cfg plan partitionId vCpuId 0 slot

/-- A frame of the maintenance plan is in progress. -/
def InMaintenance (cfg : Config) (cyclic : CyclicData) : Prop :=
  cyclic.current = some (maintenancePlan cfg) ∧ 0 ≤ cyclic.slot

/-- Where the frame around `clock` starts when one of `plan` is in progress. -/
def frameStart (plan : CyclicPlan) (clock : Int) (cyclic : CyclicData) : Int :=
  if cyclic.mjf ≤ clock then
    clock - (clock - cyclic.mjf) % plan.majorFrame.toNat
  else
    cyclic.sExec

/-- The state in which a switch to maintenance takes effect: the scheduler does not go on with
a guest it kept from before. When the maintenance plan was in force already, one of its frames
starts now or none of its slots around now belongs to a vCPU that may run.
-/
structure TakesEffect (cfg : Config) (m : Machine) : Prop where
  cached : usesCache m = true → ∀ partitionId vCpuId,
    cachedKThread m = some (.vCpu partitionId vCpuId) →
    InMaintenance cfg m.cyclic ∧ m.cyclic.sExec = m.clock
  resumed : usesCache m = false → InMaintenance cfg m.cyclic →
    ∀ plan, cfg.plan (maintenancePlan cfg) = .ok plan →
      frameStart plan m.clock m.cyclic = m.clock
      ∨ ∀ partitionId vCpuId slot k,
        OwnSlot cfg plan partitionId vCpuId (m.clock - frameStart plan m.clock m.cyclic) slot →
        m.kThreadTab partitionId vCpuId = some k → k.isReady = false

-----------------------------------------------------------------------------------------
-- The switch

/-- A switch either finds the maintenance plan in force or installs it with an unused frame. -/
theorem switchToMaintenance_cases {cfg : Config} {m m' : Machine}
    (returned : switchToMaintenance cfg m = .ok m')
    : (m.cyclic.current = some (maintenancePlan cfg)
        ∧ m' = { m with cyclic := { m.cyclic with new := maintenancePlan cfg } })
      ∨ (m.cyclic.current ≠ some (maintenancePlan cfg)
        ∧ maintenancePlan cfg ≠ .idle
        ∧ m' =
          { m with
            cyclic :=
              { m.cyclic with
                new := maintenancePlan cfg
                prev := m.cyclic.current
                current := some (maintenancePlan cfg)
                planSwitchTime := m.clock
                slot := -1
                mjf := 0 } }) := by
  obtain ⟨requested, request, returned⟩ := bind_eq_ok.mp returned
  obtain ⟨cyclic, switch, returned⟩ := bind_eq_ok.mp returned
  cases returned
  obtain ⟨oldPlanId, -, request⟩ := bind_eq_ok.mp request
  cases request
  by_cases same : m.cyclic.current = some (maintenancePlan cfg)
  · have kept : makePlanSwitch cfg m.clock { m.cyclic with new := maintenancePlan cfg }
        = .ok { m.cyclic with new := maintenancePlan cfg } :=
      makePlanSwitch_same same
    cases kept.symm.trans switch
    exact Or.inl ⟨same, rfl⟩
  · rcases makePlanSwitch_cases switch with ⟨current, _⟩ | ⟨rfl, notIdle⟩
    · exact absurd current same
    · exact Or.inr ⟨same, notIdle, rfl⟩

/-- A switch leaves alone what the fast path of the scheduler reads. -/
theorem switchToMaintenance_keeps {cfg : Config} {m m' : Machine}
    (returned : switchToMaintenance cfg m = .ok m')
    : m'.clock = m.clock
      ∧ m'.kThreadTab = m.kThreadTab
      ∧ m'.cyclic.current = some (maintenancePlan cfg)
      ∧ m'.cyclic.new = maintenancePlan cfg
      ∧ m'.cyclic.sExec = m.cyclic.sExec
      ∧ usesCache m' = usesCache m
      ∧ cachedKThread m' = cachedKThread m := by
  rcases switchToMaintenance_cases returned with ⟨current, rfl⟩ | ⟨_, _, rfl⟩
  · exact ⟨rfl, rfl, current, rfl, rfl, rfl, rfl⟩
  · exact ⟨rfl, rfl, rfl, rfl, rfl, rfl, rfl⟩

-----------------------------------------------------------------------------------------
-- What a recomputation decides

/-- What a recomputation that returned went through. -/
structure Recomputed (cfg : Config) (m : Machine) (newK : Option KThreadRef)
    (framed : CyclicData) (plan : CyclicPlan) (slot : Nat) (m' : Machine) : Prop where
  refreshed : refreshFrame cfg m.clock { m.cyclic with resched := false } = .ok framed
  current : currentPlan cfg framed = .ok plan
  chosen : ∃ decision : Decision, newK = decision.newK
    ∧ chooseSlot cfg m plan (BitVec.ofInt 32 (m.clock - framed.sExec)) framed.slot
      = .ok (slot, decision)
  current_eq : m'.cyclic.current = framed.current
  sExec_eq : m'.cyclic.sExec = framed.sExec
  mjf_eq : m'.cyclic.mjf = framed.mjf
  slot_eq : m'.cyclic.slot = slot

theorem recompute_recomputed {cfg : Config} {m m' : Machine} {newK : Option KThreadRef}
    (returned : recompute cfg m = .ok (newK, m'))
    : ∃ framed plan slot, Recomputed cfg m newK framed plan slot m' := by
  obtain ⟨framed, refreshed, returned⟩ := bind_eq_ok.mp returned
  obtain ⟨plan, current, returned⟩ := bind_eq_ok.mp returned
  obtain ⟨⟨slot, decision⟩, chosen, returned⟩ := bind_eq_ok.mp returned
  obtain ⟨kThreadTab, _, returned⟩ := bind_eq_ok.mp returned
  cases returned
  exact ⟨framed, plan, slot,
    { refreshed, current, chosen := ⟨decision, rfl, chosen⟩, current_eq := rfl
      sExec_eq := rfl, mjf_eq := rfl, slot_eq := rfl }⟩

/-- A vCPU is only chosen when it may run. -/
theorem chooseInSlot_ready {cfg : Config} {m : Machine} {plan : CyclicPlan} {t : XmU32}
    {slot : Nat} {decision : Decision}
    (returned : chooseInSlot cfg m plan t slot = .ok decision)
    : ∀ ref, decision.newK = some ref →
      ∃ partitionId vCpuId k, ref = .vCpu partitionId vCpuId
        ∧ m.kThreadTab partitionId vCpuId = some k ∧ k.isReady = true := by
  obtain ⟨entry, _, returned⟩ := bind_eq_ok.mp returned
  intro ref chosen
  split at returned
  · obtain ⟨_, _, returned⟩ := bind_eq_ok.mp returned
    split at returned
    · cases returned
    · next k found =>
        split at returned
        · next ready =>
            cases returned
            cases chosen
            exact ⟨_, _, k, rfl, found, ready⟩
        · split at returned
          · obtain ⟨_, _, returned⟩ := bind_eq_ok.mp returned
            cases returned
            cases chosen
          · cases returned
            cases chosen
  · cases returned
    cases chosen

theorem chooseSlot_ready {cfg : Config} {m : Machine} {plan : CyclicPlan} {t : XmU32}
    {slot : Int} {found : Nat} {decision : Decision}
    (returned : chooseSlot cfg m plan t slot = .ok (found, decision))
    : ∀ ref, decision.newK = some ref →
      ∃ partitionId vCpuId k, ref = .vCpu partitionId vCpuId
        ∧ m.kThreadTab partitionId vCpuId = some k ∧ k.isReady = true := by
  obtain ⟨first, _, returned⟩ := bind_eq_ok.mp returned
  obtain ⟨stopped, _, returned⟩ := bind_eq_ok.mp returned
  split at returned
  · cases returned
    intro ref chosen
    cases chosen
  · obtain ⟨taken, choice, returned⟩ := bind_eq_ok.mp returned
    cases returned
    exact chooseInSlot_ready choice

/-- The slots of `plan` before `slot` are over at `t`. -/
def Passed (cfg : Config) (plan : CyclicPlan) (t : Int) (slot : Nat) : Prop :=
  ∀ i < slot, i < plan.noSlots → ∀ entry, cfg.slot (plan.slotsOffset + i) = .ok entry →
    entry.eExec.toNat ≤ t

/-- The slot loop only skips slots that are over. Witness: induction on the passes left. -/
theorem advanceSlot_passed {cfg : Config} {plan : CyclicPlan} {t : XmU32}
    {fuel slot found : Nat} (before : Passed cfg plan t.toNat slot)
    (returned : advanceSlot cfg plan t fuel slot = .ok found)
    : Passed cfg plan t.toNat found := by
  induction fuel generalizing slot with
  | zero => cases returned
  | succ fuel ih =>
      unfold advanceSlot at returned
      split at returned
      · cases returned
        exact before
      · obtain ⟨entry, read, returned⟩ := bind_eq_ok.mp returned
        split at returned
        · next ended =>
            refine ih ?_ returned
            intro i earlier inPlan other found
            rcases Nat.lt_succ_iff_lt_or_eq.mp earlier with earlier | rfl
            · exact before i earlier inPlan other found
            · cases read.symm.trans found
              exact Int.ofNat_le.mpr ended
        · cases returned
          exact before

/-- The slots of an accepted plan follow each other. Witness: induction on the slots, with the
end of the slot before as the accumulator.
-/
theorem checkSlots_ordered {majorFrame t : XmU32} {slots : List CyclicSlot}
    (passed : checkSlots majorFrame t slots = true)
    (noWrap : ∀ slot ∈ slots, slot.sExec ≤ slot.eExec)
    : (∀ slot ∈ slots, t ≤ slot.sExec)
      ∧ slots.Pairwise fun slot later => slot.eExec ≤ later.sExec := by
  induction slots generalizing t with
  | nil => exact ⟨by simp, .nil⟩
  | cons head rest ih =>
      unfold checkSlots at passed
      split at passed
      · contradiction
      · next starts =>
          split at passed
          · contradiction
          · obtain ⟨after, ordered⟩ :=
              ih passed fun slot member => noWrap slot (List.mem_cons_of_mem _ member)
            have begins : t ≤ head.sExec := BitVec.not_lt.mp starts
            have ends : head.sExec ≤ head.eExec := noWrap head List.mem_cons_self
            refine ⟨?_, List.pairwise_cons.mpr ⟨after, ordered⟩⟩
            intro slot member
            rcases List.mem_cons.mp member with rfl | later
            · exact begins
            · exact BitVec.le_trans (BitVec.le_trans begins ends) (after slot later)

/-- Two slots of an accepted plan, in the order of the table. -/
theorem Config.Accepted.slots_ordered {cfg : Config} (accepted : cfg.Accepted)
    {plan : CyclicPlan} (planned : plan ∈ cfg.planTab) {i j : Nat} (before : i < j)
    (inPlan : j < plan.noSlots) {slot later : CyclicSlot}
    (first : cfg.slot (plan.slotsOffset + i) = .ok slot)
    (second : cfg.slot (plan.slotsOffset + j) = .ok later)
    : slot.eExec ≤ later.sExec := by
  obtain ⟨_, ordered⟩ :=
    checkSlots_ordered (accepted.checked plan planned) (accepted.no_wrap plan planned)
  obtain ⟨below, atI⟩ :=
    List.getElem?_eq_some_iff.mp (Config.slotsOf_getElem?.mpr ⟨before.trans inPlan, first⟩)
  obtain ⟨below', atJ⟩ :=
    List.getElem?_eq_some_iff.mp (Config.slotsOf_getElem?.mpr ⟨inPlan, second⟩)
  have order := List.pairwise_iff_getElem.mp ordered i j below below' before
  rwa [atI, atJ] at order

theorem chooseInSlot_idle {cfg : Config} {m : Machine} {plan : CyclicPlan} {t : XmU32}
    {slot : Nat} {decision : Decision} {entry : CyclicSlot}
    (read : cfg.slot (plan.slotsOffset + slot) = .ok entry) (begun : entry.sExec ≤ t)
    (returned : chooseInSlot cfg m plan t slot = .ok decision) (idle : decision.newK = none)
    {k : KThread} (found : m.kThreadTab entry.partitionId entry.vCpuId = some k)
    : k.isReady = false := by
  obtain ⟨entry', same, returned⟩ := bind_eq_ok.mp returned
  cases read.symm.trans same
  rw [if_pos begun] at returned
  obtain ⟨_, _, returned⟩ := bind_eq_ok.mp returned
  rw [found] at returned
  cases ready : k.isReady with
  | false => rfl
  | true =>
      simp only [ready, if_true] at returned
      cases returned
      cases idle

/-- The choice is only to idle when no slot around `t` belongs to a vCPU that may run. Witness:
the slots before the one the search stops at are over, and those after it have not begun.
-/
theorem chooseSlot_idle {cfg : Config} (accepted : cfg.Accepted) {m : Machine}
    {plan : CyclicPlan} (planned : plan ∈ cfg.planTab) {t : XmU32} {slot : Int} {found : Nat}
    {decision : Decision} (before : Passed cfg plan t.toNat slot.toNat)
    (returned : chooseSlot cfg m plan t slot = .ok (found, decision))
    (idle : decision.newK = none)
    {partitionId vCpuId : XmU32} {own : CyclicSlot}
    (owner : OwnSlot cfg plan partitionId vCpuId t.toNat own)
    {k : KThread} (present : m.kThreadTab partitionId vCpuId = some k)
    : k.isReady = false := by
  obtain ⟨first, start, returned⟩ := bind_eq_ok.mp returned
  obtain ⟨stopped, search, returned⟩ := bind_eq_ok.mp returned
  have sameFirst : first = slot.toNat := by
    unfold cursor at start
    split at start
    · exact (Except.ok.inj start).symm
    · cases start
  rw [← sameFirst] at before
  have passed := advanceSlot_passed before search
  obtain ⟨i, entry⟩ := List.mem_iff_getElem?.mp owner.ofPlan
  obtain ⟨inPlan, read⟩ := Config.slotsOf_getElem?.mp entry
  have notPassed : stopped ≤ i := by
    by_contra earlier
    have ended := passed i (Nat.lt_of_not_le earlier) inPlan own read
    have notOver := owner.notOver
    omega
  split at returned
  · next past => omega
  · obtain ⟨taken, choice, returned⟩ := bind_eq_ok.mp returned
    cases returned
    have starts := owner.begun
    rcases advanceSlot_found search with past | ⟨next, readAt, ends⟩
    · omega
    · rcases Nat.lt_or_eq_of_le notPassed with later | same
      · have order := accepted.slots_ordered planned later inPlan readAt read
        rw [BitVec.le_def] at order
        rw [BitVec.lt_def] at ends
        omega
      · subst same
        cases readAt.symm.trans read
        rw [← owner.partitionId_eq, ← owner.vCpuId_eq] at present
        exact chooseInSlot_idle read (BitVec.le_def.mpr (by omega)) choice idle present

/-- The cursor only moves past slots that are over. -/
theorem chooseSlot_passed {cfg : Config} {m : Machine} {plan : CyclicPlan} {t : XmU32}
    {slot : Int} {found : Nat} {decision : Decision} (before : Passed cfg plan t.toNat slot.toNat)
    (returned : chooseSlot cfg m plan t slot = .ok (found, decision))
    : Passed cfg plan t.toNat found := by
  obtain ⟨first, start, returned⟩ := bind_eq_ok.mp returned
  obtain ⟨stopped, search, returned⟩ := bind_eq_ok.mp returned
  have passed : Passed cfg plan t.toNat stopped := by
    unfold cursor at start
    split at start
    · cases start
      exact advanceSlot_passed before search
    · cases start
  split at returned
  · cases returned
    exact passed
  · obtain ⟨_, _, returned⟩ := bind_eq_ok.mp returned
    cases returned
    exact passed

-----------------------------------------------------------------------------------------
-- Reachable states

/-- The data kept between calls: coherent, with a cursor that only passed slots that are over,
or those of a plan installed in the middle of a frame, whose first frame has not started.
-/
inductive Kept (cfg : Config) (clock : Int) (cyclic : CyclicData) : Prop
  | coherent (coherent : Coherent cfg clock cyclic)
      (passed : ∀ plan, currentPlan cfg cyclic = .ok plan →
        Passed cfg plan (clock - cyclic.sExec) cyclic.slot.toNat)
  | installed (notIdle : cyclic.current ≠ some .idle) (slot : cyclic.slot = -1)
      (mjf : cyclic.mjf = 0)

theorem Passed.later {cfg : Config} {plan : CyclicPlan} {t t' : Int} {slot : Nat}
    (passed : Passed cfg plan t slot) (le : t ≤ t')
    : Passed cfg plan t' slot :=
  fun i before inPlan entry read => (passed i before inPlan entry read).trans le

theorem Kept.framed {cfg : Config} {clock : Int} {cyclic : CyclicData} (now : 0 ≤ clock)
    (kept : Kept cfg clock cyclic)
    : Framed cfg clock cyclic := by
  cases kept with
  | coherent coherent _ => exact coherent.framed now
  | installed notIdle _ mjf => exact ⟨notIdle, Or.inl (mjf.trans_le now)⟩

/-- A refresh keeps the frame in progress or starts one at its first slot. -/
theorem refreshFrame_slot {cfg : Config} {cTime : Int} {cyclic framed : CyclicData}
    (returned : refreshFrame cfg cTime cyclic = .ok framed)
    : framed.slot = 0 ∨ (cTime < cyclic.mjf ∧ framed = cyclic) := by
  unfold refreshFrame at returned
  split at returned
  · obtain ⟨_, _, returned⟩ := bind_eq_ok.mp returned
    obtain ⟨_, _, returned⟩ := bind_eq_ok.mp returned
    obtain ⟨_, _, returned⟩ := bind_eq_ok.mp returned
    cases returned
    exact Or.inl rfl
  · next due =>
      cases returned
      exact Or.inr ⟨Int.not_le.mp due, rfl⟩

/-- The slots before the cursor of the frame in force are over. -/
theorem Kept.refreshed {cfg : Config} {m : Machine} {framed : CyclicData} {plan : CyclicPlan}
    (kept : Kept cfg m.clock m.cyclic)
    (returned : refreshFrame cfg m.clock { m.cyclic with resched := false } = .ok framed)
    (current : currentPlan cfg framed = .ok plan)
    : Passed cfg plan (m.clock - framed.sExec) framed.slot.toNat := by
  rcases refreshFrame_slot returned with first | ⟨notDue, rfl⟩
  · rw [first]
    intro i before
    simp at before
  · cases kept with
    | coherent _ passed => exact passed plan current
    | installed _ _ mjf =>
        simp only at notDue
        omega

theorem Kept.recompute {cfg : Config} (accepted : cfg.Accepted) {m m' : Machine}
    {newK : Option KThreadRef} (kept : Kept cfg m.clock m.cyclic)
    (returned : recompute cfg m = .ok (newK, m'))
    : Kept cfg m'.clock m'.cyclic := by
  obtain ⟨clock, coherent, dispatched⟩ :=
    recompute_dispatched accepted (kept.framed (Int.natCast_nonneg _)) returned
  obtain ⟨framed, plan, slot, done⟩ := recompute_recomputed returned
  obtain ⟨decision, _, chosen⟩ := done.chosen
  rw [clock]
  refine .coherent coherent ?_
  intro plan' read
  have samePlan : currentPlan cfg m'.cyclic = currentPlan cfg framed := by
    rw [currentPlan, done.current_eq]
    rfl
  cases done.current.symm.trans (samePlan.symm.trans read)
  obtain ⟨plan', read', frame⟩ := dispatched.inFrame
  cases read.symm.trans read'
  have offset := frame.offset_toNat
  rw [done.sExec_eq] at offset ⊢
  have before := kept.refreshed done.refreshed done.current
  rw [← offset] at before ⊢
  rw [done.slot_eq]
  exact chooseSlot_passed before chosen

/-- Between its own calls the scheduler keeps its frame. -/
theorem step_frame {cfg : Config} {m m' : Machine} {event : Event}
    (other : event ≠ .getReadyKThread) (taken : step cfg m event = .ok m')
    : m.clock ≤ m'.clock
      ∧ m'.cyclic.current = m.cyclic.current
      ∧ m'.cyclic.slot = m.cyclic.slot
      ∧ m'.cyclic.mjf = m.cyclic.mjf
      ∧ m'.cyclic.sExec = m.cyclic.sExec := by
  cases event with
  | tick elapsed =>
      cases taken
      exact ⟨Nat.le_add_right _ _, rfl, rfl, rfl, rfl⟩
  | getReadyKThread => exact absurd rfl other
  | setFlags partitionId vCpuId flags =>
      simp only [step] at taken
      split at taken
      · cases taken
      · cases taken
        exact ⟨le_refl _, rfl, rfl, rfl, rfl⟩
  | clearFlags partitionId vCpuId flags =>
      simp only [step] at taken
      split at taken
      · cases taken
      · cases taken
        exact ⟨le_refl _, rfl, rfl, rfl, rfl⟩
  | reschedule =>
      cases taken
      exact ⟨le_refl _, rfl, rfl, rfl, rfl⟩
  | yield =>
      cases taken
      exact ⟨le_refl _, rfl, rfl, rfl, rfl⟩
  | switchPlan newPlanId =>
      obtain ⟨⟨oldPlanId, cyclic⟩, switched, rfl⟩ := map_eq_ok.mp taken
      obtain ⟨_, _, switched⟩ := bind_eq_ok.mp switched
      cases switched
      exact ⟨le_refl _, rfl, rfl, rfl, rfl⟩

theorem Kept.step {cfg : Config} (accepted : cfg.Accepted) {m m' : Machine} {event : Event}
    (kept : Kept cfg m.clock m.cyclic) (taken : step cfg m event = .ok m')
    : Kept cfg m'.clock m'.cyclic := by
  by_cases call : event = .getReadyKThread
  · subst call
    obtain ⟨⟨newK, m''⟩, called, rfl⟩ := map_eq_ok.mp taken
    unfold getReadyKThreadCyclic at called
    split at called
    · cases called
      exact kept
    · exact kept.recompute accepted called
  · obtain ⟨clock, current, slot, mjf, sExec⟩ := step_frame call taken
    cases kept with
    | coherent coherent passed =>
        refine .coherent (step_coherent accepted coherent taken) ?_
        intro plan read
        rw [currentPlan, current] at read
        rw [slot, sExec]
        exact (passed plan read).later (by omega)
    | installed notIdle slot' mjf' =>
        exact .installed (current ▸ notIdle) (slot.trans slot') (mjf.trans mjf')

theorem Kept.maintenance {cfg : Config} {m m' : Machine} (kept : Kept cfg m.clock m.cyclic)
    (taken : switchToMaintenance cfg m = .ok m')
    : Kept cfg m'.clock m'.cyclic := by
  rcases switchToMaintenance_cases taken with ⟨_, rfl⟩ | ⟨_, notIdle, rfl⟩
  · cases kept with
    | coherent coherent passed =>
        refine .coherent { not_idle := coherent.not_idle, frame := ?_, cached := coherent.cached }
          passed
        exact coherent.frame.imp_right fun ⟨plan, read, frame⟩ => ⟨plan, read, { frame with }⟩
    | installed notIdle slot mjf => exact .installed notIdle slot mjf
  · exact .installed (fun idle => notIdle (Option.some.inj idle)) rfl rfl

/-- In every state a processor reaches after `InitSchedLocal`, whatever switches were forced. -/
theorem reachable_kept {cfg : Config} (accepted : cfg.Accepted) {start m : Machine}
    (booted : start.cyclic = initSchedLocal cfg) {past : List HmEvent}
    (run : Reach (HmNext cfg) start past m)
    : Kept cfg m.clock m.cyclic := by
  refine run.invariant (P := fun m => Kept cfg m.clock m.cyclic) ?_ ?_
  · rw [booted]
    refine .coherent (initSchedLocal_coherent cfg start.clock) ?_
    intro plan read
    cases read
  · intro m event m' kept taken
    cases event with
    | sched event => exact kept.step accepted taken
    | maintenance => exact kept.maintenance taken

-----------------------------------------------------------------------------------------
-- Where a frame starts

/-- Frames that were missed are counted off from the end of the last one. -/
theorem catchUp_sExec {majorFrame : XmU32} {cTime : Int} {fuel : Nat}
    {cyclic caught : CyclicData}
    (returned : catchUp majorFrame cTime fuel cyclic = .ok caught)
    (due : cyclic.mjf ≤ cTime)
    : ∃ n : Int, caught.sExec = cyclic.mjf + majorFrame.toNat * n := by
  induction fuel generalizing cyclic with
  | zero => cases returned
  | succ fuel ih =>
      rw [catchUp, if_pos due] at returned
      by_cases again : cyclic.mjf + majorFrame.toNat ≤ cTime
      · obtain ⟨n, start⟩ := ih returned again
        refine ⟨n + 1, ?_⟩
        rw [start, Int.mul_add]
        simp only
        omega
      · cases fuel with
        | zero => cases returned
        | succ fuel =>
            rw [catchUp, if_neg again] at returned
            cases returned
            exact ⟨0, by simp⟩

theorem catchUp_frameStart {plan : CyclicPlan} {cTime : Int} {fuel : Nat}
    {cyclic caught : CyclicData}
    (returned : catchUp plan.majorFrame cTime fuel cyclic = .ok caught)
    (due : cyclic.mjf ≤ cTime)
    : caught.sExec = frameStart plan cTime cyclic := by
  obtain ⟨n, start⟩ := catchUp_sExec returned due
  obtain ⟨sExec, rfl, begun, notOver⟩ := catchUp_result returned due
  simp only at start
  have offset : (cTime - cyclic.mjf) % plan.majorFrame.toNat = cTime - sExec := by
    have split : cTime - cyclic.mjf = (cTime - sExec) + plan.majorFrame.toNat * n := by omega
    rw [split, Int.add_mul_emod_self_left]
    exact Int.emod_eq_of_lt (by omega) (by omega)
  rw [frameStart, if_pos due, offset]
  simp only
  omega

/-- Where the frame in force starts when the requested plan was in force already: the one in
progress goes on, and the first one of a plan just installed starts now.
-/
structure SameFrames (plan : CyclicPlan) (cTime : Int) (cyclic framed : CyclicData) : Prop where
  current : framed.current = cyclic.current
  running : 0 ≤ cyclic.slot → framed.sExec = frameStart plan cTime cyclic
  installed : cyclic.slot = -1 → cyclic.mjf ≤ cTime → framed.sExec = cTime

theorem enterFrame_frames {plan : CyclicPlan} {cTime : Int} {cyclic entered : CyclicData}
    (due : cyclic.mjf ≤ cTime) (returned : enterFrame plan cTime cyclic = .ok entered)
    : SameFrames plan cTime cyclic entered := by
  unfold enterFrame at returned
  split at returned
  · next running =>
      obtain ⟨sExec, same, _, _⟩ := catchUp_result returned due
      refine
        { current := by rw [same]
          running := fun _ => catchUp_frameStart returned due
          installed := ?_ }
      intro slot
      omega
  · next fresh =>
      cases returned
      exact
        { current := rfl
          running := fun running => absurd running fresh
          installed := fun _ _ => rfl }

theorem refreshFrame_frames {cfg : Config} {cTime : Int} {cyclic framed : CyclicData}
    {plan : CyclicPlan} (inForce : cyclic.current = some cyclic.new)
    (returned : refreshFrame cfg cTime cyclic = .ok framed)
    (read : currentPlan cfg framed = .ok plan)
    : SameFrames plan cTime cyclic framed := by
  unfold refreshFrame at returned
  split at returned
  · next due =>
      obtain ⟨switched, switch, returned⟩ := bind_eq_ok.mp returned
      cases (makePlanSwitch_same inForce).symm.trans switch
      obtain ⟨plan', read', returned⟩ := bind_eq_ok.mp returned
      obtain ⟨entered, enter, returned⟩ := bind_eq_ok.mp returned
      cases returned
      have frames := enterFrame_frames due enter
      have samePlan : currentPlan cfg { entered with slot := 0 } = currentPlan cfg cyclic := by
        rw [currentPlan, frames.current]
        rfl
      cases read'.symm.trans (samePlan.symm.trans read)
      exact { frames with }
  · next notDue =>
      cases returned
      exact
        { current := rfl
          running := fun _ => (if_neg notDue).symm
          installed := fun _ due => absurd due notDue }

-----------------------------------------------------------------------------------------
-- The switch takes effect

/-- A frame of the maintenance plan that contains `clock` from its first moment on. -/
theorem Dispatched.startsMaintenance {cfg : Config} {clock : Int} {newK : Option KThreadRef}
    {cyclic : CyclicData} (dispatched : Dispatched cfg clock newK cyclic)
    (current : cyclic.current = some (maintenancePlan cfg)) (now : cyclic.sExec = clock)
    : StartsMaintenance cfg clock newK cyclic := by
  intro partitionId vCpuId chosen
  obtain ⟨plan, read, slot, own⟩ := dispatched.inOwnSlot partitionId vCpuId chosen
  obtain ⟨plan', read', frame⟩ := dispatched.inFrame
  cases read.symm.trans read'
  rw [currentPlan, current] at read
  rw [now, Int.sub_self] at own
  exact ⟨current, plan, read, now, now ▸ frame.mjf_eq, slot, own⟩

/-- A plan just installed has no frame yet, so none that starts now. -/
theorem Kept.not_starting {cfg : Config} (accepted : cfg.Accepted) {clock : Int}
    (now : 0 ≤ clock) {cyclic : CyclicData} (notIdle : cyclic.current ≠ some .idle)
    (mjf : cyclic.mjf = 0) {newK : Option KThreadRef} {partitionId vCpuId : XmU32}
    (chosen : newK = some (.vCpu partitionId vCpuId))
    : ¬ StartsMaintenance cfg clock newK cyclic := by
  intro starts
  obtain ⟨current, plan, read, _, ends, _⟩ := starts partitionId vCpuId chosen
  have inForce : currentPlan cfg cyclic = .ok plan := by rw [currentPlan, current]; exact read
  have frame := accepted.majorFrame_pos plan (currentPlan_mem inForce notIdle)
  omega

/-- The `Schedule` that follows answers from the choice that was kept. -/
theorem maintenance_cached {cfg : Config} (accepted : cfg.Accepted) {m m' : Machine}
    (kept : Kept cfg m.clock m.cyclic) (switch : switchToMaintenance cfg m = .ok m')
    (cached : usesCache m = true)
    : StartsMaintenance cfg m.clock (cachedKThread m) m'.cyclic ↔ TakesEffect cfg m := by
  have now : (0 : Int) ≤ m.clock := Int.natCast_nonneg _
  constructor
  · intro starts
    refine { cached := ?_, resumed := fun fresh => absurd (cached.symm.trans fresh) (by simp) }
    intro _ partitionId vCpuId chosen
    rcases switchToMaintenance_cases switch with ⟨current, rfl⟩ | ⟨_, notIdle, rfl⟩
    · obtain ⟨_, _, _, sExec, _⟩ := starts partitionId vCpuId chosen
      refine ⟨⟨current, ?_⟩, sExec⟩
      cases kept with
      | coherent coherent _ =>
          rcases coherent.frame with ⟨none, _⟩ | ⟨_, _, frame⟩
          · rw [none] at current
            cases current
          · exact frame.slot_nonneg
      | installed notIdle _ mjf =>
          exact absurd starts (Kept.not_starting accepted now notIdle mjf chosen)
    · refine absurd starts (Kept.not_starting accepted now ?_ rfl chosen)
      exact fun idle => notIdle (Option.some.inj idle)
  · intro effect partitionId vCpuId chosen
    obtain ⟨⟨current, slot⟩, sExec⟩ := effect.cached cached partitionId vCpuId chosen
    cases kept with
    | installed _ unused _ => omega
    | coherent coherent _ =>
        obtain ⟨plan, read, own⟩ :=
          coherent.cached partitionId vCpuId (cachedKThread_eq chosen)
        rcases switchToMaintenance_cases switch with ⟨_, rfl⟩ | ⟨other, _⟩
        · simp only [usesCache, Bool.and_eq_true, decide_eq_true_eq] at cached
          have soon : (m.clock : Int) < m.cyclic.nextAct := cached.1
          rcases coherent.frame with ⟨none, _⟩ | ⟨plan', read', frame⟩
          · rw [none] at current
            cases current
          · cases read.symm.trans read'
            have planned := read
            rw [currentPlan, current] at planned
            have ends := frame.mjf_eq
            exact ⟨current, plan, planned, sExec, by simp only; omega,
              own 0 (by omega) (by omega)⟩
        · exact absurd current other

/-- The `Schedule` that follows decides anew. -/
theorem maintenance_recomputed {cfg : Config} (accepted : cfg.Accepted) {m switched m' : Machine}
    (kept : Kept cfg m.clock m.cyclic) (switch : switchToMaintenance cfg m = .ok switched)
    (fresh : usesCache m = false) {newK : Option KThreadRef}
    (returned : recompute cfg switched = .ok (newK, m'))
    : StartsMaintenance cfg m.clock newK m'.cyclic ↔ TakesEffect cfg m := by
  obtain ⟨clock, tab, inForce, requested, -, -, -⟩ := switchToMaintenance_keeps switch
  have kept' := kept.maintenance switch
  have now : (0 : Int) ≤ switched.clock := Int.natCast_nonneg _
  obtain ⟨_, _, dispatched⟩ := recompute_dispatched accepted (kept'.framed now) returned
  obtain ⟨framed, plan, slot, done⟩ := recompute_recomputed returned
  obtain ⟨decision, rfl, chosen⟩ := done.chosen
  have same : ({ switched.cyclic with resched := false } : CyclicData).current
      = some switched.cyclic.new := by
    rw [requested]
    exact inForce
  have frames := refreshFrame_frames same done.refreshed done.current
  have current : m'.cyclic.current = some (maintenancePlan cfg) :=
    done.current_eq.trans (frames.current.trans inForce)
  have read : cfg.plan (maintenancePlan cfg) = .ok plan := by
    have read := done.current
    rwa [currentPlan, frames.current, inForce] at read
  rw [← clock]
  cases kept' with
  | installed notIdle slot' mjf =>
      -- The plan has just been installed, so its first frame starts now.
      have starts := frames.installed slot' (mjf.trans_le now)
      refine iff_of_true (dispatched.startsMaintenance current (done.sExec_eq.trans starts)) ?_
      refine { cached := fun cached => absurd (fresh.symm.trans cached) (by simp), resumed := ?_ }
      intro _ running
      rcases switchToMaintenance_cases switch with ⟨_, rfl⟩ | ⟨other, _⟩
      · have negative := running.2
        simp only at slot'
        omega
      · exact absurd running.1 other
  | coherent coherent _ =>
      have running : 0 ≤ switched.cyclic.slot := by
        rcases coherent.frame with ⟨none, _⟩ | ⟨_, _, frame⟩
        · rw [none] at inForce
          cases inForce
        · exact frame.slot_nonneg
      have passed := (kept.maintenance switch).refreshed done.refreshed done.current
      have start := frames.running running
      rcases switchToMaintenance_cases switch with ⟨before, rfl⟩ | ⟨_, _, rfl⟩
      · replace start : framed.sExec = frameStart plan m.clock m.cyclic := start
        have planned := currentPlan_mem done.current (frames.current ▸ coherent.not_idle)
        obtain ⟨_, _, frame⟩ := dispatched.inFrame
        have offset := frame.offset_toNat
        rw [done.sExec_eq] at offset
        constructor
        · intro starts
          refine
            { cached := fun cached => absurd (fresh.symm.trans cached) (by simp), resumed := ?_ }
          intro _ _ plan'' read''
          cases read.symm.trans read''
          rw [← start]
          cases newK : decision.newK with
          | none =>
              refine Or.inr ?_
              intro partitionId vCpuId own k owner present
              rw [← offset] at owner passed
              exact chooseSlot_idle accepted planned passed chosen newK owner present
          | some ref =>
              obtain ⟨partitionId, vCpuId, _, rfl, _⟩ := chooseSlot_ready chosen ref newK
              obtain ⟨_, _, _, sExec, _⟩ := starts partitionId vCpuId newK
              exact Or.inl (done.sExec_eq.symm.trans sExec)
        · intro effect
          rcases effect.resumed fresh ⟨before, running⟩ plan read with starts | nobody
          · exact dispatched.startsMaintenance current
              (done.sExec_eq.trans (start.trans starts))
          · intro partitionId vCpuId newK
            obtain ⟨plan'', read'', own, owner⟩ := dispatched.inOwnSlot partitionId vCpuId newK
            obtain ⟨p, v, k, same, present, ready⟩ := chooseSlot_ready chosen _ newK
            cases same
            rw [currentPlan, current] at read''
            cases read.symm.trans read''
            rw [done.sExec_eq, start] at owner
            exact absurd ready (by simp [nobody partitionId vCpuId own k owner present])
      · simp only at running
        omega

/-- In every state a processor can reach, a switch to maintenance that returns selects no guest
but the one at the start of a maintenance frame that starts now if and only if the scheduler
does not go on with what it kept.
-/
theorem maintenance_takes_effect {cfg : Config} (accepted : cfg.Accepted)
    {start m m' : Machine} (booted : start.cyclic = initSchedLocal cfg) {past : List HmEvent}
    (run : Reach (HmNext cfg) start past m) {newK : Option KThreadRef}
    (returned : hmSwitchToMaintenance cfg m = .ok (newK, m'))
    : StartsMaintenance cfg (getSysClockUsec m) newK m'.cyclic ↔ TakesEffect cfg m := by
  have kept := reachable_kept accepted booted run
  obtain ⟨switched, switch, called⟩ := bind_eq_ok.mp returned
  obtain ⟨_, _, _, _, _, sameUse, sameChoice⟩ := switchToMaintenance_keeps switch
  unfold getReadyKThreadCyclic at called
  cases cached : usesCache m with
  | true =>
      rw [sameUse, cached, if_pos rfl] at called
      cases called
      rw [sameChoice]
      exact maintenance_cached accepted kept switch cached
  | false =>
      rw [sameUse, cached, if_neg Bool.false_ne_true] at called
      exact maintenance_recomputed accepted kept switch cached called

/-- Two plans of one slot in a frame of 10: partition 0's, and partition 1's for maintenance. -/
def twoPlanConfig : Config where
  slotTab :=
    [{ id := 0, partitionId := 0, vCpuId := 0, sExec := 0, eExec := 4 },
      { id := 0, partitionId := 1, vCpuId := 0, sExec := 0, eExec := 4 }]
  planTab :=
    [{ id := 0, majorFrame := 10, noSlots := 1, slotsOffset := 0 },
      { id := 1, majorFrame := 10, noSlots := 1, slotsOffset := 1 }]
  schedCyclicPlansOffset := 0
  noSchedCyclicPlans := 2
  noPartitions := 2

theorem twoPlanConfig_accepted : twoPlanConfig.Accepted where
  majorFrame_pos := by decide
  checked := by decide
  no_wrap := by decide

/-- The processor of `twoPlanConfig` just booted, with every vCPU ready. -/
def twoPlanStart : Machine where
  clock := 3
  cyclic := initSchedLocal twoPlanConfig
  idleKThread := { flags := KTHREAD_READY_F, g := none }
  kThreadTab := fun _ _ => some { flags := KTHREAD_READY_F, g := none }

/-- The scheduler is called at 3, and the switch made `elapsed` later selects `newK`. -/
theorem twoPlanConfig_switched (elapsed : Nat) (newK : Option KThreadRef)
    (selects :
      ((do
        let (_, m) ← getReadyKThreadCyclic twoPlanConfig twoPlanStart
        hmSwitchToMaintenance twoPlanConfig { m with clock := m.clock + elapsed }).map
          Prod.fst) = .ok newK)
    : ∃ m m', Reach (HmNext twoPlanConfig) twoPlanStart
        [.sched (.tick elapsed), .sched .getReadyKThread] m
      ∧ hmSwitchToMaintenance twoPlanConfig m = .ok (newK, m') := by
  obtain ⟨m', later⟩ := map_fst_eq_ok.mp selects
  obtain ⟨⟨first, m⟩, called, later⟩ := bind_eq_ok.mp later
  have taken : hmStep twoPlanConfig twoPlanStart (.sched .getReadyKThread) = .ok m := by
    simp only [hmStep, step, called]
    rfl
  exact ⟨_, m', .step (.step .start taken) rfl, later⟩

/-- A switch at the end of partition 0's slot selects partition 1, whose frame starts then. -/
theorem twoPlanConfig_takes_effect
    : ∃ m m', Reach (HmNext twoPlanConfig) twoPlanStart
        [.sched (.tick 4), .sched .getReadyKThread] m
      ∧ hmSwitchToMaintenance twoPlanConfig m = .ok (some (.vCpu 1 0), m')
      ∧ (StartsMaintenance twoPlanConfig (getSysClockUsec m) (some (.vCpu 1 0)) m'.cyclic
        ↔ TakesEffect twoPlanConfig m) := by
  obtain ⟨m, m', run, switched⟩ :=
    twoPlanConfig_switched 4 (some (.vCpu 1 0)) (by decide)
  exact ⟨m, m', run, switched, maintenance_takes_effect twoPlanConfig_accepted rfl run switched⟩

/-- A switch one microsecond into partition 0's slot leaves that partition running. -/
theorem abandoned_plan_runs_on
    : ∃ m m', Reach (HmNext twoPlanConfig) twoPlanStart
        [.sched (.tick 1), .sched .getReadyKThread] m
      ∧ hmSwitchToMaintenance twoPlanConfig m = .ok (some (.vCpu 0 0), m')
      ∧ ¬ StartsMaintenance twoPlanConfig (getSysClockUsec m) (some (.vCpu 0 0)) m'.cyclic := by
  obtain ⟨m, m', run, switched⟩ :=
    twoPlanConfig_switched 1 (some (.vCpu 0 0)) (by decide)
  refine ⟨m, m', run, switched, ?_⟩
  intro starts
  obtain ⟨_, plan, read, _, _, slot, own⟩ := starts 0 0 rfl
  -- The maintenance plan has no slot of partition 0.
  cases read
  have slots : twoPlanConfig.slotsOf { id := 1, majorFrame := 10, noSlots := 1, slotsOffset := 1 }
      = [{ id := 0, partitionId := 1, vCpuId := 0, sExec := 0, eExec := 4 }] := rfl
  have ofPlan := own.ofPlan
  rw [slots] at ofPlan
  have owner := own.partitionId_eq
  rw [List.mem_singleton.mp ofPlan] at owner
  cases owner

end XtratuM.Sched
