import XtratuM.Library.Reachability
import XtratuM.Sched.Cyclic

/-! Temporal isolation of the cyclic scheduler: whatever happens between two calls, a guest
is dispatched inside one of its own slots of the plan in force.
-/

namespace XtratuM.Sched

open Reachability

-----------------------------------------------------------------------------------------
-- Accepted plan tables

/-- A plan table whose every plan has a major frame, passes the parser's check and has
slots whose ends were computed without a wrap.
-/
structure Config.Accepted (cfg : Config) : Prop where
  majorFrame_pos : ∀ plan ∈ cfg.planTab, 0 < plan.majorFrame.toNat
  checked : ∀ plan ∈ cfg.planTab, checkSchedCyclicPlan cfg plan = true
  no_wrap : ∀ plan ∈ cfg.planTab, ∀ slot ∈ cfg.slotsOf plan, slot.sExec ≤ slot.eExec

/-- The check bounds the end of every slot by the major frame. Witness: induction on the
slots, the end of the slot before being the accumulator.
-/
theorem checkSlots_eExec_le {majorFrame t : XmU32} {slots : List CyclicSlot}
    (passed : checkSlots majorFrame t slots = true)
    : ∀ slot ∈ slots, slot.eExec ≤ majorFrame := by
  induction slots generalizing t with
  | nil => intro slot member; cases member
  | cons head rest ih =>
      unfold checkSlots at passed
      split at passed
      · contradiction
      · split at passed
        · contradiction
        · next within =>
            intro slot member
            rcases List.mem_cons.mp member with same | later
            · rw [same]
              exact BitVec.not_lt.mp within
            · exact ih passed slot later

/-- Both ends of a slot of an accepted plan lie in the major frame. -/
theorem Config.Accepted.slot_within {cfg : Config} (accepted : cfg.Accepted)
    {plan : CyclicPlan} (planned : plan ∈ cfg.planTab) {slot : CyclicSlot}
    (member : slot ∈ cfg.slotsOf plan)
    : slot.sExec.toNat ≤ plan.majorFrame.toNat ∧ slot.eExec.toNat ≤ plan.majorFrame.toNat := by
  have ends : slot.eExec ≤ plan.majorFrame :=
    checkSlots_eExec_le (accepted.checked plan planned) slot member
  have starts : slot.sExec ≤ slot.eExec := accepted.no_wrap plan planned slot member
  rw [BitVec.le_def] at ends starts
  omega

/-- A plan read through a pointer into the table is a plan of the table. -/
theorem Config.plan_tab_mem {cfg : Config} {index : Nat} {plan : CyclicPlan}
    (read : cfg.plan (.tab index) = .ok plan)
    : plan ∈ cfg.planTab := by
  simp only [Config.plan] at read
  split at read
  · next found =>
      cases read
      exact List.mem_of_getElem? found
  · cases read

/-- The slots of a plan stand in the slot table from `slotsOffset` on. -/
theorem Config.slotsOf_getElem? {cfg : Config} {plan : CyclicPlan} {index : Nat}
    {slot : CyclicSlot}
    : (cfg.slotsOf plan)[index]? = some slot
      ↔ index < plan.noSlots ∧ cfg.slot (plan.slotsOffset + index) = .ok slot := by
  have read : cfg.slot (plan.slotsOffset + index) = .ok slot
      ↔ cfg.slotTab[plan.slotsOffset + index]? = some slot := by
    unfold Config.slot
    split <;> simp_all
  rw [read]
  simp only [Config.slotsOf, List.getElem?_take, List.getElem?_drop]
  split <;> simp_all

/-- A slot read at an index below `noSlots` is one of the plan's slots. -/
theorem Config.slot_mem {cfg : Config} {plan : CyclicPlan} {index : Nat} {slot : CyclicSlot}
    (inPlan : index < plan.noSlots)
    (read : cfg.slot (plan.slotsOffset + index) = .ok slot)
    : slot ∈ cfg.slotsOf plan :=
  List.mem_of_getElem? (Config.slotsOf_getElem?.mpr ⟨inPlan, read⟩)

-----------------------------------------------------------------------------------------
-- Frames

/-- The frame state a recomputation leaves: the frame of `plan` that contains `cTime`. -/
structure InFrame (plan : CyclicPlan) (cTime : Int) (cyclic : CyclicData) : Prop where
  slot_nonneg : 0 ≤ cyclic.slot
  mjf_eq : cyclic.mjf = cyclic.sExec + plan.majorFrame.toNat
  begun : cyclic.sExec ≤ cTime
  isOpen : cTime < cyclic.mjf

/-- The loop over missed frames moves the frame and nothing else, and stops in the frame
that contains `cTime`. Witness: induction on the fuel; every pass leaves a frame whose end
is one major frame after its start.
-/
theorem catchUp_result {majorFrame : XmU32} {cTime : Int} {fuel : Nat}
    {cyclic caught : CyclicData}
    (returned : catchUp majorFrame cTime fuel cyclic = .ok caught)
    (due : cyclic.mjf ≤ cTime)
    : ∃ sExec : Int,
      caught = { cyclic with sExec, mjf := sExec + majorFrame.toNat }
      ∧ sExec ≤ cTime
      ∧ cTime < sExec + majorFrame.toNat := by
  induction fuel generalizing cyclic with
  | zero => cases returned
  | succ fuel ih =>
      rw [catchUp, if_pos due] at returned
      by_cases again : cyclic.mjf + majorFrame.toNat ≤ cTime
      · obtain ⟨sExec, same, begun, ends⟩ := ih returned again
        exact ⟨sExec, same, begun, ends⟩
      · cases fuel with
        | zero => cases returned
        | succ fuel =>
            rw [catchUp, if_neg again] at returned
            cases returned
            exact ⟨cyclic.mjf, rfl, due, by omega⟩

/-- The loop over missed frames terminates when frames are not empty: the distance to
`cTime` shrinks by at least one microsecond a pass.
-/
theorem catchUp_returns {majorFrame : XmU32} {cTime : Int} {fuel : Nat}
    {cyclic : CyclicData} (frame : 0 < majorFrame.toNat)
    (enough : (cTime - cyclic.mjf).toNat + 1 < fuel)
    : ∃ caught, catchUp majorFrame cTime fuel cyclic = .ok caught := by
  induction fuel generalizing cyclic with
  | zero => omega
  | succ fuel ih =>
      unfold catchUp
      split
      · next due =>
          by_cases again : cyclic.mjf + majorFrame.toNat ≤ cTime
          · exact ih (by simp only; omega)
          · cases fuel with
            | zero => omega
            | succ fuel => exact ⟨_, by rw [catchUp, if_neg again]⟩
      · exact ⟨cyclic, rfl⟩

/-- A plan switch either keeps a current plan or installs the requested one with an unused
frame; the timer, the next activation and the cached kthread stay.
-/
theorem makePlanSwitch_cases {cfg : Config} {cTime : Int} {cyclic switched : CyclicData}
    (returned : makePlanSwitch cfg cTime cyclic = .ok switched)
    : (cyclic.current = some cyclic.new ∧ switched = cyclic)
      ∨ (switched =
          { cyclic with
            prev := cyclic.current
            current := some cyclic.new
            planSwitchTime := cTime
            slot := -1
            mjf := 0 }
        ∧ cyclic.new ≠ .idle) := by
  unfold makePlanSwitch at returned
  split at returned
  · next same =>
      cases returned
      exact Or.inl ⟨same, rfl⟩
  · obtain ⟨plan, read, returned⟩ := bind_eq_ok.mp returned
    split at returned
    · cases returned
    · next framed =>
        cases returned
        refine Or.inr ⟨rfl, ?_⟩
        intro idle
        rw [idle] at read
        cases read
        exact framed rfl

/-- The plan in force is not switched to again. -/
theorem makePlanSwitch_same {cfg : Config} {cTime : Int} {cyclic : CyclicData}
    (same : cyclic.current = some cyclic.new)
    : makePlanSwitch cfg cTime cyclic = .ok cyclic :=
  if_pos same

/-- A slot of `plan` owned by the vCPU, in which offset `t` of the frame lies. -/
structure OwnSlot (cfg : Config) (plan : CyclicPlan) (partitionId vCpuId : XmU32) (t : Int)
    (slot : CyclicSlot) : Prop where
  ofPlan : slot ∈ cfg.slotsOf plan
  partitionId_eq : slot.partitionId = partitionId
  vCpuId_eq : slot.vCpuId = vCpuId
  begun : slot.sExec.toNat ≤ t
  notOver : t < slot.eExec.toNat

/-- A frame of `plan` has begun by `clock`, and the next activation is no later than its
end.
-/
structure Begun (plan : CyclicPlan) (clock : Int) (cyclic : CyclicData) : Prop where
  slot_nonneg : 0 ≤ cyclic.slot
  mjf_eq : cyclic.mjf = cyclic.sExec + plan.majorFrame.toNat
  begun : cyclic.sExec ≤ clock
  nextAct_le : cyclic.nextAct ≤ cyclic.mjf

/-- The data kept between calls, at a time `clock` not before the last call. Before the
first switch there is no frame; afterwards a frame of the plan in force has begun. A cached
guest owns a slot of that plan until the next activation.
-/
structure Coherent (cfg : Config) (clock : Int) (cyclic : CyclicData) : Prop where
  not_idle : cyclic.current ≠ some .idle
  frame :
    (cyclic.current = none ∧ cyclic.mjf = 0 ∧ cyclic.nextAct = 0)
    ∨ ∃ plan, currentPlan cfg cyclic = .ok plan ∧ Begun plan clock cyclic
  cached : ∀ partitionId vCpuId, cyclic.kThread = some (.vCpu partitionId vCpuId) →
    ∃ plan, currentPlan cfg cyclic = .ok plan
      ∧ ∀ t : Int, clock ≤ cyclic.sExec + t → cyclic.sExec + t < cyclic.nextAct →
        ∃ slot, OwnSlot cfg plan partitionId vCpuId t slot

/-- Coherence is not lost while time passes. -/
theorem Coherent.later {cfg : Config} {clock clock' : Int} {cyclic : CyclicData}
    (coherent : Coherent cfg clock cyclic) (passed : clock ≤ clock')
    : Coherent cfg clock' cyclic := by
  refine { not_idle := coherent.not_idle, frame := ?_, cached := ?_ }
  · rcases coherent.frame with fresh | ⟨plan, read, frame⟩
    · exact Or.inl fresh
    · exact Or.inr ⟨plan, read, { frame with begun := frame.begun.trans passed }⟩
  · intro partitionId vCpuId chosen
    obtain ⟨plan, read, own⟩ := coherent.cached partitionId vCpuId chosen
    exact ⟨plan, read, fun t later soon => own t (passed.trans later) soon⟩

theorem currentPlan_mem {cfg : Config} {cyclic : CyclicData} {plan : CyclicPlan}
    (read : currentPlan cfg cyclic = .ok plan) (notIdle : cyclic.current ≠ some .idle)
    : plan ∈ cfg.planTab := by
  unfold currentPlan at read
  split at read
  · next ref current =>
      cases ref with
      | idle => exact absurd current notIdle
      | tab index => exact Config.plan_tab_mem read
  · cases read

/-- Entering a frame moves the frame and nothing else. -/
theorem enterFrame_result {plan : CyclicPlan} {cTime : Int} {cyclic entered : CyclicData}
    (frame : 0 < plan.majorFrame.toNat) (due : cyclic.mjf ≤ cTime)
    (returned : enterFrame plan cTime cyclic = .ok entered)
    : ∃ sExec : Int,
      entered = { cyclic with sExec, mjf := sExec + plan.majorFrame.toNat }
      ∧ sExec ≤ cTime
      ∧ cTime < sExec + plan.majorFrame.toNat := by
  unfold enterFrame at returned
  split at returned
  · exact catchUp_result returned due
  · cases returned
    refine ⟨cTime, ?_, le_refl _, by omega⟩
    rw [Int.add_comm]

/-- The frame started when the one in progress is over contains `cTime` and belongs to the
requested plan. Witness: a switch empties the frame, so either way the frame is due.
-/
theorem startFrame_inFrame {cfg : Config} (accepted : cfg.Accepted) {cTime : Int}
    {cyclic framed : CyclicData} (now : 0 ≤ cTime) (notIdle : cyclic.current ≠ some .idle)
    (due : cyclic.mjf ≤ cTime)
    (returned : startFrame cfg cTime cyclic = .ok framed)
    : framed.current ≠ some .idle
      ∧ ∀ plan, currentPlan cfg framed = .ok plan → InFrame plan cTime framed := by
  obtain ⟨switched, switch, returned⟩ := bind_eq_ok.mp returned
  obtain ⟨plan, read, returned⟩ := bind_eq_ok.mp returned
  obtain ⟨entered, enter, returned⟩ := bind_eq_ok.mp returned
  cases returned
  have inForce : switched.current ≠ some .idle ∧ switched.mjf ≤ cTime := by
    rcases makePlanSwitch_cases switch with ⟨_, rfl⟩ | ⟨rfl, busy⟩
    · exact ⟨notIdle, due⟩
    · exact ⟨fun idle => busy (Option.some.inj idle), now⟩
  have frame : 0 < plan.majorFrame.toNat :=
    accepted.majorFrame_pos plan (currentPlan_mem read inForce.1)
  obtain ⟨sExec, rfl, begun, ends⟩ := enterFrame_result frame inForce.2 enter
  refine ⟨inForce.1, ?_⟩
  intro plan' read'
  cases read.symm.trans read'
  exact { slot_nonneg := le_refl _, mjf_eq := rfl, begun, isOpen := ends }

/-- The frame in progress is over, or is one of the plan in force. -/
structure Framed (cfg : Config) (clock : Int) (cyclic : CyclicData) : Prop where
  not_idle : cyclic.current ≠ some .idle
  frame : cyclic.mjf ≤ clock
    ∨ ∃ plan, currentPlan cfg cyclic = .ok plan ∧ Begun plan clock cyclic

theorem Coherent.framed {cfg : Config} {clock : Int} {cyclic : CyclicData} (now : 0 ≤ clock)
    (coherent : Coherent cfg clock cyclic)
    : Framed cfg clock cyclic where
  not_idle := coherent.not_idle
  frame := coherent.frame.imp_left fun ⟨_, unset, _⟩ => unset.trans_le now

/-- The frame in force after a recomputation read the clock contains that time. -/
theorem refreshFrame_inFrame {cfg : Config} (accepted : cfg.Accepted) {cTime : Int}
    {cyclic framed : CyclicData} (now : 0 ≤ cTime) (before : Framed cfg cTime cyclic)
    (returned : refreshFrame cfg cTime cyclic = .ok framed)
    : framed.current ≠ some .idle
      ∧ ∀ plan, currentPlan cfg framed = .ok plan → InFrame plan cTime framed := by
  unfold refreshFrame at returned
  split at returned
  · next due => exact startFrame_inFrame accepted now before.not_idle due returned
  · next notDue =>
      cases returned
      refine ⟨before.not_idle, ?_⟩
      intro plan read
      rcases before.frame with due | ⟨plan', read', frame⟩
      · exact absurd due notDue
      · cases read.symm.trans read'
        exact
          { slot_nonneg := frame.slot_nonneg, mjf_eq := frame.mjf_eq
            begun := frame.begun, isOpen := by omega }

/-- The 32-bit offset in a frame is the exact distance from its start. -/
theorem InFrame.offset_toNat {plan : CyclicPlan} {cTime : Int} {cyclic : CyclicData}
    (inFrame : InFrame plan cTime cyclic)
    : ((BitVec.ofInt 32 (cTime - cyclic.sExec)).toNat : Int) = cTime - cyclic.sExec := by
  have word := plan.majorFrame.isLt
  have begun := inFrame.begun
  have ends := inFrame.isOpen
  rw [inFrame.mjf_eq] at ends
  rw [BitVec.toNat_ofInt, Int.toNat_of_nonneg (by omega)]
  exact Int.emod_eq_of_lt (by omega) (by omega)

-----------------------------------------------------------------------------------------
-- Slots

/-- The slot loop stops past the plan or at a slot that is not over at `t`. -/
theorem advanceSlot_found {cfg : Config} {plan : CyclicPlan} {t : XmU32}
    {fuel slot found : Nat} (returned : advanceSlot cfg plan t fuel slot = .ok found)
    : plan.noSlots ≤ found
      ∨ ∃ entry, cfg.slot (plan.slotsOffset + found) = .ok entry ∧ t < entry.eExec := by
  induction fuel generalizing slot with
  | zero => cases returned
  | succ fuel ih =>
      unfold advanceSlot at returned
      split at returned
      · next past =>
          cases returned
          exact Or.inl past
      · obtain ⟨entry, read, returned⟩ := bind_eq_ok.mp returned
        split at returned
        · exact ih returned
        · next ends =>
            cases returned
            exact Or.inr ⟨entry, read, BitVec.not_le.mp ends⟩

/-- What a decision taken at frame offset `t` says: a chosen vCPU owns the slot around `t`
up to the next activation, which lies within the frame.
-/
structure Decision.Sound (cfg : Config) (plan : CyclicPlan) (t : XmU32)
    (decision : Decision) : Prop where
  chosen : ∀ partitionId vCpuId, decision.newK = some (.vCpu partitionId vCpuId) →
    t < decision.nextTime
    ∧ ∀ t' : Int, t.toNat ≤ t' → t' < decision.nextTime.toNat →
      ∃ slot, OwnSlot cfg plan partitionId vCpuId t' slot
  within : decision.nextTime.toNat ≤ plan.majorFrame.toNat

/-- A decision to idle is sound when the next activation lies within the frame. -/
theorem Decision.Sound.idle {cfg : Config} {plan : CyclicPlan} {t nextTime : XmU32}
    (within : nextTime.toNat ≤ plan.majorFrame.toNat)
    : Decision.Sound cfg plan t { newK := none, nextTime } := by
  refine { chosen := ?_, within }
  intro partitionId vCpuId chosen
  cases chosen

theorem chooseInSlot_sound {cfg : Config} (accepted : cfg.Accepted) {m : Machine}
    {plan : CyclicPlan} (planned : plan ∈ cfg.planTab) {t : XmU32} {slot : Nat}
    {decision : Decision} {entry : CyclicSlot} (inPlan : slot < plan.noSlots)
    (read : cfg.slot (plan.slotsOffset + slot) = .ok entry) (ends : t < entry.eExec)
    (returned : chooseInSlot cfg m plan t slot = .ok decision)
    : decision.Sound cfg plan t := by
  have member : entry ∈ cfg.slotsOf plan := Config.slot_mem inPlan read
  have bounds := accepted.slot_within planned member
  simp only [chooseInSlot, read] at returned
  obtain ⟨_, same, returned⟩ := bind_eq_ok.mp returned
  cases same
  split at returned
  · next begun =>
      obtain ⟨_, _, returned⟩ := bind_eq_ok.mp returned
      split at returned
      · cases returned
      · split at returned
        · cases returned
          refine { chosen := ?_, within := bounds.2 }
          intro partitionId vCpuId chosen
          cases chosen
          refine ⟨ends, ?_⟩
          intro t' later notOver
          have starts : entry.sExec.toNat ≤ t.toNat := begun
          exact ⟨entry, member, rfl, rfl, by omega, notOver⟩
        · split at returned
          · next more =>
              obtain ⟨following, readNext, returned⟩ := bind_eq_ok.mp returned
              cases returned
              have next : following ∈ cfg.slotsOf plan := Config.slot_mem more readNext
              exact .idle (accepted.slot_within planned next).1
          · cases returned
            exact .idle (le_refl _)
  · cases returned
    exact .idle bounds.1

theorem chooseSlot_sound {cfg : Config} (accepted : cfg.Accepted) {m : Machine}
    {plan : CyclicPlan} (planned : plan ∈ cfg.planTab) {t : XmU32} {slot : Int} {found : Nat}
    {decision : Decision} (returned : chooseSlot cfg m plan t slot = .ok (found, decision))
    : decision.Sound cfg plan t := by
  obtain ⟨first, _, returned⟩ := bind_eq_ok.mp returned
  obtain ⟨stopped, search, returned⟩ := bind_eq_ok.mp returned
  split at returned
  · cases returned
    exact .idle (le_refl _)
  · next inPlan =>
      obtain ⟨taken, choice, returned⟩ := bind_eq_ok.mp returned
      cases returned
      rcases advanceSlot_found search with past | ⟨entry, read, ends⟩
      · omega
      · exact chooseInSlot_sound accepted planned (by omega) read ends choice

-----------------------------------------------------------------------------------------
-- Calls

/-- What a call of `GetReadyKThreadCyclic` at time `cTime` guarantees. -/
structure Dispatched (cfg : Config) (cTime : Int) (newK : Option KThreadRef)
    (cyclic : CyclicData) : Prop where
  inFrame : ∃ plan, currentPlan cfg cyclic = .ok plan ∧ InFrame plan cTime cyclic
  inOwnSlot : ∀ partitionId vCpuId, newK = some (.vCpu partitionId vCpuId) →
    ∃ plan, currentPlan cfg cyclic = .ok plan
      ∧ ∃ slot, OwnSlot cfg plan partitionId vCpuId (cTime - cyclic.sExec) slot

/-- A recomputation keeps the data coherent and dispatches inside an own slot. Witness:
the frame is the one around the clock, so the 32-bit offset is exact and the decision's
bounds carry over to absolute times.
-/
theorem recompute_dispatched {cfg : Config} (accepted : cfg.Accepted) {m m' : Machine}
    {newK : Option KThreadRef} (before : Framed cfg m.clock m.cyclic)
    (returned : recompute cfg m = .ok (newK, m'))
    : m'.clock = m.clock
      ∧ Coherent cfg m.clock m'.cyclic
      ∧ Dispatched cfg m.clock newK m'.cyclic := by
  obtain ⟨framed, refresh, returned⟩ := bind_eq_ok.mp returned
  obtain ⟨plan, read, returned⟩ := bind_eq_ok.mp returned
  obtain ⟨⟨slot, decision⟩, choice, returned⟩ := bind_eq_ok.mp returned
  obtain ⟨kThreadTab, _, returned⟩ := bind_eq_ok.mp returned
  cases returned
  have cleared : Framed cfg m.clock { m.cyclic with resched := false } :=
    { not_idle := before.not_idle
      frame := before.frame.imp_right fun ⟨plan, read, frame⟩ => ⟨plan, read, { frame with }⟩ }
  obtain ⟨notIdle, frames⟩ :=
    refreshFrame_inFrame accepted (Int.natCast_nonneg m.clock) cleared refresh
  have inFrame := frames plan read
  have sound := chooseSlot_sound accepted (currentPlan_mem read notIdle) choice
  have within := sound.within
  have offset := inFrame.offset_toNat
  have begun := inFrame.begun
  have ends := inFrame.mjf_eq
  refine ⟨rfl, ?_, ?_⟩
  · refine { not_idle := notIdle, frame := Or.inr ⟨plan, read, ?_⟩, cached := ?_ }
    · exact
        { slot_nonneg := Int.natCast_nonneg slot, mjf_eq := ends, begun
          nextAct_le := by simp only; omega }
    · intro partitionId vCpuId chosen
      refine ⟨plan, read, ?_⟩
      intro t later soon
      obtain ⟨_, own⟩ := sound.chosen partitionId vCpuId chosen
      simp only [getSysClockUsec] at own later soon
      exact own t (by omega) (by omega)
  · refine { inFrame := ⟨plan, read, ?_⟩, inOwnSlot := ?_ }
    · exact { slot_nonneg := Int.natCast_nonneg slot, mjf_eq := ends, begun
              isOpen := inFrame.isOpen }
    · intro partitionId vCpuId chosen
      obtain ⟨notOver, own⟩ := sound.chosen partitionId vCpuId chosen
      refine ⟨plan, read, own _ ?_ ?_⟩
      · simp only [getSysClockUsec]; omega
      · have : _ < decision.nextTime.toNat := notOver
        simp only [getSysClockUsec] at this ⊢; omega

theorem cachedKThread_eq {m : Machine} {ref : KThreadRef} (cached : cachedKThread m = some ref)
    : m.cyclic.kThread = some ref := by
  obtain ⟨ref', kept, cached⟩ := Option.bind_eq_some_iff.mp cached
  obtain ⟨k, _, cached⟩ := Option.bind_eq_some_iff.mp cached
  split at cached
  · cases cached
    exact kept
  · cases cached

/-- A call keeps the data coherent and dispatches inside an own slot, from the cache too:
the cached choice is used only before the next activation.
-/
theorem getReadyKThreadCyclic_dispatched {cfg : Config} (accepted : cfg.Accepted)
    {m m' : Machine} {newK : Option KThreadRef} (coherent : Coherent cfg m.clock m.cyclic)
    (returned : getReadyKThreadCyclic cfg m = .ok (newK, m'))
    : m'.clock = m.clock
      ∧ Coherent cfg m.clock m'.cyclic
      ∧ Dispatched cfg m.clock newK m'.cyclic := by
  unfold getReadyKThreadCyclic at returned
  split at returned
  · next fromCache =>
      cases returned
      simp only [usesCache, Bool.and_eq_true, decide_eq_true_eq] at fromCache
      have soon : (m.clock : Int) < m.cyclic.nextAct := fromCache.1
      refine ⟨rfl, coherent, ?_⟩
      refine { inFrame := ?_, inOwnSlot := ?_ }
      · rcases coherent.frame with ⟨_, _, unset⟩ | ⟨plan, read, frame⟩
        · omega
        · have nextAct_le := frame.nextAct_le
          exact ⟨plan, read,
            { slot_nonneg := frame.slot_nonneg, mjf_eq := frame.mjf_eq
              begun := frame.begun, isOpen := by omega }⟩
      · intro partitionId vCpuId chosen
        obtain ⟨plan, read, own⟩ :=
          coherent.cached partitionId vCpuId (cachedKThread_eq chosen)
        exact ⟨plan, read, own _ (by omega) (by omega)⟩
  · exact recompute_dispatched accepted (coherent.framed (Int.natCast_nonneg _)) returned

-----------------------------------------------------------------------------------------
-- Runs

/-- What may happen between and in calls of the scheduler. -/
inductive Event
  | tick (elapsed : Nat)
  | getReadyKThread
  | setFlags (partitionId vCpuId flags : XmU32)
  | clearFlags (partitionId vCpuId flags : XmU32)
  | reschedule
  | yield
  | switchPlan (newPlanId : Nat)

/-- One event. `SchedYield` is only ever called with the idle kthread, by `IdleSelfSys`. -/
def step (cfg : Config) (m : Machine) : Event → Except Stop Machine
  | .tick elapsed => .ok { m with clock := m.clock + elapsed }
  | .getReadyKThread => (getReadyKThreadCyclic cfg m).map Prod.snd
  | .setFlags partitionId vCpuId flags =>
      match m.kThreadTab partitionId vCpuId with
      | none => .error .badAccess
      | some k =>
          .ok { m with
            kThreadTab := m.kThreadTab.set partitionId vCpuId (setKThreadFlags k flags) }
  | .clearFlags partitionId vCpuId flags =>
      match m.kThreadTab partitionId vCpuId with
      | none => .error .badAccess
      | some k =>
          .ok { m with
            kThreadTab := m.kThreadTab.set partitionId vCpuId (clearKThreadFlags k flags) }
  | .reschedule => .ok { m with cyclic := { m.cyclic with resched := true } }
  | .yield => .ok (schedYield m .idle)
  | .switchPlan newPlanId =>
      (switchSchedPlan cfg newPlanId m.cyclic).map fun (_, cyclic) => { m with cyclic }

/-- The events of the scheduler as a relation: an event that stops the kernel has no
successor.
-/
def Next (cfg : Config) (m : Machine) (event : Event) (m' : Machine) : Prop :=
  step cfg m event = .ok m'

theorem initSchedLocal_coherent (cfg : Config) (clock : Int)
    : Coherent cfg clock (initSchedLocal cfg) := by
  refine { not_idle := ?_, frame := Or.inl ⟨rfl, rfl, rfl⟩, cached := ?_ }
  · intro idle
    cases idle
  · intro partitionId vCpuId chosen
    cases chosen

/-- Every event keeps the scheduler's data coherent. -/
theorem step_coherent {cfg : Config} (accepted : cfg.Accepted) {m m' : Machine}
    {event : Event} (coherent : Coherent cfg m.clock m.cyclic)
    (taken : step cfg m event = .ok m')
    : Coherent cfg m'.clock m'.cyclic := by
  cases event with
  | tick elapsed =>
      cases taken
      exact coherent.later (by simp only; omega)
  | getReadyKThread =>
      simp only [step] at taken
      cases called : getReadyKThreadCyclic cfg m with
      | error stop => rw [called] at taken; cases taken
      | ok result =>
          rw [called] at taken
          cases taken
          obtain ⟨clock, kept, _⟩ :=
            getReadyKThreadCyclic_dispatched accepted coherent called
          rw [clock]
          exact kept
  | setFlags partitionId vCpuId flags =>
      simp only [step] at taken
      split at taken
      · cases taken
      · cases taken
        exact coherent
  | clearFlags partitionId vCpuId flags =>
      simp only [step] at taken
      split at taken
      · cases taken
      · cases taken
        exact coherent
  | reschedule =>
      cases taken
      refine { not_idle := coherent.not_idle, frame := ?_, cached := coherent.cached }
      exact coherent.frame.imp_right fun ⟨plan, read, frame⟩ => ⟨plan, read, { frame with }⟩
  | yield =>
      cases taken
      refine { not_idle := coherent.not_idle, frame := ?_, cached := ?_ }
      · exact coherent.frame.imp_right fun ⟨plan, read, frame⟩ =>
          ⟨plan, read, { frame with }⟩
      · intro partitionId vCpuId chosen
        cases chosen
  | switchPlan newPlanId =>
      simp only [step, switchSchedPlan] at taken
      cases reported : currentPlanId cfg m.cyclic with
      | error stop => rw [reported] at taken; cases taken
      | ok oldPlanId =>
          rw [reported] at taken
          cases taken
          refine { not_idle := coherent.not_idle, frame := ?_, cached := coherent.cached }
          exact coherent.frame.imp_right fun ⟨plan, read, frame⟩ =>
            ⟨plan, read, { frame with }⟩

/-- In every state a processor reaches after `InitSchedLocal`, with any kthreads and any
clock, a call of the scheduler starts from coherent data.
-/
theorem reachable_coherent {cfg : Config} (accepted : cfg.Accepted) {start m : Machine}
    (booted : start.cyclic = initSchedLocal cfg) {past : List Event}
    (run : Reach (Next cfg) start past m)
    : Coherent cfg m.clock m.cyclic := by
  refine run.invariant (P := fun m => Coherent cfg m.clock m.cyclic) ?_ ?_
  · rw [booted]
    exact initSchedLocal_coherent cfg start.clock
  · intro m event m' coherent taken
    exact step_coherent accepted coherent taken

/-- Temporal isolation: whatever happened before, a guest returned by the scheduler is the
vCPU of a slot of the plan in force around the current offset in the frame, and the frame
in force contains the time of the call.
-/
theorem getReadyKThreadCyclic_isolates {cfg : Config} (accepted : cfg.Accepted)
    {start m m' : Machine} (booted : start.cyclic = initSchedLocal cfg) {past : List Event}
    (run : Reach (Next cfg) start past m) {newK : Option KThreadRef}
    (returned : getReadyKThreadCyclic cfg m = .ok (newK, m'))
    : (∀ partitionId vCpuId, newK = some (.vCpu partitionId vCpuId) →
        ∃ plan, currentPlan cfg m'.cyclic = .ok plan
          ∧ ∃ slot ∈ cfg.slotsOf plan,
            slot.partitionId = partitionId
            ∧ slot.vCpuId = vCpuId
            ∧ slot.sExec.toNat ≤ getSysClockUsec m - m'.cyclic.sExec
            ∧ getSysClockUsec m - m'.cyclic.sExec < slot.eExec.toNat)
      ∧ ∃ plan, currentPlan cfg m'.cyclic = .ok plan
        ∧ m'.cyclic.sExec ≤ getSysClockUsec m
        ∧ getSysClockUsec m < m'.cyclic.mjf
        ∧ m'.cyclic.mjf = m'.cyclic.sExec + plan.majorFrame.toNat := by
  obtain ⟨_, _, dispatched⟩ :=
    getReadyKThreadCyclic_dispatched accepted (reachable_coherent accepted booted run)
      returned
  constructor
  · intro partitionId vCpuId chosen
    obtain ⟨plan, read, slot, own⟩ := dispatched.inOwnSlot partitionId vCpuId chosen
    exact ⟨plan, read, slot, own.ofPlan, own.partitionId_eq, own.vCpuId_eq, own.begun,
      own.notOver⟩
  · obtain ⟨plan, read, frame⟩ := dispatched.inFrame
    exact ⟨plan, read, frame.begun, frame.isOpen, frame.mjf_eq⟩

/-- Two slots of 4 in a frame of 10, owned by partitions 0 and 1. -/
def twoSlotConfig : Config where
  slotTab :=
    [{ id := 0, partitionId := 0, vCpuId := 0, sExec := 0, eExec := 4 },
      { id := 1, partitionId := 1, vCpuId := 0, sExec := 5, eExec := 9 }]
  planTab := [{ id := 0, majorFrame := 10, noSlots := 2, slotsOffset := 0 }]
  schedCyclicPlansOffset := 0
  noSchedCyclicPlans := 1
  noPartitions := 2

theorem twoSlotConfig_accepted : twoSlotConfig.Accepted where
  majorFrame_pos := by decide
  checked := by decide
  no_wrap := by decide

/-- The processor of `twoSlotConfig` just booted, with every vCPU ready. -/
def twoSlotStart : Machine where
  clock := 3
  cyclic := initSchedLocal twoSlotConfig
  idleKThread := { flags := KTHREAD_READY_F, g := none }
  kThreadTab := fun _ _ => some { flags := KTHREAD_READY_F, g := none }

/-- Called at 3 and again at 29, a frame later than due, the scheduler dispatches partition
1 in the second slot of the frame that started at 23.
-/
theorem twoSlotConfig_isolates
    : ∃ m m', Reach (Next twoSlotConfig) twoSlotStart [.tick 26, .getReadyKThread] m
      ∧ getReadyKThreadCyclic twoSlotConfig m = .ok (some (.vCpu 1 0), m')
      ∧ m'.cyclic.sExec ≤ getSysClockUsec m
      ∧ ∃ plan, currentPlan twoSlotConfig m'.cyclic = .ok plan
        ∧ ∃ slot ∈ twoSlotConfig.slotsOf plan, slot.partitionId = 1 := by
  have calls :
      ((do
        let (_, m) ← getReadyKThreadCyclic twoSlotConfig twoSlotStart
        getReadyKThreadCyclic twoSlotConfig { m with clock := m.clock + 26 }).map
          Prod.fst) = .ok (some (.vCpu 1 0)) := by
    decide
  obtain ⟨m', later⟩ := map_fst_eq_ok.mp calls
  obtain ⟨⟨newK, m⟩, first, later⟩ := bind_eq_ok.mp later
  have called : step twoSlotConfig twoSlotStart .getReadyKThread = .ok m := by
    simp only [step, first]
    rfl
  have run : Reach (Next twoSlotConfig) twoSlotStart [.tick 26, .getReadyKThread]
      { m with clock := m.clock + 26 } :=
    .step (.step .start called) rfl
  obtain ⟨own, _, _, begun, _⟩ :=
    getReadyKThreadCyclic_isolates twoSlotConfig_accepted rfl run later
  obtain ⟨plan, read, slot, ofPlan, owner, _⟩ := own 1 0 rfl
  exact ⟨_, m', run, later, begun, plan, read, slot, ofPlan, owner⟩

-----------------------------------------------------------------------------------------
-- Termination

/-- Reading a plan or a slot may go out of a table, never into a loop. -/
theorem currentPlan_ne_diverges (cfg : Config) (cyclic : CyclicData)
    : currentPlan cfg cyclic ≠ .error .diverges := by
  intro stuck
  unfold currentPlan Config.plan at stuck
  split at stuck
  · split at stuck
    · cases stuck
    · split at stuck <;> cases stuck
  · cases stuck

theorem Config.slot_ne_diverges (cfg : Config) (entry : Nat)
    : cfg.slot entry ≠ .error .diverges := by
  intro stuck
  unfold Config.slot at stuck
  split at stuck <;> cases stuck

/-- The slot loop ends within one pass for each slot left. -/
theorem advanceSlot_ne_diverges {cfg : Config} {plan : CyclicPlan} {t : XmU32}
    {fuel slot : Nat} (enough : plan.noSlots - slot < fuel)
    : advanceSlot cfg plan t fuel slot ≠ .error .diverges := by
  induction fuel generalizing slot with
  | zero => omega
  | succ fuel ih =>
      intro stuck
      unfold advanceSlot at stuck
      split at stuck
      · cases stuck
      · rcases bind_eq_error.mp stuck with unread | ⟨entry, _, stuck⟩
        · exact cfg.slot_ne_diverges _ unread
        · split at stuck
          · exact ih (by omega) stuck
          · cases stuck

theorem chooseInSlot_ne_diverges (cfg : Config) (m : Machine) (plan : CyclicPlan) (t : XmU32)
    (slot : Nat)
    : chooseInSlot cfg m plan t slot ≠ .error .diverges := by
  intro stuck
  rcases bind_eq_error.mp stuck with unread | ⟨entry, _, stuck⟩
  · exact cfg.slot_ne_diverges _ unread
  · split at stuck
    · rcases bind_eq_error.mp stuck with failed | ⟨_, _, stuck⟩
      · unfold assert at failed
        split at failed <;> cases failed
      · split at stuck
        · cases stuck
        · split at stuck
          · cases stuck
          · split at stuck
            · rcases bind_eq_error.mp stuck with unread | ⟨following, _, stuck⟩
              · exact cfg.slot_ne_diverges _ unread
              · cases stuck
            · cases stuck
    · cases stuck

theorem chooseSlot_ne_diverges (cfg : Config) (m : Machine) (plan : CyclicPlan) (t : XmU32)
    (slot : Int)
    : chooseSlot cfg m plan t slot ≠ .error .diverges := by
  intro stuck
  rcases bind_eq_error.mp stuck with before | ⟨first, _, stuck⟩
  · unfold cursor at before
    split at before <;> cases before
  · rcases bind_eq_error.mp stuck with search | ⟨found, _, stuck⟩
    · exact advanceSlot_ne_diverges (by omega) search
    · split at stuck
      · cases stuck
      · rcases bind_eq_error.mp stuck with choice | ⟨decision, _, stuck⟩
        · exact chooseInSlot_ne_diverges cfg m plan t found choice
        · cases stuck

theorem refreshFrame_ne_diverges {cfg : Config} (accepted : cfg.Accepted) {cTime : Int}
    {cyclic : CyclicData} (notIdle : cyclic.current ≠ some .idle)
    : refreshFrame cfg cTime cyclic ≠ .error .diverges := by
  intro stuck
  unfold refreshFrame at stuck
  split at stuck
  · next due =>
      rcases bind_eq_error.mp stuck with switch | ⟨switched, switch, stuck⟩
      · unfold makePlanSwitch at switch
        split at switch
        · cases switch
        · rcases bind_eq_error.mp switch with unread | ⟨plan, _, switch⟩
          · unfold Config.plan at unread
            split at unread
            · cases unread
            · split at unread <;> cases unread
          · split at switch <;> cases switch
      · rcases bind_eq_error.mp stuck with unread | ⟨plan, read, stuck⟩
        · exact currentPlan_ne_diverges cfg switched unread
        · have inForce : switched.current ≠ some .idle := by
            rcases makePlanSwitch_cases switch with ⟨_, rfl⟩ | ⟨rfl, busy⟩
            · exact notIdle
            · exact fun idle => busy (Option.some.inj idle)
          have frame : 0 < plan.majorFrame.toNat :=
            accepted.majorFrame_pos plan (currentPlan_mem read inForce)
          rcases bind_eq_error.mp stuck with entering | ⟨entered, _, stuck⟩
          · unfold enterFrame at entering
            split at entering
            · obtain ⟨caught, returned⟩ : ∃ caught, catchUp plan.majorFrame cTime
                  (catchUpFuel cTime switched) switched = .ok caught :=
                catchUp_returns frame (Nat.lt_succ_self _)
              cases returned.symm.trans entering
            · cases entering
          · cases stuck
  · cases stuck

/-- The loops of the scheduler end on an accepted plan table, however many frames were
missed: a call from a reachable state returns or stops for another reason.
-/
theorem getReadyKThreadCyclic_terminates {cfg : Config} (accepted : cfg.Accepted)
    {start m : Machine} (booted : start.cyclic = initSchedLocal cfg) {past : List Event}
    (run : Reach (Next cfg) start past m)
    : getReadyKThreadCyclic cfg m ≠ .error .diverges := by
  intro stuck
  have coherent := reachable_coherent accepted booted run
  unfold getReadyKThreadCyclic at stuck
  split at stuck
  · cases stuck
  · rcases bind_eq_error.mp stuck with refresh | ⟨framed, _, stuck⟩
    · have notIdle : ({ m.cyclic with resched := false } : CyclicData).current ≠ some .idle :=
        coherent.not_idle
      exact refreshFrame_ne_diverges accepted notIdle refresh
    · rcases bind_eq_error.mp stuck with unread | ⟨plan, _, stuck⟩
      · exact currentPlan_ne_diverges cfg framed unread
      · rcases bind_eq_error.mp stuck with choice | ⟨⟨slot, decision⟩, _, stuck⟩
        · exact chooseSlot_ne_diverges cfg m plan _ _ choice
        · rcases bind_eq_error.mp stuck with notify | ⟨_, _, stuck⟩
          · unfold notifyGuest at notify
            split at notify
            · split at notify
              · cases notify
              · rcases bind_eq_error.mp notify with unread | ⟨entry, _, notify⟩
                · exact cfg.slot_ne_diverges _ unread
                · cases notify
            · cases notify
          · cases stuck

end XtratuM.Sched
