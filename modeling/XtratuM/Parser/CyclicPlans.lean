import XtratuM.Parser.Document
import XtratuM.Sched.Maintenance

/-! Cyclic plans in the parser: the slots as they are read, and the check that a plan passes once
its last slot was read.
-/

namespace XtratuM.Parser

open Sched

/-- A `Slot` element, with the values that `ToU32` and `ToTime` make of its attributes. -/
structure SlotElement where
  id : XmU32
  vCpuId : XmU32
  start : XmU32
  duration : XmU32
  partitionId : XmU32
  deriving DecidableEq, Repr

/-- A `Plan` element. -/
structure PlanElement where
  id : XmU32
  majorFrame : XmU32
  slots : List SlotElement

/-- `xmcSchedCyclicSlotTab` and `xmcSchedCyclicPlanTab`. -/
structure CyclicTables where
  slotTab : List CyclicSlot
  planTab : List CyclicPlan

/-- The entry of a slot: `DurationSlot_AH` leaves the duration in `eExec`, and `Slot_NH1` adds the
start.
-/
def SlotElement.entry (slot : SlotElement) : CyclicSlot where
  id := slot.id
  partitionId := slot.partitionId
  vCpuId := slot.vCpuId
  sExec := slot.start
  eExec := slot.duration + slot.start

/-- The `Slot` elements of a plan, with the number that `IdSlot_AH` expects of the first. -/
def parseSlots : Nat → List SlotElement → Except ParseError (List CyclicSlot)
  | _, [] => .ok []
  | expectedSlotNr, slot :: rest =>
      if slot.id.toInt ≠ expectedSlotNr then
        .error (.slotId slot.id.toInt)
      else do
        let entries ← parseSlots (expectedSlotNr + 1) rest
        pure (slot.entry :: entries)

/-- The loop of `CheckSchedCyclicPlan` from slot `e` on, with the one before. -/
def checkSlotsFrom (majorFrame : XmU32) : Nat → XmU32 × XmU32 → List CyclicSlot
    → Except ParseError Unit
  | _, _, [] => .ok ()
  | e, before, slot :: rest =>
      if before.2 > slot.sExec then
        .error (.slotsOverlap e slot.sExec slot.eExec (e - 1) before.1 before.2)
      else if slot.eExec > majorFrame then
        .error (.majorFrameOverlap slot.sExec slot.eExec majorFrame)
      else
        checkSlotsFrom majorFrame (e + 1) (slot.sExec, slot.eExec) rest

/-- A `Plan` element, the `cProcCyclicPlan`th of its processor. -/
def parsePlan (cProcCyclicPlan : Nat) (plan : PlanElement) (tables : CyclicTables)
    : Except ParseError CyclicTables :=
  if plan.id.toInt ≠ cProcCyclicPlan - 1 then
    .error (.cyclicPlanId plan.id.toInt)
  else do
    let entries ← parseSlots 0 plan.slots
    checkSlotsFrom plan.majorFrame 0 (0, 0) entries
    pure
      { slotTab := tables.slotTab ++ entries
        planTab := tables.planTab ++
          [{ id := plan.id
             majorFrame := plan.majorFrame
             noSlots := entries.length
             slotsOffset := tables.slotTab.length }] }

-----------------------------------------------------------------------------------------
-- What a plan that was read contains

theorem parseSlots_entries {expectedSlotNr : Nat} {slots : List SlotElement}
    {entries : List CyclicSlot} (parsed : parseSlots expectedSlotNr slots = .ok entries)
    : entries = slots.map SlotElement.entry := by
  induction slots generalizing expectedSlotNr entries with
  | nil =>
      cases parsed
      rfl
  | cons slot rest ih =>
      unfold parseSlots at parsed
      split at parsed
      · cases parsed
      · obtain ⟨later, parsedLater, parsed⟩ := bind_eq_ok.mp parsed
        cases parsed
        rw [ih parsedLater, List.map_cons]

/-- The check reports an error exactly when the kernel's model of it does. -/
theorem checkSlotsFrom_ok {majorFrame : XmU32} {e : Nat} {before : XmU32 × XmU32}
    {slots : List CyclicSlot}
    : checkSlotsFrom majorFrame e before slots = .ok ()
      ↔ checkSlots majorFrame before.2 slots = true := by
  induction slots generalizing e before with
  | nil => simp [checkSlotsFrom, checkSlots]
  | cons slot rest ih =>
      unfold checkSlotsFrom checkSlots
      split
      · simp
      · split
        · simp
        · exact ih

theorem parsePlan_ok {cProcCyclicPlan : Nat} {plan : PlanElement} {tables tables' : CyclicTables}
    (parsed : parsePlan cProcCyclicPlan plan tables = .ok tables')
    : checkSlots plan.majorFrame 0 (plan.slots.map SlotElement.entry) = true
      ∧ tables'.slotTab = tables.slotTab ++ plan.slots.map SlotElement.entry := by
  unfold parsePlan at parsed
  split at parsed
  · cases parsed
  · obtain ⟨entries, parsedSlots, parsed⟩ := bind_eq_ok.mp parsed
    obtain ⟨_, passed, parsed⟩ := bind_eq_ok.mp parsed
    cases parsed
    cases parseSlots_entries parsedSlots
    exact ⟨checkSlotsFrom_ok.mp passed, rfl⟩

-----------------------------------------------------------------------------------------
-- The slots of an accepted plan

/-- The integer that `Slot_NH1` means to compute. -/
def SlotElement.finish (slot : SlotElement) : Nat :=
  slot.start.toNat + slot.duration.toNat

/-- The slots are in order, pairwise disjoint and inside the major frame. -/
structure PlanElement.WellFormed (plan : PlanElement) : Prop where
  inside : ∀ slot ∈ plan.slots, slot.finish ≤ plan.majorFrame.toNat
  ordered : (plan.slots.map SlotElement.entry).IsChain fun slot next => slot.eExec ≤ next.sExec
  disjoint : plan.slots.Pairwise fun slot later => slot.finish ≤ later.start.toNat

theorem SlotElement.entry_eExec {slot : SlotElement} (fits : slot.finish < 2 ^ 32)
    : slot.entry.eExec.toNat = slot.finish := by
  unfold SlotElement.finish at fits ⊢
  simp only [SlotElement.entry, BitVec.toNat_add]
  omega

theorem SlotElement.entry_begins {slot : SlotElement} (fits : slot.finish < 2 ^ 32)
    : slot.entry.sExec ≤ slot.entry.eExec := by
  have ends : slot.entry.eExec.toNat = slot.finish := entry_eExec fits
  rw [BitVec.le_def, ends]
  simp [SlotElement.finish, SlotElement.entry]

/-- An accepted plan is well formed exactly when no slot ends beyond 32 bits: `Slot_NH1` adds start
and duration without the test that `ToTime` makes of each of them.
-/
theorem parsePlan_wellFormed {cProcCyclicPlan : Nat} {plan : PlanElement}
    {tables tables' : CyclicTables}
    (parsed : parsePlan cProcCyclicPlan plan tables = .ok tables')
    : plan.WellFormed ↔ ∀ slot ∈ plan.slots, slot.finish < 2 ^ 32 := by
  obtain ⟨passed, _⟩ := parsePlan_ok parsed
  apply Iff.intro
  · intro wellFormed slot member
    exact (wellFormed.inside slot member).trans_lt plan.majorFrame.isLt
  · intro fits
    have begins : ∀ entry ∈ plan.slots.map SlotElement.entry, entry.sExec ≤ entry.eExec := by
      intro entry member
      obtain ⟨slot, inPlan, rfl⟩ := List.mem_map.mp member
      exact SlotElement.entry_begins (fits slot inPlan)
    obtain ⟨_, ordered⟩ := checkSlots_ordered passed begins
    refine ⟨?_, ordered.isChain, ?_⟩
    · intro slot member
      have within : slot.entry.eExec ≤ plan.majorFrame :=
        checkSlots_eExec_le passed slot.entry (List.mem_map_of_mem member)
      rwa [BitVec.le_def, SlotElement.entry_eExec (fits slot member)] at within
    · apply (List.pairwise_map.mp ordered).imp_of_mem
      intro slot later member _ before
      rwa [BitVec.le_def, SlotElement.entry_eExec (fits slot member)] at before

/-- Two slots that meet inside the major frame. -/
def meetingSlots : PlanElement where
  id := 0
  majorFrame := 100
  slots :=
    [{ id := 0, vCpuId := 0, start := 0, duration := 40, partitionId := 0 },
     { id := 1, vCpuId := 0, start := 40, duration := 60, partitionId := 1 }]

theorem parsePlan_wellFormed_meetingSlots : meetingSlots.WellFormed := by
  have accepted : ∃ tables, parsePlan 1 meetingSlots ⟨[], []⟩ = .ok tables := ⟨_, rfl⟩
  obtain ⟨tables, parsed⟩ := accepted
  exact (parsePlan_wellFormed parsed).mpr (by decide)

/-- One slot whose end, as `Slot_NH1` computes it, is 10. -/
def wrappingSlot : PlanElement where
  id := 0
  majorFrame := 10
  slots := [{ id := 0, vCpuId := 0, start := 4294967290, duration := 16, partitionId := 0 }]

theorem wrappingSlot_accepted
    : (parsePlan 1 wrappingSlot ⟨[], []⟩).toOption.isSome = true ∧ ¬wrappingSlot.WellFormed := by
  refine ⟨rfl, fun wellFormed => ?_⟩
  have ends : 4294967306 ≤ 10 := by
    simpa [wrappingSlot, SlotElement.finish] using wellFormed.inside
  omega

end XtratuM.Parser
