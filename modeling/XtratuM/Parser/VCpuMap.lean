import XtratuM.Library.Tables
import XtratuM.Parser.Document

/-! The map from vCPUs to processors: how the parser builds it from the scheduling plans, how it
lays it out for the kernel, and how the kernel looks a vCPU up.
-/

namespace XtratuM.Parser

/-- `xmcSchedCyclicSlot` and `fpSched`: the vCPU an entry schedules. -/
structure Slot where
  partitionId : Nat
  vCpuId : Nat
  deriving DecidableEq, Repr

/-- A `Processor` element: the slots of each of its plans, or its fixed-priority list. -/
inductive Processor
  | cyclicPlanTable (plans : List (List Slot))
  | fixedPriority (entries : List Slot)
  deriving DecidableEq, Repr

/-- The processors, and `noVCpus` of each partition; the identifiers of both are consecutive. -/
structure Description where
  processors : List Processor
  partitions : List Nat
  deriving DecidableEq, Repr

/-- `CONFIG_NO_CPUS`, `CONFIG_MAX_NO_VCPUS` and `CONFIG_MAX_NO_KTHREADS`. -/
structure Limits where
  noCpus : Nat
  maxNoVCpus : Nat
  maxNoKThreads : Nat

/-- What the schema asks of these elements. -/
structure SchemaValid (doc : Description) : Prop where
  processors : 1 ≤ doc.processors.length ∧ doc.processors.length ≤ 256
  noVCpus : ∀ noVCpus ∈ doc.partitions, 0 < noVCpus

def Processor.slots : Processor → List Slot
  | .cyclicPlanTable plans => plans.flatten
  | .fixedPriority _ => []

def Processor.entries : Processor → List Slot
  | .cyclicPlanTable _ => []
  | .fixedPriority entries => entries

/-- `xmcSchedCyclicSlotTab`, each slot with the processor of its plan. -/
def Description.cyclicSlots (doc : Description) : List (Slot × Nat) :=
  doc.processors.zipIdx.flatMap fun (processor, cpu) =>
    processor.slots.map fun slot => (slot, cpu)

/-- `fpSchedTab`, with `cpuId`. -/
def Description.fpSchedTab (doc : Description) : List (Slot × Nat) :=
  doc.processors.zipIdx.flatMap fun (processor, cpu) =>
    processor.entries.map fun slot => (slot, cpu)

/-- `vCpuTab[partitionId][vCpuId].cpu`. -/
abbrev VCpuTab := Nat → Nat → Int

-----------------------------------------------------------------------------------------
-- Checks

/-- The test on `noCpus` made at each `Processor`. -/
def checkNoCpus (limits : Limits) (doc : Description) : Except ParseError Unit :=
  if limits.noCpus < doc.processors.length then .error .tooManyCpus else .ok ()

/-- The test on `noVCpus` made at each `Partition`. -/
def noVCpusError (limits : Limits) (noVCpus : Nat) : Option ParseError :=
  if limits.maxNoVCpus < noVCpus then some (.tooManyVCpus noVCpus) else none

/-- `CheckMaxNoKThreads`. -/
def checkMaxNoKThreads (limits : Limits) (doc : Description) : Except ParseError Unit :=
  let noKThreads := doc.partitions.length + doc.partitions.sum
  if limits.maxNoKThreads < noKThreads then .error (.tooManyKThreads noKThreads) else .ok ()

/-- The test of `CheckCyclicPlanPartitionId`. -/
def partitionIdError (doc : Description) (slot : Slot × Nat) : Option ParseError :=
  if doc.partitions.length ≤ slot.1.partitionId then
    some (.incorrectPartitionId slot.1.partitionId)
  else
    none

/-- The test of `CheckCyclicPlanVCpuId` and `CheckFPVCpuId`. -/
def vCpuIdError (doc : Description) (slot : Slot × Nat) : Option ParseError :=
  match doc.partitions[slot.1.partitionId]? with
  | none => some .badAccess
  | some noVCpus => if noVCpus ≤ slot.1.vCpuId then some (.incorrectVCpuId slot.1.vCpuId) else none

def VCpuTab.set (tab : VCpuTab) (slot : Slot) (cpu : Nat) : VCpuTab :=
  fun partitionId vCpuId =>
    if partitionId = slot.partitionId ∧ vCpuId = slot.vCpuId then
      (cpu : Int)
    else
      tab partitionId vCpuId

/-- A round of the first loop of `CheckPartNotAllocToMoreThanACpu`. -/
def assignSlot (tab : VCpuTab) (slot : Slot × Nat) : Except ParseError VCpuTab :=
  let cpu := tab slot.1.partitionId slot.1.vCpuId
  if cpu = -1 then
    .ok (tab.set slot.1 slot.2)
  else if cpu ≠ slot.2 then
    .error (.assignedTwice slot.1.partitionId slot.1.vCpuId cpu slot.2)
  else
    .ok tab

/-- A round of its second loop, over the fixed-priority entries. -/
def assignEntry (tab : VCpuTab) (slot : Slot × Nat) : Except ParseError VCpuTab :=
  let cpu := tab slot.1.partitionId slot.1.vCpuId
  if cpu = -1 then
    .ok (tab.set slot.1 slot.2)
  else
    .error (.assignedTwice slot.1.partitionId slot.1.vCpuId cpu slot.2)

/-- `CheckPartNotAllocToMoreThanACpu`. -/
def checkPartNotAllocToMoreThanACpu (doc : Description) : Except ParseError VCpuTab := do
  let tab ← doc.cyclicSlots.foldlM assignSlot fun _ _ => -1
  doc.fpSchedTab.foldlM assignEntry tab

/-- The checks an accepted document passes: those made at each `Processor` and `Partition`, and
those of `SystemDescription_NH2`.
-/
def systemDescription (limits : Limits) (doc : Description) : Except ParseError VCpuTab := do
  checkNoCpus limits doc
  checkAll (noVCpusError limits) doc.partitions
  checkMaxNoKThreads limits doc
  checkAll (partitionIdError doc) doc.cyclicSlots
  checkAll (vCpuIdError doc) doc.cyclicSlots
  checkAll (vCpuIdError doc) doc.fpSchedTab
  checkPartNotAllocToMoreThanACpu doc

-----------------------------------------------------------------------------------------
-- The table and its use

/-- The row `GenerateVCpuTab` writes for a partition. -/
def vCpuRow (noCpus noVCpus : Nat) (cpus : Nat → Int) : List Int :=
  (List.range (min noVCpus noCpus)).map cpus ++ List.replicate (noCpus - min noVCpus noCpus) (-1)

/-- `GenerateVCpuTab`: the array, one row after the other. -/
def generateVCpuTab (doc : Description) (tab : VCpuTab) : List XmU32 :=
  (doc.partitions.zipIdx.map fun (noVCpus, partitionId) =>
    vCpuRow doc.processors.length noVCpus (tab partitionId)).flatten.map (BitVec.ofInt 32)

/-- `xmcVCpuTab[(cfg->id * xmcTab.hpv.noCpus) + i].cpu`, or none outside the array. -/
def vCpuLookup (xmcVCpuTab : List XmU32) (noCpus id i : Nat) : Option XmU32 :=
  xmcVCpuTab[id * noCpus + i]?

/-- The plans, or the fixed-priority list, of the processor schedule the vCPU. -/
def Description.Schedules (doc : Description) (partitionId vCpuId cpu : Nat) : Prop :=
  ({ partitionId, vCpuId }, cpu) ∈ doc.cyclicSlots ++ doc.fpSchedTab

/-- `vCpuId < noVCpus` of the partition. -/
def Description.HasVCpu (doc : Description) (partitionId vCpuId : Nat) : Prop :=
  ∃ noVCpus, doc.partitions[partitionId]? = some noVCpus ∧ vCpuId < noVCpus

-----------------------------------------------------------------------------------------
-- Assignment

/-- The map holds, for every vCPU, the processor of the entries seen, and -1 where there is
none.
-/
def Assigns (seen : List (Slot × Nat)) (tab : VCpuTab) : Prop :=
  ∀ partitionId vCpuId,
    (∀ cpu : Nat, tab partitionId vCpuId = cpu ↔ ({ partitionId, vCpuId }, cpu) ∈ seen)
      ∧ (tab partitionId vCpuId = -1 ∨ ∃ cpu : Nat, tab partitionId vCpuId = cpu)

theorem assigns_nothing : Assigns [] fun _ _ => -1 := by
  intro partitionId vCpuId
  refine ⟨?_, Or.inl rfl⟩
  intro cpu
  have unassigned : (-1 : Int) ≠ cpu := by omega
  exact iff_of_false unassigned List.not_mem_nil

/-- An entry for a vCPU without a processor gives it one. -/
theorem Assigns.set {seen : List (Slot × Nat)} {tab : VCpuTab} (assigns : Assigns seen tab)
    {slot : Slot × Nat} (unassigned : tab slot.1.partitionId slot.1.vCpuId = -1)
    : Assigns (seen ++ [slot]) (tab.set slot.1 slot.2) := by
  intro partitionId vCpuId
  obtain ⟨known, total⟩ := assigns partitionId vCpuId
  simp only [VCpuTab.set, List.mem_append, List.mem_singleton]
  by_cases same : partitionId = slot.1.partitionId ∧ vCpuId = slot.1.vCpuId
  · obtain ⟨rfl, rfl⟩ := same
    simp only [and_self, if_true]
    refine ⟨?_, Or.inr ⟨slot.2, rfl⟩⟩
    intro cpu
    have unseen : ({ partitionId := slot.1.partitionId, vCpuId := slot.1.vCpuId }, cpu) ∉ seen := by
      intro member
      have assigned := (known cpu).mpr member
      omega
    constructor
    · intro assigned
      rw [← Int.ofNat.inj assigned]
      exact Or.inr rfl
    · intro named
      rw [← named.resolve_left unseen]
  · simp only [if_neg same]
    refine ⟨?_, total⟩
    intro cpu
    rw [known cpu]
    refine ⟨Or.inl, fun named => named.resolve_right ?_⟩
    intro new
    rw [← new] at same
    exact same ⟨rfl, rfl⟩

/-- An entry for a vCPU with that processor changes nothing. -/
theorem Assigns.again {seen : List (Slot × Nat)} {tab : VCpuTab} (assigns : Assigns seen tab)
    {slot : Slot × Nat} (assigned : tab slot.1.partitionId slot.1.vCpuId = slot.2)
    : Assigns (seen ++ [slot]) tab := by
  have member : slot ∈ seen := ((assigns _ _).1 slot.2).mp assigned
  intro partitionId vCpuId
  obtain ⟨known, total⟩ := assigns partitionId vCpuId
  refine ⟨?_, total⟩
  intro cpu
  rw [known cpu, List.mem_append, List.mem_singleton]
  refine ⟨Or.inl, fun named => named.elim id ?_⟩
  intro same
  exact same ▸ member

theorem assignSlot_assigns (seen : List (Slot × Nat)) (tab : VCpuTab) (slot : Slot × Nat)
    (tab' : VCpuTab) (assigns : Assigns seen tab) (returned : assignSlot tab slot = .ok tab')
    : Assigns (seen ++ [slot]) tab' := by
  simp only [assignSlot] at returned
  split at returned
  · next unassigned =>
      cases returned
      exact assigns.set unassigned
  · split at returned
    · cases returned
    · next same =>
        cases returned
        exact assigns.again (not_not.mp same)

theorem assignEntry_assigns (seen : List (Slot × Nat)) (tab : VCpuTab) (slot : Slot × Nat)
    (tab' : VCpuTab) (assigns : Assigns seen tab) (returned : assignEntry tab slot = .ok tab')
    : Assigns (seen ++ [slot]) tab' := by
  simp only [assignEntry] at returned
  split at returned
  · next unassigned =>
      cases returned
      exact assigns.set unassigned
  · cases returned

/-- `CheckPartNotAllocToMoreThanACpu` gives every vCPU the processor that schedules it. -/
theorem checkPartNotAllocToMoreThanACpu_assigns {doc : Description} {tab : VCpuTab}
    (returned : checkPartNotAllocToMoreThanACpu doc = .ok tab)
    : Assigns (doc.cyclicSlots ++ doc.fpSchedTab) tab := by
  obtain ⟨cyclic, slots, entries⟩ := bind_eq_ok.mp returned
  have assigned := foldlM_preserves (P := Assigns) assignSlot_assigns assigns_nothing slots
  exact foldlM_preserves (P := Assigns) assignEntry_assigns assigned entries

/-- The processors of entries are those of the document. -/
theorem schedules_lt {doc : Description} {partitionId vCpuId cpu : Nat}
    (schedules : doc.Schedules partitionId vCpuId cpu)
    : cpu < doc.processors.length := by
  simp only [Description.Schedules, Description.cyclicSlots, Description.fpSchedTab,
    List.mem_append, List.mem_flatMap, List.mem_map, Prod.mk.injEq] at schedules
  rcases schedules with ⟨⟨_, index⟩, member, _, _, _, rfl⟩ | ⟨⟨_, index⟩, member, _, _, _, rfl⟩
  · exact (List.mem_zipIdx' member).1
  · exact (List.mem_zipIdx' member).1

/-- The map of an accepted document holds the processors that schedule each vCPU. -/
theorem systemDescription_assigns {limits : Limits} {doc : Description} {tab : VCpuTab}
    (accepted : systemDescription limits doc = .ok tab)
    : Assigns (doc.cyclicSlots ++ doc.fpSchedTab) tab := by
  unfold systemDescription at accepted
  obtain ⟨_, _, accepted⟩ := bind_eq_ok.mp accepted
  obtain ⟨_, _, accepted⟩ := bind_eq_ok.mp accepted
  obtain ⟨_, _, accepted⟩ := bind_eq_ok.mp accepted
  obtain ⟨_, _, accepted⟩ := bind_eq_ok.mp accepted
  obtain ⟨_, _, accepted⟩ := bind_eq_ok.mp accepted
  obtain ⟨_, _, accepted⟩ := bind_eq_ok.mp accepted
  exact checkPartNotAllocToMoreThanACpu_assigns accepted

-----------------------------------------------------------------------------------------
-- Lookup

theorem length_vCpuRow (noCpus noVCpus : Nat) (cpus : Nat → Int)
    : (vCpuRow noCpus noVCpus cpus).length = noCpus := by
  simp only [vCpuRow, List.length_append, List.length_map, List.length_range,
    List.length_replicate]
  omega

theorem getElem?_vCpuRow {noCpus : Nat} (noVCpus : Nat) (cpus : Nat → Int) {i : Nat}
    (inside : i < noCpus)
    : (vCpuRow noCpus noVCpus cpus)[i]? = some (if i < noVCpus then cpus i else -1) := by
  unfold vCpuRow
  by_cases mapped : i < noVCpus
  · rw [List.getElem?_append_left (by simpa using ⟨mapped, inside⟩), if_pos mapped]
    simp [mapped, inside]
  · rw [List.getElem?_append_right (by simp; omega), if_neg mapped,
      List.getElem?_replicate_of_lt (by simp; omega)]

/-- The entry the kernel reads is the one of another vCPU when `i` exceeds a row. -/
theorem vCpuLookup_generateVCpuTab (doc : Description) (tab : VCpuTab)
    (positive : 0 < doc.processors.length) (id i : Nat)
    : vCpuLookup (generateVCpuTab doc tab) doc.processors.length id i
      = (doc.partitions[id + i / doc.processors.length]?).map fun noVCpus =>
          BitVec.ofInt 32
            (if i % doc.processors.length < noVCpus then
              tab (id + i / doc.processors.length) (i % doc.processors.length)
            else
              -1) := by
  have uniform : ∀ row ∈ doc.partitions.zipIdx.map (fun (noVCpus, partitionId) =>
      vCpuRow doc.processors.length noVCpus (tab partitionId)),
      row.length = doc.processors.length := by
    intro row member
    obtain ⟨_, _, rfl⟩ := List.mem_map.mp member
    exact length_vCpuRow _ _ _
  have row : (id * doc.processors.length + i) / doc.processors.length
      = id + i / doc.processors.length := by
    rw [Nat.add_comm, Nat.add_mul_div_right _ _ positive, Nat.add_comm]
  have column : (id * doc.processors.length + i) % doc.processors.length
      = i % doc.processors.length := by
    rw [Nat.add_comm, Nat.add_mul_mod_self_right]
  rw [vCpuLookup, generateVCpuTab, List.getElem?_map, Tables.getElem?_flatten positive uniform,
    row, column, List.getElem?_map, List.getElem?_zipIdx]
  cases doc.partitions[id + i / doc.processors.length]? with
  | none => rfl
  | some noVCpus => simp [getElem?_vCpuRow noVCpus _ (Nat.mod_lt i positive)]

/-- An entry of the map is read back as it was written. -/
theorem ofInt_eq_ofNat {cpu : Int} {other : Nat} (known : cpu = -1 ∨ ∃ n : Nat, n < 256 ∧ cpu = n)
    (small : other < 256)
    : BitVec.ofInt 32 cpu = BitVec.ofNat 32 other ↔ cpu = other := by
  have range : -1 ≤ cpu ∧ cpu < 256 := by
    rcases known with rfl | ⟨n, bound, rfl⟩ <;> omega
  rw [← BitVec.toInt_inj, BitVec.toInt_ofInt_eq_self (by decide) (by omega) (by omega),
    BitVec.toInt_ofNat', Int.bmod_eq_of_le (by omega) (by omega)]

-----------------------------------------------------------------------------------------
-- Agreement

/-- The kernel finds every vCPU on the processor the parser assigned it to. -/
def KernelAgrees (doc : Description) (tab : VCpuTab) : Prop :=
  ∀ partitionId vCpuId, doc.HasVCpu partitionId vCpuId →
    ∃ cpu < doc.processors.length, tab partitionId vCpuId = cpu
      ∧ vCpuLookup (generateVCpuTab doc tab) doc.processors.length partitionId vCpuId
        = some (BitVec.ofNat 32 cpu)

/-- Every vCPU is scheduled, and so is, on the same processor, the vCPU whose entry stands where
the kernel looks for it: its own, but for the vCPUs that do not fit in a row.
-/
def Placed (doc : Description) : Prop :=
  ∀ partitionId vCpuId, doc.HasVCpu partitionId vCpuId →
    ∃ cpu, doc.Schedules partitionId vCpuId cpu
      ∧ doc.HasVCpu (partitionId + vCpuId / doc.processors.length)
          (vCpuId % doc.processors.length)
      ∧ doc.Schedules (partitionId + vCpuId / doc.processors.length)
          (vCpuId % doc.processors.length) cpu

/-- The kernel reads the processor of a vCPU just when the entry it looks at is that of a vCPU
the processor schedules.
-/
theorem vCpuLookup_eq {doc : Description} {tab : VCpuTab} (valid : SchemaValid doc)
    (assigns : Assigns (doc.cyclicSlots ++ doc.fpSchedTab) tab) (id i : Nat) {cpu : Nat}
    (inside : cpu < doc.processors.length)
    : vCpuLookup (generateVCpuTab doc tab) doc.processors.length id i
        = some (BitVec.ofNat 32 cpu)
      ↔ doc.HasVCpu (id + i / doc.processors.length) (i % doc.processors.length)
        ∧ doc.Schedules (id + i / doc.processors.length) (i % doc.processors.length) cpu := by
  have processors := valid.processors
  have bounded : ∀ partitionId vCpuId, tab partitionId vCpuId = -1
      ∨ ∃ n : Nat, n < 256 ∧ tab partitionId vCpuId = n := by
    intro partitionId vCpuId
    obtain ⟨known, total⟩ := assigns partitionId vCpuId
    refine total.imp_right ?_
    intro ⟨n, assigned⟩
    have below := schedules_lt ((known n).mp assigned)
    exact ⟨n, by omega, assigned⟩
  rw [vCpuLookup_generateVCpuTab doc tab processors.1]
  constructor
  · intro read
    obtain ⟨noVCpus, found, written⟩ := Option.map_eq_some_iff.mp read
    by_cases mapped : i % doc.processors.length < noVCpus
    · rw [if_pos mapped, ofInt_eq_ofNat (bounded _ _) (by omega)] at written
      exact ⟨⟨noVCpus, found, mapped⟩, ((assigns _ _).1 cpu).mp written⟩
    · rw [if_neg mapped, ofInt_eq_ofNat (Or.inl rfl) (by omega)] at written
      omega
  · intro ⟨⟨noVCpus, found, mapped⟩, schedules⟩
    have assigned := ((assigns _ _).1 cpu).mpr schedules
    rw [found, Option.map_some, if_pos mapped, assigned, BitVec.ofInt_natCast]

/-- The kernel finds the vCPUs of an accepted document on the processors that schedule them just
when these are placed.
-/
theorem vCpuMap_agrees {limits : Limits} {doc : Description} {tab : VCpuTab}
    (valid : SchemaValid doc) (accepted : systemDescription limits doc = .ok tab)
    : KernelAgrees doc tab ↔ Placed doc := by
  have assigns := systemDescription_assigns accepted
  constructor
  · intro agrees partitionId vCpuId has
    obtain ⟨cpu, inside, assigned, read⟩ := agrees partitionId vCpuId has
    have schedules := ((assigns partitionId vCpuId).1 cpu).mp assigned
    exact ⟨cpu, schedules, (vCpuLookup_eq valid assigns _ _ inside).mp read⟩
  · intro placed partitionId vCpuId has
    obtain ⟨cpu, schedules, other⟩ := placed partitionId vCpuId has
    have inside := schedules_lt schedules
    have assigned := ((assigns partitionId vCpuId).1 cpu).mpr schedules
    exact ⟨cpu, inside, assigned, (vCpuLookup_eq valid assigns _ _ inside).mpr other⟩

/-- The limits of the default configuration. -/
def defaultLimits : Limits := { noCpus := 1, maxNoVCpus := 1, maxNoKThreads := 255 }

/-- Two partitions, of which the only plan schedules both. -/
def bothScheduled : Description where
  processors := [.cyclicPlanTable [[⟨0, 0⟩, ⟨1, 0⟩]]]
  partitions := [1, 1]

/-- The same, with a plan that leaves the second out. -/
def oneScheduled : Description where
  processors := [.cyclicPlanTable [[⟨0, 0⟩]]]
  partitions := [1, 1]

theorem vCpuMap_agrees_bothScheduled
    : ∃ tab, systemDescription defaultLimits bothScheduled = .ok tab
      ∧ (KernelAgrees bothScheduled tab ↔ Placed bothScheduled) := by
  have valid : SchemaValid bothScheduled := ⟨by decide, by decide⟩
  have accepted : systemDescription defaultLimits bothScheduled = .ok _ := rfl
  exact ⟨_, accepted, vCpuMap_agrees valid accepted⟩

/-- Nothing makes the parser refuse a vCPU that no plan mentions: the kernel reads -1. -/
theorem unscheduled_vCpu_accepted
    : SchemaValid oneScheduled
      ∧ ∃ tab, systemDescription defaultLimits oneScheduled = .ok tab
        ∧ oneScheduled.HasVCpu 1 0
        ∧ vCpuLookup (generateVCpuTab oneScheduled tab) 1 1 0 = some 0xFFFFFFFF
        ∧ ¬ KernelAgrees oneScheduled tab := by
  have read : ∀ tab, systemDescription defaultLimits oneScheduled = .ok tab →
      tab 1 0 = -1 ∧ vCpuLookup (generateVCpuTab oneScheduled tab) 1 1 0 = some 0xFFFFFFFF := by
    intro tab accepted
    cases accepted
    decide
  have valid : SchemaValid oneScheduled := ⟨by decide, by decide⟩
  have has : oneScheduled.HasVCpu 1 0 := ⟨1, rfl, by decide⟩
  refine ⟨valid, _, rfl, has, (read _ rfl).2, ?_⟩
  intro agrees
  obtain ⟨cpu, _, assigned, _⟩ := agrees 1 0 has
  have unassigned := (read _ rfl).1
  omega

end XtratuM.Parser
