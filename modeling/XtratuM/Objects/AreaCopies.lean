import XtratuM.Kernel.AreaLookup
import XtratuM.Parser.Separation

/-! `CopyArea`: the object with which a partition copies memory between areas of partitions, and
what the lookup of these areas answers.
-/

namespace XtratuM.Objects

open XtratuM.Parser

def UNCHECKED_ID : XmU32 := 0xff

def XM_MEM_AREA_READONLY : XmU32 := 1 <<< 2

/-- What `CopyArea` reads of the configuration: the tables, the areas of each partition and whether
it is a system partition.
-/
structure CopyConfig where
  tables : MemoryTables
  partitions : List PartitionAreas
  system : XmU32 → Bool

/-- `struct cpyArea`. -/
structure CpyArea where
  dstId : XmU32
  dstAddr : XmU32
  srcId : XmU32
  srcAddr : XmU32
  size : XmU32

/-- The code that is returned; a copy returns its size. -/
inductive CopyAnswer
  | empty
  | refused (ret : XmRet)
  | copied
  deriving DecidableEq

/-- Memory as `ReadByPassMmuWord` and `WriteByPassMmuWord` address it. -/
abbrev Memory := XmU32 → BitVec 8

/-- `UnalignMemCpy`: one byte after the other, in the words that contain them. -/
def unalignMemCpy (memory : Memory) (dst src : XmU32) : Nat → Memory
  | 0 => memory
  | e + 1 =>
      let copied := unalignMemCpy memory dst src e
      fun addr => if addr = dst + BitVec.ofNat 32 e then copied (src + BitVec.ofNat 32 e)
        else copied addr

/-- The flags of the area in which a partition has a range, if the partition exists. -/
def lookupArea (cfg : CopyConfig) (id addr size : XmU32) : Except Stop (Option XmU32) :=
  match cfg.partitions[id.toNat]? with
  | none => .ok none
  | some areas => pmmFindArea cfg.tables areas addr size

/-- The check of the destination. -/
def refusesDst (cfg : CopyConfig) (args : CpyArea) : Except Stop Bool :=
  if args.dstId = UNCHECKED_ID then
    .ok false
  else
    (lookupArea cfg args.dstId args.dstAddr args.size).map fun
      | none => true
      | some flags => flags &&& XM_MEM_AREA_READONLY ≠ 0

/-- The check of the source. -/
def refusesSrc (cfg : CopyConfig) (args : CpyArea) : Except Stop Bool :=
  if args.srcId = UNCHECKED_ID then
    .ok false
  else
    (lookupArea cfg args.srcId args.srcAddr args.size).map (·.isNone)

/-- `CopyArea`, called by a vCPU of the partition `own`. -/
def copyArea (cfg : CopyConfig) (own : XmU32) (args : CpyArea) (memory : Memory)
    : Except Stop (CopyAnswer × Memory) :=
  if args.size.toInt ≤ 0 then
    .ok (.empty, memory)
  else if args.dstId ≠ own ∧ !cfg.system own then
    .ok (.refused .permError, memory)
  else if args.srcId ≠ own ∧ !cfg.system own then
    .ok (.refused .permError, memory)
  else do
    let dst ← refusesDst cfg args
    if dst then
      pure (.refused .invalidParam, memory)
    else do
      let src ← refusesSrc cfg args
      if src then
        pure (.refused .invalidParam, memory)
      else
        pure (.copied, unalignMemCpy memory args.dstAddr args.srcAddr args.size.toNat)

-----------------------------------------------------------------------------------------
-- Copies inside areas

/-- The areas of a partition, if it exists. -/
def CopyConfig.areas (cfg : CopyConfig) (id : XmU32) : List XmcMemoryArea :=
  match cfg.partitions[id.toNat]? with
  | none => []
  | some areas => areas.slice cfg.tables.xmcPhysMemAreaTab

/-- The ranges lie in areas of the partitions that are named, the destination in one that is not
read-only.
-/
structure CpyArea.Inside (cfg : CopyConfig) (args : CpyArea) : Prop where
  dst : args.dstId ≠ UNCHECKED_ID → ∃ memArea ∈ cfg.areas args.dstId,
    memArea.Holds args.dstAddr args.size ∧ memArea.flags &&& XM_MEM_AREA_READONLY = 0
  src : args.srcId ≠ UNCHECKED_ID → ∃ memArea ∈ cfg.areas args.srcId,
    memArea.Holds args.srcAddr args.size

/-- A copy stays inside the areas, and nothing but the bytes of its destination is written. -/
structure CpyArea.Stays (cfg : CopyConfig) (args : CpyArea) (memory : Memory)
    (result : CopyAnswer × Memory) : Prop where
  inside : result.1 = .copied → args.Inside cfg
  written : ∀ addr, result.2 addr ≠ memory addr →
    result.1 = .copied ∧ ∃ e < args.size.toNat, addr = args.dstAddr + BitVec.ofNat 32 e

/-- The call passes its checks: those of the size and of the permission to name the partitions, and
then the lookups.
-/
structure CpyArea.Passes (cfg : CopyConfig) (own : XmU32) (args : CpyArea) : Prop where
  size : 0 < args.size.toInt
  mayName : cfg.system own = true ∨ args.dstId = own ∧ args.srcId = own
  dst : refusesDst cfg args = .ok false
  src : refusesSrc cfg args = .ok false

/-- What holds of the lookups that the call makes: none for an unchecked address. -/
def CpyArea.Lookups (cfg : CopyConfig) (args : CpyArea)
    (holds : List XmcMemoryArea → XmU32 → XmU32 → Prop) : Prop :=
  (args.dstId ≠ UNCHECKED_ID → holds (cfg.areas args.dstId) args.dstAddr args.size)
    ∧ (args.srcId ≠ UNCHECKED_ID → holds (cfg.areas args.srcId) args.srcAddr args.size)

/-- Only the bytes of the destination are written. -/
theorem unalignMemCpy_other {memory : Memory} {dst src addr : XmU32} {size : Nat}
    (changed : unalignMemCpy memory dst src size addr ≠ memory addr)
    : ∃ e < size, addr = dst + BitVec.ofNat 32 e := by
  induction size with
  | zero => exact absurd rfl changed
  | succ e ih =>
      unfold unalignMemCpy at changed
      dsimp only at changed
      split at changed
      · next here => exact ⟨e, Nat.lt_succ_self e, here⟩
      · obtain ⟨e', below, here⟩ := ih changed
        exact ⟨e', Nat.lt_succ_of_lt below, here⟩

/-- A lookup that the ends decide finds an area that holds the range. -/
theorem lookupArea_held {cfg : CopyConfig} {id addr size flags : XmU32}
    (inside : ∀ partition ∈ cfg.partitions, partition.Inside cfg.tables)
    (decided : DecidedByEnds (cfg.areas id) addr size)
    (found : lookupArea cfg id addr size = .ok (some flags))
    : ∃ memArea ∈ cfg.areas id, memArea.Holds addr size ∧ memArea.flags = flags := by
  unfold CopyConfig.areas at decided ⊢
  unfold lookupArea at found
  split at found
  · cases found
  · next areas entry =>
      simp only [entry] at decided ⊢
      obtain ⟨answer, returned, lookup⟩ :=
        pmmFindArea_exact_iff (inside areas (List.mem_of_getElem? entry)) addr size
      cases returned.symm.trans found
      exact (lookup.mpr decided).held flags rfl

theorem refusesDst_false {cfg : CopyConfig} {args : CpyArea}
    (inside : ∀ partition ∈ cfg.partitions, partition.Inside cfg.tables)
    (decided : DecidedByEnds (cfg.areas args.dstId) args.dstAddr args.size)
    (passed : refusesDst cfg args = .ok false) (named : args.dstId ≠ UNCHECKED_ID)
    : ∃ memArea ∈ cfg.areas args.dstId,
      memArea.Holds args.dstAddr args.size ∧ memArea.flags &&& XM_MEM_AREA_READONLY = 0 := by
  rw [refusesDst, if_neg named] at passed
  obtain ⟨found, looked, passed⟩ := map_eq_ok.mp passed
  cases found with
  | none => cases passed
  | some flags =>
      obtain ⟨memArea, member, holds, rfl⟩ := lookupArea_held inside decided looked
      exact ⟨memArea, member, holds, by simpa using passed⟩

theorem refusesSrc_false {cfg : CopyConfig} {args : CpyArea}
    (inside : ∀ partition ∈ cfg.partitions, partition.Inside cfg.tables)
    (decided : DecidedByEnds (cfg.areas args.srcId) args.srcAddr args.size)
    (passed : refusesSrc cfg args = .ok false) (named : args.srcId ≠ UNCHECKED_ID)
    : ∃ memArea ∈ cfg.areas args.srcId, memArea.Holds args.srcAddr args.size := by
  rw [refusesSrc, if_neg named] at passed
  obtain ⟨found, looked, passed⟩ := map_eq_ok.mp passed
  cases found with
  | none => cases passed
  | some flags =>
      obtain ⟨memArea, member, holds, _⟩ := lookupArea_held inside decided looked
      exact ⟨memArea, member, holds⟩

/-- A call copies when it passes its checks, and leaves memory alone when it does not. -/
theorem copyArea_cases {cfg : CopyConfig} {own : XmU32} {args : CpyArea} {memory : Memory}
    {result : CopyAnswer × Memory} (returned : copyArea cfg own args memory = .ok result)
    : (args.Passes cfg own ∧ result.1 = .copied
        ∧ result.2 = unalignMemCpy memory args.dstAddr args.srcAddr args.size.toNat)
      ∨ (¬args.Passes cfg own ∧ result.1 ≠ .copied ∧ result.2 = memory) := by
  unfold copyArea at returned
  split at returned
  · next small =>
      cases returned
      exact Or.inr ⟨fun passes => absurd passes.size (by omega), by simp, rfl⟩
  · next size =>
      split at returned
      · next foreign =>
          cases returned
          refine Or.inr ⟨fun passes => ?_, by simp, rfl⟩
          rcases passes.mayName with system | own
          · simp [system] at foreign
          · exact foreign.1 own.1
      · next dstNamed =>
          split at returned
          · next foreign =>
              cases returned
              refine Or.inr ⟨fun passes => ?_, by simp, rfl⟩
              rcases passes.mayName with system | own
              · simp [system] at foreign
              · exact foreign.1 own.2
          · next srcNamed =>
              have mayName : cfg.system own = true ∨ args.dstId = own ∧ args.srcId = own := by
                cases system : cfg.system own with
                | true => exact Or.inl rfl
                | false => exact Or.inr (by simpa [system] using And.intro dstNamed srcNamed)
              obtain ⟨refusedDst, checkedDst, returned⟩ := bind_eq_ok.mp returned
              cases refusedDst with
              | true =>
                  cases returned
                  refine Or.inr ⟨fun passes => ?_, by simp, rfl⟩
                  cases checkedDst.symm.trans passes.dst
              | false =>
                  obtain ⟨refusedSrc, checkedSrc, returned⟩ := bind_eq_ok.mp returned
                  cases refusedSrc with
                  | true =>
                      cases returned
                      refine Or.inr ⟨fun passes => ?_, by simp, rfl⟩
                      cases checkedSrc.symm.trans passes.src
                  | false =>
                      cases returned
                      exact Or.inl ⟨⟨by omega, mayName, checkedDst, checkedSrc⟩, rfl, rfl⟩

/-- A copy writes its destination only: what is left to show is that its ranges are held. -/
theorem copyArea_stays {cfg : CopyConfig} {own : XmU32} {args : CpyArea} {memory : Memory}
    {result : CopyAnswer × Memory} (returned : copyArea cfg own args memory = .ok result)
    : args.Stays cfg memory result ↔ (args.Passes cfg own → args.Inside cfg) := by
  rcases copyArea_cases returned with ⟨passes, copied, copy⟩ | ⟨refused, answer, same⟩
  · constructor
    · exact fun stays _ => stays.inside copied
    · intro inside
      refine { inside := fun _ => inside passes, written := fun addr changed => ⟨copied, ?_⟩ }
      rw [copy] at changed
      exact unalignMemCpy_other changed
  · refine iff_of_true ?_ fun passes => absurd passes refused
    exact
      { inside := fun copied => absurd copied answer
        written := fun addr changed => absurd (congrFun same addr) changed }

/-- A copy whose lookups the ends decide stays inside the areas. -/
theorem inside_of_decided {cfg : CopyConfig} {own : XmU32} {args : CpyArea}
    (inside : ∀ partition ∈ cfg.partitions, partition.Inside cfg.tables)
    (passes : args.Passes cfg own) (decided : args.Lookups cfg DecidedByEnds)
    : args.Inside cfg where
  dst named := refusesDst_false inside (decided.1 named) passes.dst named
  src named := refusesSrc_false inside (decided.2 named) passes.src named

-----------------------------------------------------------------------------------------
-- Accepted configurations

/-- Two areas that both are shared. -/
def BothShared (memArea other : XmcMemoryArea) : Prop :=
  memArea.flags &&& XM_MEM_AREA_SHARED = XM_MEM_AREA_SHARED
    ∧ other.flags &&& XM_MEM_AREA_SHARED = XM_MEM_AREA_SHARED

instance (memArea other : XmcMemoryArea) : Decidable (BothShared memArea other) :=
  inferInstanceAs (Decidable (_ ∧ _))

/-- The areas are whole, and no two of them are shared. -/
structure Unshared (areas : List XmcMemoryArea) : Prop where
  whole : ∀ memArea ∈ areas, memArea.Whole
  apart : areas.Pairwise fun memArea other => ¬BothShared memArea other

theorem slice_sublist (areas : PartitionAreas) (tab : List XmcMemoryArea)
    : (areas.slice tab).Sublist tab :=
  (List.take_sublist _ _).trans (List.drop_sublist _ _)

/-- Sorted whole areas that the parser lets stand beside each other are apart, unless shared. -/
theorem areas_apart {rsvPhysPages : List RsvPhysPages} {doc : List MemElement}
    {cfg : MemoryLayout} (accepted : memoryLayout rsvPhysPages doc = .ok cfg)
    {areas : PartitionAreas} (member : areas ∈ cfg.partitions)
    (unshared : Unshared (areas.slice cfg.tables.xmcPhysMemAreaTab))
    : (areas.slice cfg.tables.xmcPhysMemAreaTab).Pairwise fun memArea later =>
      memArea.startAddr.toNat + memArea.size.toNat ≤ later.startAddr.toNat := by
  have facts := memoryLayout_accepts accepted
  have sorted := memoryLayout_sorted accepted areas member
  have stand := facts.areasApart.sublist (slice_sublist areas _)
  have aligned : ∀ memArea ∈ areas.slice cfg.tables.xmcPhysMemAreaTab,
      PageAligned memArea.startAddr ∧ PageAligned memArea.size := by
    intro memArea inSlice
    obtain ⟨other, listed, same⟩ :=
      exists_unplaced facts.areas ((slice_sublist areas _).subset inSlice)
    obtain ⟨startAddr, _, size, _⟩ := fields_of_unplaced same
    rw [startAddr, size]
    exact facts.alignedAreas other listed
  have whole := unshared.whole
  refine ((sorted.and stand).and unshared.apart).imp_of_mem ?_
  intro memArea later here there ⟨⟨below, apart⟩, notShared⟩
  have last := (whole memArea here).last_toNat
  have lastLater := (whole later there).last_toNat
  have positive := (whole later there).positive
  have positive' := (whole memArea here).positive
  obtain ⟨start, size⟩ := aligned memArea here
  obtain ⟨startLater, _⟩ := aligned later there
  have pageSize : PAGE_SIZE.toNat = 4096 := rfl
  simp only [PageAligned, pageSize] at start size startLater
  rcases apart with separate | shared
  · simp only [apart, Bool.or_eq_true, decide_eq_true_eq, BitVec.le_def] at separate
    omega
  · exact absurd shared notShared

/-- An accepted document as `CopyArea` reads it. -/
def copyConfig (cfg : MemoryLayout) (system : XmU32 → Bool) : CopyConfig where
  tables := cfg.tables
  partitions := cfg.partitions
  system := system

theorem size_positive {size : XmU32} (positive : 0 < size.toInt) : 0 < size.toNat := by
  rw [BitVec.toInt_eq_toNat_cond] at positive
  split at positive <;> omega

/-- Among unshared areas the ends decide, but for what wraps of the range. -/
theorem decidedByEnds_areas {rsvPhysPages : List RsvPhysPages} {doc : List MemElement}
    {cfg : MemoryLayout} (accepted : memoryLayout rsvPhysPages doc = .ok cfg)
    {system : XmU32 → Bool} {id : XmU32} (unshared : Unshared ((copyConfig cfg system).areas id))
    {pAddr size : XmU32} (positive : 0 < size.toNat)
    : DecidedByEnds ((copyConfig cfg system).areas id) pAddr size
      ↔ ¬WrapsInto ((copyConfig cfg system).areas id) pAddr size := by
  refine decidedByEnds_apart ?_ positive unshared.whole
  unfold CopyConfig.areas at unshared ⊢
  split
  · exact .nil
  · next areas entry =>
      simp only [entry] at unshared
      exact areas_apart accepted (List.mem_of_getElem? entry) unshared

/-- A call with unshared areas whose checks it passes is inside them unless a range wraps into
one.
-/
theorem inside_iff_unwrapped {rsvPhysPages : List RsvPhysPages} {doc : List MemElement}
    {cfg : MemoryLayout} (accepted : memoryLayout rsvPhysPages doc = .ok cfg)
    {system : XmU32 → Bool} {own : XmU32} {args : CpyArea}
    (unshared : args.Lookups (copyConfig cfg system) fun areas _ _ => Unshared areas)
    (passes : args.Passes (copyConfig cfg system) own)
    : args.Inside (copyConfig cfg system)
      ↔ args.Lookups (copyConfig cfg system) fun areas pAddr size =>
        ¬WrapsInto areas pAddr size := by
  constructor
  · intro inside
    constructor
    · rintro named ⟨wraps, _⟩
      obtain ⟨memArea, member, holds, _⟩ := inside.dst named
      exact absurd (holds.noWrap ((unshared.1 named).whole memArea member)) (by omega)
    · rintro named ⟨wraps, _⟩
      obtain ⟨memArea, member, holds⟩ := inside.src named
      exact absurd (holds.noWrap ((unshared.2 named).whole memArea member)) (by omega)
  · intro unwrapped
    have positive := size_positive passes.size
    refine inside_of_decided (memoryLayout_accepts accepted).inside passes ⟨?_, ?_⟩
    · intro named
      exact (decidedByEnds_areas accepted (unshared.1 named) positive).mpr (unwrapped.1 named)
    · intro named
      exact (decidedByEnds_areas accepted (unshared.2 named) positive).mpr (unwrapped.2 named)

/-- A partition with three areas in a row, of which the second is read-only and the third shared,
and one with a shared area over the third.
-/
def areasInRow : List MemElement :=
  [.region lowMemory, .region highMemory,
    .partition
      [⟨0x1000000, 0x1000000, 0x100000, 0, 0⟩,
        ⟨0x1100000, 0x1100000, 0x100000, XM_MEM_AREA_READONLY, 0⟩,
        ⟨0x1400000, 0x1400000, 0x100000, XM_MEM_AREA_SHARED, 0⟩],
    .partition [⟨0x1400000, 0x1400000, 0x100000, XM_MEM_AREA_SHARED, 0⟩]]

/-- A partition with an area and, inside it, two others, all of them shared. -/
def nestedAreas : List MemElement :=
  [.region lowMemory, .region highMemory,
    .partition
      [⟨0x2000000, 0x2000000, 0x400000, XM_MEM_AREA_SHARED, 0⟩,
        ⟨0x2100000, 0x3000000, 0x100000, XM_MEM_AREA_SHARED, 0⟩,
        ⟨0x2200000, 0x4000000, 0x100000, XM_MEM_AREA_SHARED, 0⟩]]

end XtratuM.Objects
