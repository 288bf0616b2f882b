import XtratuM.Kernel.AreaLookup
import XtratuM.Parser.Separation

/-! The searches for a page in the areas of a partition and in the regions of the configuration,
compared with a scan of the tables.
-/

namespace XtratuM.Mmu

open XtratuM.Parser

/-- The loop of `PmmFindAnonymousPage`: the region that contains the address, with its index. -/
def findMemRegion (tables : MemoryTables) (pAddr : XmU32)
    : Nat → Int → Int → Except Stop (Option (Nat × XmcMemoryRegion))
  | 0, _, _ => .error .diverges
  | fuel + 1, l, r =>
      if l ≤ r then
        let c := (l + r) / 2
        match tables.xmcMemRegTab[c.toNat]? with
        | none => .error .badAccess
        | some memRegion =>
            if pAddr < memRegion.startAddr then
              findMemRegion tables pAddr fuel l (c - 1)
            else if memRegion.last < pAddr then
              findMemRegion tables pAddr fuel (c + 1) r
            else
              .ok (some (c.toNat, memRegion))
      else
        .ok none

/-- `PmmFindAnonymousPage`: an entry of `physPageTab`, by its region and its page. -/
def pmmFindAnonymousPage (tables : MemoryTables) (pAddr : XmU32)
    : Except Stop (Option (Nat × XmU32)) := do
  let pAddr := pAddr &&& PAGE_MASK
  let found ←
    findMemRegion tables pAddr (tables.xmcMemRegTab.length + 1) 0
      (tables.xmcMemRegTab.length - 1)
  match found with
  | none => pure none
  | some (c, memRegion) => do
      assert (memRegion.startAddr ≤ pAddr ∧ pAddr + PAGE_SIZE - 1 ≤ memRegion.last)
      if memRegion.flags &&& XMC_REG_FLAG_PGTAB = 0 then
        pure none
      else
        pure (some (c, memRegion.pageOf pAddr))

-----------------------------------------------------------------------------------------
-- The scan

/-- The range has the page of the address, as integers. -/
def HasPage (startAddr size pAddr : XmU32) : Prop :=
  startAddr.toNat ≤ pAddr.toNat / PAGE_SIZE.toNat * PAGE_SIZE.toNat
    ∧ pAddr.toNat / PAGE_SIZE.toNat * PAGE_SIZE.toNat + PAGE_SIZE.toNat
      ≤ startAddr.toNat + size.toNat

instance (startAddr size pAddr : XmU32) : Decidable (HasPage startAddr size pAddr) :=
  inferInstanceAs (Decidable (_ ∧ _))

/-- The first area to have the page. -/
def linearScan (areas : List XmcMemoryArea) (pAddr : XmU32) : Option XmcMemoryArea :=
  areas.find? fun memArea => decide (HasPage memArea.startAddr memArea.size pAddr)

/-- Ranges of whole pages, by start address: not empty, inside the address space and without
overlap.
-/
structure PageRanges {α : Type} (startAddr size : α → XmU32) (elements : List α) : Prop where
  aligned : ∀ a ∈ elements, PageAligned (startAddr a) ∧ PageAligned (size a)
  proper : ∀ a ∈ elements, Proper (startAddr a) (size a)
  sorted : elements.Pairwise fun a later => startAddr a ≤ startAddr later
  disjoint : elements.Pairwise fun a later =>
    Disjoint (addresses (startAddr a) (size a)) (addresses (startAddr later) (size later))

theorem address_page (pAddr : XmU32)
    : (pAddr &&& PAGE_MASK).toNat = pAddr.toNat / PAGE_SIZE.toNat * PAGE_SIZE.toNat :=
  and_pageMask pAddr

/-- The comparisons of the searches decide whether a range has the page. -/
theorem hasPage_iff {startAddr size : XmU32} (start : PageAligned startAddr)
    (pages : PageAligned size) (proper : Proper startAddr size) (pAddr : XmU32)
    : HasPage startAddr size pAddr
      ↔ startAddr ≤ pAddr &&& PAGE_MASK ∧ pAddr &&& PAGE_MASK ≤ startAddr + size - 1 := by
  have one : (1 : XmU32).toNat = 1 := rfl
  have pageSize : PAGE_SIZE.toNat = 4096 := rfl
  have masked := address_page pAddr
  unfold Proper at proper
  unfold PageAligned at start pages
  simp only [HasPage, BitVec.le_def, BitVec.toNat_sub, BitVec.toNat_add, masked, one, pageSize]
    at start pages ⊢
  omega

section Ranges

variable {α : Type} {startAddr size : α → XmU32} {elements : List α}

theorem PageRanges.apart (ranges : PageRanges startAddr size elements)
    : elements.Pairwise fun a later =>
      (startAddr a).toNat + (size a).toNat ≤ (startAddr later).toNat := by
  refine (ranges.sorted.and ranges.disjoint).imp_of_mem ?_
  intro a later member laterMember ⟨ordered, disjoint⟩
  have nonempty := (ranges.proper a member).1
  have more := (ranges.proper later laterMember).1
  rw [addresses, addresses, Set.Ico_disjoint_Ico] at disjoint
  rw [BitVec.le_def] at ordered
  omega

/-- Halving such ranges finds the one that has the page, as a scan does. -/
theorem PageRanges.search (ranges : PageRanges startAddr size elements) (pAddr : XmU32)
    : (Bisection.visited (fun a => decide (pAddr &&& PAGE_MASK < startAddr a)) elements).find?
        (fun a => !decide (startAddr a + size a - 1 < pAddr &&& PAGE_MASK))
      = elements.find? fun a => decide (HasPage (startAddr a) (size a) pAddr) := by
  have one : (1 : XmU32).toNat = 1 := rfl
  rw [Bisection.find?_visited]
  · rw [← List.head?_filter, ← List.head?_filter]
    congr 1
    refine List.filter_congr ?_
    intro a member
    have aligned := ranges.aligned a member
    rw [← decide_not, ← decide_not, ← Bool.decide_and, decide_eq_decide,
      hasPage_iff aligned.1 aligned.2 (ranges.proper a member), BitVec.not_lt, BitVec.not_lt]
  · refine ranges.sorted.imp ?_
    intro a later ordered beyond
    rw [decide_eq_true_eq, BitVec.lt_def] at beyond ⊢
    exact Nat.lt_of_lt_of_le beyond (BitVec.le_def.mp ordered)
  · refine ranges.apart.imp_of_mem ?_
    intro a later member _ order reaches
    obtain ⟨nonempty, fits⟩ := ranges.proper a member
    simp only [Bool.not_eq_true', decide_eq_false_iff_not, decide_eq_true_eq, BitVec.lt_def,
      BitVec.toNat_sub, BitVec.toNat_add, one] at reaches ⊢
    omega

/-- No page is in two of the ranges: a scan that stops at the first finds the one there is. -/
theorem PageRanges.scan_eq (ranges : PageRanges startAddr size elements) {i : Nat} {a : α}
    {pAddr : XmU32} (entry : elements[i]? = some a)
    (has : HasPage (startAddr a) (size a) pAddr)
    : elements.find? (fun a => decide (HasPage (startAddr a) (size a) pAddr)) = some a := by
  obtain ⟨inside, here⟩ := List.getElem?_eq_some_iff.mp entry
  refine List.find?_eq_some_iff_getElem.mpr ⟨decide_eq_true has, i, inside, here, ?_⟩
  intro j earlier
  have order := List.pairwise_iff_getElem.mp ranges.apart j i (by omega) inside earlier
  rw [here] at order
  have low := has.1
  have positive : 0 < PAGE_SIZE.toNat := by decide
  rw [Bool.not_eq_true', decide_eq_false_iff_not]
  intro earlierHas
  have high := earlierHas.2
  omega

theorem PageRanges.zipIdx (ranges : PageRanges startAddr size elements)
    : PageRanges (fun entry : α × Nat => startAddr entry.1) (fun entry => size entry.1)
        elements.zipIdx := by
  have fields : ∀ entry ∈ elements.zipIdx, entry.1 ∈ elements := by
    intro entry member
    rw [← List.zipIdx_map_fst 0 elements]
    exact List.mem_map_of_mem member
  have pairs : ∀ {R : α → α → Prop}, elements.Pairwise R →
      elements.zipIdx.Pairwise fun entry later => R entry.1 later.1 := by
    intro R pairwise
    rw [← List.zipIdx_map_fst 0 elements] at pairwise
    exact List.pairwise_map.mp pairwise
  constructor
  · exact fun entry member => ranges.aligned _ (fields entry member)
  · exact fun entry member => ranges.proper _ (fields entry member)
  · exact pairs ranges.sorted
  · exact pairs ranges.disjoint

end Ranges

-----------------------------------------------------------------------------------------
-- The loops

theorem findMemArea_loop (tables : MemoryTables) (cfg : PartitionAreas) (pAddr : XmU32)
    (fuel : Nat) (l r : Int)
    : findMemArea tables cfg pAddr fuel l r
      = Bisection.loop
          (fun c => tables.xmcPhysMemAreaTab[(c + cfg.physicalMemoryAreasOffset).toNat]?)
          (fun memArea => decide (pAddr < memArea.startAddr))
          (fun memArea => decide (memArea.last < pAddr))
          (.error .diverges) (.error .badAccess) (.ok none) (fun memArea => .ok (some memArea))
          fuel l r := by
  induction fuel generalizing l r with
  | zero => rfl
  | succ fuel ih =>
      unfold findMemArea Bisection.loop
      simp only [ih, decide_eq_true_eq]
      by_cases more : l ≤ r
      · simp only [if_pos more]
        cases tables.xmcPhysMemAreaTab[((l + r) / 2 + cfg.physicalMemoryAreasOffset).toNat]? with
        | none => rfl
        | some memArea => rfl
      · simp only [if_neg more]

theorem findMemRegion_loop (tables : MemoryTables) (pAddr : XmU32) (fuel : Nat) (l r : Int)
    : findMemRegion tables pAddr fuel l r
      = Bisection.loop (fun c => tables.xmcMemRegTab.zipIdx[c.toNat]?)
          (fun entry => decide (pAddr < entry.1.startAddr))
          (fun entry => decide (entry.1.last < pAddr))
          (.error .diverges) (.error .badAccess) (.ok none)
          (fun entry => .ok (some (entry.2, entry.1))) fuel l r := by
  induction fuel generalizing l r with
  | zero => rfl
  | succ fuel ih =>
      unfold findMemRegion Bisection.loop
      simp only [ih, decide_eq_true_eq, List.getElem?_zipIdx, Nat.zero_add]
      by_cases more : l ≤ r
      · simp only [if_pos more]
        cases tables.xmcMemRegTab[((l + r) / 2).toNat]? with
        | none => rfl
        | some memRegion => rfl
      · simp only [if_neg more]

/-- The loop over sorted areas ends as the scan does. -/
theorem findMemArea_eq {tables : MemoryTables} {cfg : PartitionAreas} (inside : cfg.Inside tables)
    (areas : PageRanges XmcMemoryArea.startAddr XmcMemoryArea.size
      (cfg.slice tables.xmcPhysMemAreaTab)) (pAddr : XmU32)
    : findMemArea tables cfg (pAddr &&& PAGE_MASK) (cfg.noPhysicalMemoryAreas + 1) 0
        (cfg.noPhysicalMemoryAreas - 1)
      = .ok (linearScan (cfg.slice tables.xmcPhysMemAreaTab) pAddr) := by
  have looped := Bisection.loop_eq (l := 0)
    (fun c => tables.xmcPhysMemAreaTab[(c + cfg.physicalMemoryAreasOffset).toNat]?)
    (fun memArea => decide (pAddr &&& PAGE_MASK < memArea.startAddr))
    (fun memArea => decide (memArea.last < pAddr &&& PAGE_MASK))
    (.error .diverges) (.error .badAccess) (.ok none)
    (fun memArea => (.ok (some memArea) : Except Stop (Option XmcMemoryArea)))
    (cfg.slice tables.xmcPhysMemAreaTab) (fun i memArea entry => slice_entry entry)
    (Nat.lt_succ_self _)
  have searched := areas.search pAddr
  rw [slice_length inside, Nat.cast_zero, Int.zero_add, ← findMemArea_loop] at looped
  rw [looped, linearScan, ← searched]
  unfold XmcMemoryArea.last
  cases (Bisection.visited _ _).find? _ with
  | none => rfl
  | some memArea => rfl

/-- The loop over sorted regions ends as a scan does. -/
theorem findMemRegion_eq {tables : MemoryTables}
    (regions : PageRanges XmcMemoryRegion.startAddr XmcMemoryRegion.size tables.xmcMemRegTab)
    (pAddr : XmU32)
    : findMemRegion tables (pAddr &&& PAGE_MASK) (tables.xmcMemRegTab.length + 1) 0
        (tables.xmcMemRegTab.length - 1)
      = .ok ((tables.xmcMemRegTab.zipIdx.find? fun entry =>
          decide (HasPage entry.1.startAddr entry.1.size pAddr)).map fun entry =>
            (entry.2, entry.1)) := by
  have looped := Bisection.loop_eq (l := 0)
    (fun c => tables.xmcMemRegTab.zipIdx[c.toNat]?)
    (fun entry => decide (pAddr &&& PAGE_MASK < entry.1.startAddr))
    (fun entry => decide (entry.1.last < pAddr &&& PAGE_MASK))
    (.error .diverges) (.error .badAccess) (.ok none)
    (fun entry => (.ok (some (entry.2, entry.1)) : Except Stop (Option (Nat × XmcMemoryRegion))))
    tables.xmcMemRegTab.zipIdx (by intro i entry member; simpa using member) (Nat.lt_succ_self _)
  have searched := regions.zipIdx.search pAddr
  rw [List.length_zipIdx, Nat.cast_zero, Int.zero_add, ← findMemRegion_loop] at looped
  rw [looped, ← searched]
  unfold XmcMemoryRegion.last
  cases (Bisection.visited _ _).find? _ with
  | none => rfl
  | some entry => rfl

-----------------------------------------------------------------------------------------
-- The searches

/-- The `ASSERT` of the three searches. -/
theorem page_inside {startAddr size pAddr : XmU32} (start : PageAligned startAddr)
    (pages : PageAligned size) (proper : Proper startAddr size)
    (has : HasPage startAddr size pAddr)
    : startAddr ≤ pAddr &&& PAGE_MASK
      ∧ (pAddr &&& PAGE_MASK) + PAGE_SIZE - 1 ≤ startAddr + size - 1 := by
  obtain ⟨low, _⟩ := (hasPage_iff start pages proper pAddr).mp has
  refine ⟨low, ?_⟩
  have one : (1 : XmU32).toNat = 1 := rfl
  have masked := address_page pAddr
  have ends := has.2
  obtain ⟨nonempty, fits⟩ := proper
  have pageSize : PAGE_SIZE.toNat = 4096 := rfl
  simp only [BitVec.le_def, BitVec.toNat_sub, BitVec.toNat_add, masked, one, pageSize]
    at ends ⊢
  omega

section Searches

variable {tables : MemoryTables} {cfg : PartitionAreas} (inside : cfg.Inside tables)
  (areas : PageRanges XmcMemoryArea.startAddr XmcMemoryArea.size
    (cfg.slice tables.xmcPhysMemAreaTab))

theorem linearScan_some {areas : List XmcMemoryArea} {pAddr : XmU32} {memArea : XmcMemoryArea}
    (found : linearScan areas pAddr = some memArea)
    : memArea ∈ areas ∧ HasPage memArea.startAddr memArea.size pAddr :=
  ⟨List.mem_of_find?_eq_some found, of_decide_eq_true (List.find?_some found :)⟩

include inside areas

theorem pmmFindAddr_eq (pAddr : XmU32)
    : pmmFindAddr tables cfg pAddr
      = .ok ((linearScan (cfg.slice tables.xmcPhysMemAreaTab) pAddr).map (·.flags)) := by
  unfold pmmFindAddr
  simp only [findMemArea_eq inside areas, ok_bind]
  cases found : linearScan (cfg.slice tables.xmcPhysMemAreaTab) pAddr with
  | none => rfl
  | some memArea =>
      obtain ⟨member, has⟩ := linearScan_some found
      obtain ⟨start, pages⟩ := areas.aligned memArea member
      have holds : assert (memArea.startAddr ≤ pAddr &&& PAGE_MASK
          ∧ (pAddr &&& PAGE_MASK) + PAGE_SIZE - 1 ≤ memArea.last) = .ok () :=
        assert_of (page_inside start pages (areas.proper memArea member) has)
      simp only [holds, ok_bind]
      rfl

/-- `PmmFindPage` on the area that the scan finds. -/
theorem pmmFindPage_eq {pAddr : XmU32} {memArea : XmcMemoryArea} {region : XmcMemoryRegion}
    (found : linearScan (cfg.slice tables.xmcPhysMemAreaTab) pAddr = some memArea)
    (entry : tables.xmcMemRegTab[memArea.memoryRegionOffset]? = some region)
    : pmmFindPage tables cfg pAddr
      = .ok (if region.flags &&& XMC_REG_FLAG_PGTAB = 0 then none
        else some
          { region := memArea.memoryRegionOffset
            page := region.pageOf (pAddr &&& PAGE_MASK)
            flags := memArea.flags }) := by
  obtain ⟨member, has⟩ := linearScan_some found
  obtain ⟨start, pages⟩ := areas.aligned memArea member
  have holds : assert (memArea.startAddr ≤ pAddr &&& PAGE_MASK
      ∧ (pAddr &&& PAGE_MASK) + PAGE_SIZE - 1 ≤ memArea.last) = .ok () :=
    assert_of (page_inside start pages (areas.proper memArea member) has)
  unfold pmmFindPage
  simp only [findMemArea_eq inside areas, found, holds, ok_bind, entry]
  split <;> rfl

theorem pmmFindPage_none {pAddr : XmU32}
    (missing : linearScan (cfg.slice tables.xmcPhysMemAreaTab) pAddr = none)
    : pmmFindPage tables cfg pAddr = .ok none := by
  unfold pmmFindPage
  simp only [findMemArea_eq inside areas, missing, ok_bind]
  rfl

end Searches

/-- `PmmFindAnonymousPage` on the region that a scan finds. -/
theorem pmmFindAnonymousPage_eq {tables : MemoryTables}
    (regions : PageRanges XmcMemoryRegion.startAddr XmcMemoryRegion.size tables.xmcMemRegTab)
    (pAddr : XmU32)
    : pmmFindAnonymousPage tables pAddr
      = .ok ((tables.xmcMemRegTab.zipIdx.find? fun entry =>
          decide (HasPage entry.1.startAddr entry.1.size pAddr)).bind fun entry =>
            if entry.1.flags &&& XMC_REG_FLAG_PGTAB = 0 then none
            else some (entry.2, entry.1.pageOf (pAddr &&& PAGE_MASK))) := by
  unfold pmmFindAnonymousPage
  simp only [findMemRegion_eq regions, ok_bind]
  cases found : tables.xmcMemRegTab.zipIdx.find? fun entry =>
      decide (HasPage entry.1.startAddr entry.1.size pAddr) with
  | none => rfl
  | some entry =>
      have member := List.mem_of_find?_eq_some found
      have has : HasPage entry.1.startAddr entry.1.size pAddr :=
        of_decide_eq_true (List.find?_some found :)
      obtain ⟨start, pages⟩ := regions.zipIdx.aligned entry member
      have holds : assert (entry.1.startAddr ≤ pAddr &&& PAGE_MASK
          ∧ (pAddr &&& PAGE_MASK) + PAGE_SIZE - 1 ≤ entry.1.last) = .ok () :=
        assert_of (page_inside start pages (regions.zipIdx.proper entry member) has)
      simp only [Option.map_some, holds, ok_bind, Option.bind_some]
      split <;> rfl

/-- `PmmFindAddr` and `PmmFindPage` find what the scan finds, a page only in a region that has
page tables.
-/
structure ExactSearches (tables : MemoryTables) (cfg : PartitionAreas) (pAddr : XmU32) : Prop where
  address : pmmFindAddr tables cfg pAddr
    = .ok ((linearScan (cfg.slice tables.xmcPhysMemAreaTab) pAddr).map (·.flags))
  page : ∃ found, pmmFindPage tables cfg pAddr = .ok found
    ∧ (found.isSome = true ↔ ∃ memArea region,
      linearScan (cfg.slice tables.xmcPhysMemAreaTab) pAddr = some memArea
        ∧ tables.xmcMemRegTab[memArea.memoryRegionOffset]? = some region
        ∧ region.flags &&& XMC_REG_FLAG_PGTAB ≠ 0)

/-- `PmmFindAnonymousPage` ends, and a page that `PmmFindPage` finds is the one that it finds and a
page of its region.
-/
structure SamePage (tables : MemoryTables) (cfg : PartitionAreas) (pAddr : XmU32) : Prop where
  returns : ∃ found, pmmFindAnonymousPage tables pAddr = .ok found
  same : ∀ ref, pmmFindPage tables cfg pAddr = .ok (some ref) →
    pmmFindAnonymousPage tables pAddr = .ok (some (ref.region, ref.page))
  bounded : ∀ ref, pmmFindPage tables cfg pAddr = .ok (some ref) →
    ∃ region, tables.xmcMemRegTab[ref.region]? = some region
      ∧ ref.page.toNat < region.size.toNat / PAGE_SIZE.toNat

theorem exactSearches {tables : MemoryTables} {cfg : PartitionAreas} (inside : cfg.Inside tables)
    (areas : PageRanges XmcMemoryArea.startAddr XmcMemoryArea.size
      (cfg.slice tables.xmcPhysMemAreaTab))
    (named : ∀ memArea ∈ cfg.slice tables.xmcPhysMemAreaTab,
      memArea.memoryRegionOffset < tables.xmcMemRegTab.length) (pAddr : XmU32)
    : ExactSearches tables cfg pAddr := by
  refine { address := pmmFindAddr_eq inside areas pAddr, page := ?_ }
  cases found : linearScan (cfg.slice tables.xmcPhysMemAreaTab) pAddr with
  | none => exact ⟨none, pmmFindPage_none inside areas found, by simp⟩
  | some memArea =>
      have entry := List.getElem?_eq_getElem (named memArea (linearScan_some found).1)
      refine ⟨_, pmmFindPage_eq inside areas found entry, ?_⟩
      constructor
      · intro nonempty
        refine ⟨memArea, _, rfl, entry, ?_⟩
        intro noTables
        rw [if_pos noTables] at nonempty
        cases nonempty
      · rintro ⟨other, region, same, there, flagged⟩
        cases same
        rw [entry] at there
        cases there
        rw [if_neg flagged]
        rfl

/-- The pages at the two ends of a range. -/
theorem hasPage_ends {startAddr size : XmU32} (start : PageAligned startAddr)
    (pages : PageAligned size) (proper : Proper startAddr size)
    : HasPage startAddr size startAddr ∧ HasPage startAddr size (startAddr + size - 1) := by
  have one : (1 : XmU32).toNat = 1 := rfl
  have pageSize : PAGE_SIZE.toNat = 4096 := rfl
  unfold Proper at proper
  unfold PageAligned at start pages
  simp only [HasPage, BitVec.toNat_sub, BitVec.toNat_add, one, pageSize] at start pages ⊢
  omega

/-- A range with the pages at the ends of an area contains the area. -/
theorem contains_of_ends {region : XmcMemoryRegion} {memArea : XmcMemoryArea}
    (start : PageAligned memArea.startAddr) (proper : Proper memArea.startAddr memArea.size)
    (first : HasPage region.startAddr region.size memArea.startAddr)
    (last : HasPage region.startAddr region.size memArea.last)
    : Contains region memArea := by
  have one : (1 : XmU32).toNat = 1 := rfl
  have pageSize : PAGE_SIZE.toNat = 4096 := rfl
  unfold Proper at proper
  unfold PageAligned at start
  simp only [HasPage, XmcMemoryArea.last, BitVec.toNat_sub, BitVec.toNat_add, one, pageSize]
    at start first last
  unfold Contains
  omega

theorem HasPage.contained {region : XmcMemoryRegion} {memArea : XmcMemoryArea} {pAddr : XmU32}
    (contains : Contains region memArea) (has : HasPage memArea.startAddr memArea.size pAddr)
    : HasPage region.startAddr region.size pAddr :=
  ⟨contains.1.trans has.1, has.2.trans contains.2⟩

/-- The page of an address in a region that has it is one of the region's pages. -/
theorem HasPage.denotes {region : XmcMemoryRegion} {pAddr : XmU32}
    (start : PageAligned region.startAddr) (pages : PageAligned region.size)
    (has : HasPage region.startAddr region.size pAddr)
    : region.Denotes (pAddr &&& PAGE_MASK) := by
  have pageSize : PAGE_SIZE.toNat = 4096 := rfl
  have masked := address_page pAddr
  have distance : ((pAddr &&& PAGE_MASK) - region.startAddr).toNat
      = (pAddr &&& PAGE_MASK).toNat - region.startAddr.toNat := by
    refine BitVec.toNat_sub_of_le ?_
    rw [BitVec.le_def, masked]
    exact has.1
  unfold PageAligned at start pages
  unfold HasPage at has
  rw [pageSize] at start pages has masked
  unfold XmcMemoryRegion.Denotes
  simp only [XmcMemoryRegion.pageOf, PAGE_SHIFT, BitVec.toNat_ushiftRight,
    Nat.shiftRight_eq_div_pow, distance, masked, pageSize]
  omega

section Agreement

variable {tables : MemoryTables} {cfg : PartitionAreas} (inside : cfg.Inside tables)
  (areas : PageRanges XmcMemoryArea.startAddr XmcMemoryArea.size
    (cfg.slice tables.xmcPhysMemAreaTab))
  (regions : PageRanges XmcMemoryRegion.startAddr XmcMemoryRegion.size tables.xmcMemRegTab)
  {memArea : XmcMemoryArea} {region : XmcMemoryRegion}
  (entry : tables.xmcMemRegTab[memArea.memoryRegionOffset]? = some region)
  (flagged : region.flags &&& XMC_REG_FLAG_PGTAB ≠ 0)

include regions entry

/-- In a region that contains the area, both searches find the same page. -/
theorem pmmFindAnonymousPage_contained (contains : Contains region memArea) {pAddr : XmU32}
    (has : HasPage memArea.startAddr memArea.size pAddr)
    : pmmFindAnonymousPage tables pAddr
      = .ok (if region.flags &&& XMC_REG_FLAG_PGTAB = 0 then none
        else some (memArea.memoryRegionOffset, region.pageOf (pAddr &&& PAGE_MASK))) := by
  have indexed : tables.xmcMemRegTab.zipIdx[memArea.memoryRegionOffset]?
      = some (region, memArea.memoryRegionOffset) := by
    simp [entry]
  rw [pmmFindAnonymousPage_eq regions, regions.zipIdx.scan_eq indexed (has.contained contains)]
  rfl

include inside areas flagged

/-- Where both searches find the same page, the region has it. -/
theorem hasPage_of_same (member : memArea ∈ cfg.slice tables.xmcPhysMemAreaTab) {pAddr : XmU32}
    (has : HasPage memArea.startAddr memArea.size pAddr) (agree : SamePage tables cfg pAddr)
    : HasPage region.startAddr region.size pAddr := by
  obtain ⟨i, position⟩ := List.getElem?_of_mem member
  have found := pmmFindPage_eq inside areas (areas.scan_eq position has) entry
  rw [if_neg flagged] at found
  have same := Except.ok.inj ((pmmFindAnonymousPage_eq regions pAddr).symm.trans
    (agree.same _ found))
  obtain ⟨other, scanned, page⟩ := Option.bind_eq_some_iff.mp same
  split at page
  · cases page
  · have index : other.2 = memArea.memoryRegionOffset :=
      (Prod.mk.inj (Option.some.inj page)).1
    have there := List.mem_zipIdx_iff_getElem?.mp (List.mem_of_find?_eq_some scanned)
    rw [index, entry] at there
    cases there
    exact of_decide_eq_true (List.find?_some scanned :)

end Agreement

/-- The searches of a partition agree with a scan of its areas, and over sorted regions
`PmmFindPage` agrees with `PmmFindAnonymousPage` when the areas with page tables are inside the
regions they name, and only then.
-/
theorem searches_agree {tables : MemoryTables} {cfg : PartitionAreas}
    (inside : cfg.Inside tables)
    (areas : PageRanges XmcMemoryArea.startAddr XmcMemoryArea.size
      (cfg.slice tables.xmcPhysMemAreaTab))
    (named : ∀ memArea ∈ cfg.slice tables.xmcPhysMemAreaTab,
      memArea.memoryRegionOffset < tables.xmcMemRegTab.length)
    (regions : PageRanges XmcMemoryRegion.startAddr XmcMemoryRegion.size tables.xmcMemRegTab)
    : (∀ pAddr, ExactSearches tables cfg pAddr)
      ∧ ((∀ pAddr, SamePage tables cfg pAddr)
        ↔ ∀ memArea ∈ cfg.slice tables.xmcPhysMemAreaTab, ∀ region,
          tables.xmcMemRegTab[memArea.memoryRegionOffset]? = some region →
          region.flags &&& XMC_REG_FLAG_PGTAB ≠ 0 → Contains region memArea) := by
  refine ⟨exactSearches inside areas named, ?_⟩
  constructor
  · intro agree memArea member region entry flagged
    obtain ⟨start, pages⟩ := areas.aligned memArea member
    have proper := areas.proper memArea member
    obtain ⟨first, last⟩ := hasPage_ends start pages proper
    apply contains_of_ends start proper
    · exact hasPage_of_same inside areas regions entry flagged member first (agree _)
    · exact hasPage_of_same inside areas regions entry flagged member last (agree _)
  · intro located pAddr
    have both : ∀ ref, pmmFindPage tables cfg pAddr = .ok (some ref) →
        pmmFindAnonymousPage tables pAddr = .ok (some (ref.region, ref.page))
          ∧ ∃ region, tables.xmcMemRegTab[ref.region]? = some region
            ∧ ref.page.toNat < region.size.toNat / PAGE_SIZE.toNat := by
      intro ref returned
      cases found : linearScan (cfg.slice tables.xmcPhysMemAreaTab) pAddr with
      | none =>
          rw [pmmFindPage_none inside areas found] at returned
          cases returned
      | some memArea =>
          obtain ⟨member, has⟩ := linearScan_some found
          have entry := List.getElem?_eq_getElem (named memArea member)
          rw [pmmFindPage_eq inside areas found entry] at returned
          split at returned
          · cases returned
          · next flagged =>
              cases returned
              have contains := located memArea member _ entry flagged
              obtain ⟨start, pages⟩ := regions.aligned _ (List.getElem_mem _)
              have anonymous := pmmFindAnonymousPage_contained regions entry contains has
              rw [if_neg flagged] at anonymous
              exact ⟨anonymous, _, entry, ((has.contained contains).denotes start pages).1⟩
    refine { returns := ⟨_, pmmFindAnonymousPage_eq regions pAddr⟩, same := ?_, bounded := ?_ }
    · exact fun ref returned => (both ref returned).1
    · exact fun ref returned => (both ref returned).2

/-- The regions of an accepted document, when none is empty or goes over the end of the address
space.
-/
theorem regions_ranges {rsvPhysPages : List RsvPhysPages} {doc : List MemElement}
    {cfg : MemoryLayout} (accepted : memoryLayout rsvPhysPages doc = .ok cfg)
    (proper : ∀ region ∈ regionsOf doc, Proper region.startAddr region.size)
    : PageRanges XmcMemoryRegion.startAddr XmcMemoryRegion.size cfg.tables.xmcMemRegTab := by
  have facts := memoryLayout_accepts accepted
  obtain ⟨_, _, _, _, _, ascending⟩ := memoryLayout_read accepted
  have listed : ∀ region ∈ cfg.tables.xmcMemRegTab, region ∈ regionsOf doc := by
    intro region member
    exact facts.regions.mem_iff.mp member
  have pages : ∀ region ∈ cfg.tables.xmcMemRegTab, Pages region.startAddr region.size := by
    intro region member
    obtain ⟨start, size⟩ := facts.alignedRegions region (listed region member)
    exact ⟨start, size, (proper region (listed region member)).2⟩
  constructor
  · exact fun region member => facts.alignedRegions region (listed region member)
  · exact fun region member => proper region (listed region member)
  · exact ascending.imp fun order => BitVec.le_def.mpr order.le
  · refine facts.regionsApart.imp_of_mem ?_
    intro region other member otherMember separate
    exact disjoint_of_apart (pages region member) (pages other otherMember) separate

theorem pageRanges_one {a : XmcMemoryArea}
    (aligned : PageAligned a.startAddr ∧ PageAligned a.size) (proper : Proper a.startAddr a.size)
    : PageRanges XmcMemoryArea.startAddr XmcMemoryArea.size [a] := by
  constructor <;> simp [aligned, proper]

/-- The hypervisor at 16 MB and a partition at 32 MB, in areas that name one region. -/
def ownTables (region : Nat) : MemoryTables :=
  { xmcMemRegTab := [lowMemory, highMemory]
    xmcPhysMemAreaTab :=
      [⟨0x1000000, 0xFC000000, 0x400000, 0, region⟩, ⟨0x2000000, 0x2000000, 0x100000, 0, region⟩] }

theorem ownTables_areas (region : Nat)
    : PageRanges XmcMemoryArea.startAddr XmcMemoryArea.size
      ((⟨1, 1⟩ : PartitionAreas).slice (ownTables region).xmcPhysMemAreaTab) := by
  have aligned : PageAligned 0x2000000 ∧ PageAligned 0x100000 := by decide
  have proper : Proper 0x2000000 0x100000 := by decide
  exact pageRanges_one aligned proper

theorem ownTables_regions (region : Nat)
    : PageRanges XmcMemoryRegion.startAddr XmcMemoryRegion.size
      (ownTables region).xmcMemRegTab := by
  have accepted : memoryLayout [] [.region lowMemory, .region highMemory] = .ok _ := rfl
  have ranges := regions_ranges accepted (by decide)
  exact ranges

theorem searches_agree_ownTables
    : (∀ pAddr, ExactSearches (ownTables 1) ⟨1, 1⟩ pAddr)
      ∧ ∀ pAddr, SamePage (ownTables 1) ⟨1, 1⟩ pAddr := by
  have inside : (⟨1, 1⟩ : PartitionAreas).Inside (ownTables 1) := Nat.le_refl 2
  have agree := searches_agree inside (ownTables_areas 1) (by decide) (ownTables_regions 1)
  refine ⟨agree.1, agree.2.mpr ?_⟩
  intro memArea member region entry _
  cases List.mem_singleton.mp member
  cases entry
  exact ⟨by decide, by decide⟩

/-- The tables of a document that lists its regions in descending order: the partition's area, the
only one it has, names the region below.
-/
theorem descending_regions_disagree
    : (memoryLayout [] (.region highMemory :: .region lowMemory :: ownAreas)).map (·.tables)
        = .ok (ownTables 0)
      ∧ PageRanges XmcMemoryArea.startAddr XmcMemoryArea.size
        ((⟨1, 1⟩ : PartitionAreas).slice (ownTables 0).xmcPhysMemAreaTab)
      ∧ PageRanges XmcMemoryRegion.startAddr XmcMemoryRegion.size (ownTables 0).xmcMemRegTab
      ∧ pmmFindPage (ownTables 0) ⟨1, 1⟩ 0x2000000
        = .ok (some { region := 0, page := 0x2000, flags := 0 })
      ∧ pmmFindAnonymousPage (ownTables 0) 0x2000000 = .ok (some (1, 0x1000))
      ∧ ¬ SamePage (ownTables 0) ⟨1, 1⟩ 0x2000000 := by
  refine ⟨rfl, ownTables_areas 0, ownTables_regions 0, rfl, rfl, ?_⟩
  intro agree
  have same := agree.same { region := 0, page := 0x2000, flags := 0 } rfl
  cases same

end XtratuM.Mmu
