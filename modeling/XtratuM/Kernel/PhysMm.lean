import Mathlib.Tactic.IntervalCases
import XtratuM.Kernel.Base

/-! The memory regions and areas of a configuration, and the search for the `physPage` of an
address in the areas of a partition.
-/

namespace XtratuM

def PAGE_SHIFT : Nat := 12

def XMC_REG_FLAG_PGTAB : XmU32 := 1 <<< 0

/-- `struct xmcMemoryRegion`. -/
structure XmcMemoryRegion where
  startAddr : XmU32
  size : XmU32
  flags : XmU32
  deriving DecidableEq, Repr

/-- `struct xmcMemoryArea`. -/
structure XmcMemoryArea where
  startAddr : XmU32
  mappedAt : XmU32
  size : XmU32
  flags : XmU32
  memoryRegionOffset : Nat
  deriving DecidableEq, Repr

/-- The areas of a partition among those of the configuration. -/
structure PartitionAreas where
  physicalMemoryAreasOffset : Nat
  noPhysicalMemoryAreas : Nat
  deriving DecidableEq, Repr

/-- The entries of a partition in a table of areas. -/
def PartitionAreas.slice (cfg : PartitionAreas) (tab : List XmcMemoryArea) : List XmcMemoryArea :=
  (tab.drop cfg.physicalMemoryAreasOffset).take cfg.noPhysicalMemoryAreas

/-- `xmcMemRegTab` and `xmcPhysMemAreaTab`. -/
structure MemoryTables where
  xmcMemRegTab : List XmcMemoryRegion
  xmcPhysMemAreaTab : List XmcMemoryArea
  deriving DecidableEq, Repr

/-- `startAddr + size - 1`, in 32 bits. -/
def XmcMemoryRegion.last (region : XmcMemoryRegion) : XmU32 :=
  region.startAddr + region.size - 1

def XmcMemoryArea.last (area : XmcMemoryArea) : XmU32 :=
  area.startAddr + area.size - 1

/-- An entry of `physPageTab`, and the flags of the area it was found in. -/
structure PageRef where
  region : Nat
  page : XmU32
  flags : XmU32
  deriving DecidableEq, Repr

/-- `physPageTab[memoryRegionOffset][(pAddr - startAddr) >> PAGE_SHIFT]`. -/
def XmcMemoryRegion.pageOf (region : XmcMemoryRegion) (pAddr : XmU32) : XmU32 :=
  (pAddr - region.startAddr) >>> PAGE_SHIFT

/-- The loop of `PmmFindPage`: the area that contains the address. -/
def findMemArea (tables : MemoryTables) (cfg : PartitionAreas) (pAddr : XmU32)
    : Nat → Int → Int → Except Stop (Option XmcMemoryArea)
  | 0, _, _ => .error .diverges
  | fuel + 1, l, r =>
      if l ≤ r then
        let c := (l + r) / 2
        match tables.xmcPhysMemAreaTab[(c + cfg.physicalMemoryAreasOffset).toNat]? with
        | none => .error .badAccess
        | some memArea =>
            if pAddr < memArea.startAddr then
              findMemArea tables cfg pAddr fuel l (c - 1)
            else if memArea.last < pAddr then
              findMemArea tables cfg pAddr fuel (c + 1) r
            else
              .ok (some memArea)
      else
        .ok none

/-- `PmmFindPage`. -/
def pmmFindPage (tables : MemoryTables) (cfg : PartitionAreas) (pAddr : XmU32)
    : Except Stop (Option PageRef) := do
  let pAddr := pAddr &&& PAGE_MASK
  let found ←
    findMemArea tables cfg pAddr (cfg.noPhysicalMemoryAreas + 1) 0 (cfg.noPhysicalMemoryAreas - 1)
  match found with
  | none => pure none
  | some memArea => do
      assert (memArea.startAddr ≤ pAddr ∧ pAddr + PAGE_SIZE - 1 ≤ memArea.last)
      match tables.xmcMemRegTab[memArea.memoryRegionOffset]? with
      | none => .error .badAccess
      | some memRegion =>
          if memRegion.flags &&& XMC_REG_FLAG_PGTAB = 0 then
            pure none
          else
            pure (some
              { region := memArea.memoryRegionOffset
                page := memRegion.pageOf pAddr
                flags := memArea.flags })

/-- `PmmFindAddr`, with the flags of the area. -/
def pmmFindAddr (tables : MemoryTables) (cfg : PartitionAreas) (pAddr : XmU32)
    : Except Stop (Option XmU32) := do
  let pAddr := pAddr &&& PAGE_MASK
  let found ←
    findMemArea tables cfg pAddr (cfg.noPhysicalMemoryAreas + 1) 0 (cfg.noPhysicalMemoryAreas - 1)
  match found with
  | none => pure none
  | some memArea => do
      assert (memArea.startAddr ≤ pAddr ∧ pAddr + PAGE_SIZE - 1 ≤ memArea.last)
      pure (some memArea.flags)

-----------------------------------------------------------------------------------------
-- The search

/-- The areas of the partition are in the table. -/
def PartitionAreas.Inside (cfg : PartitionAreas) (tables : MemoryTables) : Prop :=
  cfg.physicalMemoryAreasOffset + cfg.noPhysicalMemoryAreas ≤ tables.xmcPhysMemAreaTab.length

/-- The search ends inside the table, with an area that contains the address if with any. -/
theorem findMemArea_returns {tables : MemoryTables} {cfg : PartitionAreas}
    (inside : cfg.Inside tables) (pAddr : XmU32) {fuel : Nat} {l r : Int} (lower : 0 ≤ l)
    (upper : r < cfg.noPhysicalMemoryAreas) (ordered : l ≤ r + 1) (enough : r - l + 1 < fuel)
    : ∃ found, findMemArea tables cfg pAddr fuel l r = .ok found
      ∧ ∀ memArea, found = some memArea →
        memArea ∈ tables.xmcPhysMemAreaTab
          ∧ memArea.startAddr ≤ pAddr ∧ pAddr ≤ memArea.last := by
  unfold PartitionAreas.Inside at inside
  induction fuel generalizing l r with
  | zero => omega
  | succ fuel ih =>
      unfold findMemArea
      by_cases more : l ≤ r
      · have index : ((l + r) / 2 + cfg.physicalMemoryAreasOffset).toNat
            < tables.xmcPhysMemAreaTab.length := by omega
        simp only [if_pos more, List.getElem?_eq_getElem index]
        split
        · exact ih lower (by omega) (by omega) (by omega)
        · next above =>
            split
            · exact ih (by omega) upper (by omega) (by omega)
            · next below =>
                refine ⟨_, rfl, ?_⟩
                intro memArea same
                rw [← Option.some.inj same]
                exact ⟨List.getElem_mem index, BitVec.not_lt.mp above, BitVec.not_lt.mp below⟩
      · rw [if_neg more]
        exact ⟨none, rfl, by simp⟩

-----------------------------------------------------------------------------------------
-- The page found

/-- The entry of the region is there and stands for the page at the address. -/
def XmcMemoryRegion.Denotes (region : XmcMemoryRegion) (pAddr : XmU32) : Prop :=
  (region.pageOf pAddr).toNat < region.size.toNat / PAGE_SIZE.toNat
    ∧ region.startAddr.toNat + PAGE_SIZE.toNat * (region.pageOf pAddr).toNat = pAddr.toNat

/-- A number of pages. -/
def PageAligned (address : XmU32) : Prop :=
  address.toNat % PAGE_SIZE.toNat = 0

theorem and_pageSize_eq_zero {address : XmU32}
    : address &&& (PAGE_SIZE - 1) = 0 ↔ PageAligned address := by
  have ones : (PAGE_SIZE - 1).toNat = 2 ^ 12 - 1 := rfl
  have masked : (address &&& (PAGE_SIZE - 1)).toNat = address.toNat % PAGE_SIZE.toNat := by
    rw [BitVec.toNat_and, ones, Nat.and_two_pow_sub_one_eq_mod]
    rfl
  rw [PageAligned, ← masked, ← BitVec.toNat_inj]
  rfl

/-- Every page of the area has its entry in the region the area points at. -/
structure Located (tables : MemoryTables) (memArea : XmcMemoryArea) (region : XmcMemoryRegion)
    : Prop where
  entry : tables.xmcMemRegTab[memArea.memoryRegionOffset]? = some region
  pages : ∀ pAddr, PageAligned pAddr → memArea.startAddr ≤ pAddr → pAddr ≤ memArea.last →
    region.Denotes pAddr

theorem and_pageMask (pAddr : XmU32)
    : (pAddr &&& PAGE_MASK).toNat = pAddr.toNat / 4096 * 4096 := by
  have cleared : pAddr &&& PAGE_MASK = pAddr >>> 12 <<< 12 := by
    apply BitVec.eq_of_getLsbD_eq
    intro i inside
    have mask : PAGE_MASK.getLsbD i = decide (12 ≤ i) := by
      interval_cases i <;> rfl
    rw [BitVec.getLsbD_and, mask, BitVec.getLsbD_shiftLeft, BitVec.getLsbD_ushiftRight]
    by_cases low : i < 12
    · simp [low]
    · have position : 12 + (i - 12) = i := by omega
      simp [low, inside, position, Nat.not_lt.mp low]
  rw [cleared, BitVec.toNat_shiftLeft, BitVec.toNat_ushiftRight, Nat.shiftRight_eq_div_pow,
    Nat.shiftLeft_eq]
  omega

/-- The last page of an area lies inside it. -/
theorem last_page {memArea : XmcMemoryArea} {address : XmU32}
    (start : PageAligned memArea.startAddr) (size : PageAligned memArea.size)
    (page : PageAligned address) (inside : address ≤ memArea.last)
    : address + PAGE_SIZE - 1 ≤ memArea.last := by
  have pageSize : PAGE_SIZE.toNat = 4096 := rfl
  have one : (1 : XmU32).toNat = 1 := rfl
  unfold PageAligned at start size page
  simp only [XmcMemoryArea.last, BitVec.le_def, BitVec.toNat_sub, BitVec.toNat_add, pageSize, one]
    at start size page inside ⊢
  omega

/-- The search of `PmmFindPage` ends, and the page looked for lies in the area it ends with. -/
theorem findMemArea_page {tables : MemoryTables} {cfg : PartitionAreas}
    (inside : cfg.Inside tables)
    (aligned : ∀ memArea ∈ tables.xmcPhysMemAreaTab,
      PageAligned memArea.startAddr ∧ PageAligned memArea.size)
    (pAddr : XmU32)
    : PageAligned (pAddr &&& PAGE_MASK)
      ∧ ∃ found, findMemArea tables cfg (pAddr &&& PAGE_MASK) (cfg.noPhysicalMemoryAreas + 1) 0
          (cfg.noPhysicalMemoryAreas - 1) = .ok found
        ∧ ∀ memArea, found = some memArea →
          memArea ∈ tables.xmcPhysMemAreaTab ∧ memArea.startAddr ≤ pAddr &&& PAGE_MASK
            ∧ pAddr &&& PAGE_MASK ≤ memArea.last
            ∧ (pAddr &&& PAGE_MASK) + PAGE_SIZE - 1 ≤ memArea.last := by
  have page : PageAligned (pAddr &&& PAGE_MASK) := by
    rw [PageAligned, and_pageMask]
    exact Nat.mul_mod_left _ _
  obtain ⟨found, searched, sound⟩ := findMemArea_returns inside (pAddr &&& PAGE_MASK)
    (l := 0) (r := cfg.noPhysicalMemoryAreas - 1) (by omega) (by omega) (by omega)
    (by omega :
      (cfg.noPhysicalMemoryAreas : Int) - 1 - 0 + 1 < (cfg.noPhysicalMemoryAreas + 1 : Nat))
  refine ⟨page, found, searched, ?_⟩
  intro memArea same
  obtain ⟨member, low, high⟩ := sound memArea same
  obtain ⟨start, size⟩ := aligned memArea member
  exact ⟨member, low, high, last_page start size page high⟩

/-- `PmmFindPage` stays inside the tables and answers with the page at the address, when the
areas are located.
-/
theorem pmmFindPage_denotes {tables : MemoryTables} {cfg : PartitionAreas}
    (inside : cfg.Inside tables)
    (aligned : ∀ memArea ∈ tables.xmcPhysMemAreaTab,
      PageAligned memArea.startAddr ∧ PageAligned memArea.size)
    (located : ∀ memArea ∈ tables.xmcPhysMemAreaTab, ∃ region, Located tables memArea region)
    (pAddr : XmU32)
    : ∃ found, pmmFindPage tables cfg pAddr = .ok found
      ∧ ∀ ref, found = some ref →
        ∃ region, tables.xmcMemRegTab[ref.region]? = some region
          ∧ ref.page = region.pageOf (pAddr &&& PAGE_MASK)
          ∧ region.Denotes (pAddr &&& PAGE_MASK) := by
  obtain ⟨page, area, searched, sound⟩ := findMemArea_page inside aligned pAddr
  unfold pmmFindPage
  generalize pAddr &&& PAGE_MASK = address at page searched sound ⊢
  simp only [searched, ok_bind]
  cases area with
  | none => exact ⟨none, rfl, by simp⟩
  | some memArea =>
      obtain ⟨member, low, high, whole⟩ := sound memArea rfl
      obtain ⟨region, entry, pages⟩ := located memArea member
      have holds : assert (memArea.startAddr ≤ address
          ∧ address + PAGE_SIZE - 1 ≤ memArea.last) = .ok () := assert_of ⟨low, whole⟩
      simp only [holds, ok_bind, entry]
      split
      · exact ⟨none, rfl, by simp⟩
      · refine ⟨_, rfl, ?_⟩
        intro ref same
        rw [← Option.some.inj same]
        exact ⟨region, entry, rfl, pages _ page low high⟩

/-- The `ASSERT` of `PmmFindPage` holds for areas made of whole pages. -/
theorem pmmFindPage_no_assertion {tables : MemoryTables} {cfg : PartitionAreas}
    (inside : cfg.Inside tables)
    (aligned : ∀ memArea ∈ tables.xmcPhysMemAreaTab,
      PageAligned memArea.startAddr ∧ PageAligned memArea.size)
    (pAddr : XmU32)
    : pmmFindPage tables cfg pAddr ≠ .error .assertion := by
  obtain ⟨_, area, searched, sound⟩ := findMemArea_page inside aligned pAddr
  unfold pmmFindPage
  generalize pAddr &&& PAGE_MASK = address at searched sound ⊢
  simp only [searched, ok_bind]
  cases area with
  | none => simp [pure, Except.pure]
  | some memArea =>
      obtain ⟨_, low, _, whole⟩ := sound memArea rfl
      have holds : assert (memArea.startAddr ≤ address
          ∧ address + PAGE_SIZE - 1 ≤ memArea.last) = .ok () := assert_of ⟨low, whole⟩
      simp only [holds, ok_bind]
      cases tables.xmcMemRegTab[memArea.memoryRegionOffset]? with
      | none => simp
      | some region =>
          dsimp only
          split <;> simp [pure, Except.pure]

end XtratuM
