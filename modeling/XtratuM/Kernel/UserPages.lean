import Mathlib.Data.Finset.Range
import Mathlib.Data.Finset.Card
import XtratuM.Guest.Access
import XtratuM.Kernel.PhysMm
import XtratuM.Library.Reachability

/-! The page tables `SetupPageTable` builds for a partition, one call of `VmMapUserPage` for each
page of its areas. The first level table, the second level tables and the descriptors of the pages
are objects of their own.
-/

namespace XtratuM.UserPages

open Guest (CONFIG_XM_OFFSET)
open Reachability

def PTDL1_SHIFT : Nat := 22
def PTDL2_SHIFT : Nat := 12
def PTDL1ENTRIES : Nat := 1024

/-- `VA2PtdL1` and `VA2PtdL2`. -/
def va2PtdL1 (vAddr : XmU32) : Nat :=
  ((vAddr &&& 0xffc00000) >>> PTDL1_SHIFT).toNat

def va2PtdL2 (vAddr : XmU32) : Nat :=
  ((vAddr &&& 0x3ff000) >>> PTDL2_SHIFT).toNat

def _PG_ARCH_PRESENT : XmU32 := 0x001
def _PG_ARCH_RW : XmU32 := 0x002
def _PG_ARCH_USER : XmU32 := 0x004
def _PG_ARCH_PCD : XmU32 := 0x010

def _PG_ATTR_PRESENT : XmU32 := 1 <<< 16
def _PG_ATTR_USER : XmU32 := 1 <<< 17
def _PG_ATTR_RW : XmU32 := 1 <<< 18
def _PG_ATTR_CACHED : XmU32 := 1 <<< 19

def XM_MEM_AREA_UNMAPPED : XmU32 := 1 <<< 1

/-- `VmAttr2ArchAttr`. -/
def vmAttr2ArchAttr (flags : XmU32) : XmU32 :=
  (if flags &&& _PG_ATTR_PRESENT ≠ 0 then _PG_ARCH_PRESENT else 0)
    ||| (if flags &&& _PG_ATTR_USER ≠ 0 then _PG_ARCH_USER else 0)
    ||| (if flags &&& _PG_ATTR_RW ≠ 0 then _PG_ARCH_RW else 0)
    ||| (if flags &&& _PG_ATTR_CACHED = 0 then _PG_ARCH_PCD else 0)
    ||| flags &&& 0xffff

/-- `PPAG_STD`, `PPAG_PTDL1`, `PPAG_PTDL2` and `PPAG_PTDL3`. -/
inductive PPagType
  | std
  | ptdL1
  | ptdL2
  | ptdL3
  deriving DecidableEq, Repr

/-- `struct physPage`, whose counter has 27 bits. -/
structure PhysPage where
  type : PPagType
  counter : BitVec 27
  deriving DecidableEq, Repr

/-- The first level table of a partition, its second level tables by their address, and
`physPageTab`.
-/
structure PageTables where
  ptdL1 : Nat → XmU32
  ptdL2 : XmU32 → Nat → XmU32
  physPageTab : Nat → XmU32 → PhysPage

def PageTables.page (s : PageTables) (ref : PageRef) : PhysPage :=
  s.physPageTab ref.region ref.page

/-- `type=PPAG_PTDL2` and `PPagIncCounter`, which cannot overflow into its `PartitionPanic`: no
27-bit counter equals `~0`.
-/
def PageTables.usePtdL2 (s : PageTables) (ref : PageRef) : PageTables :=
  { s with
    physPageTab := fun region page =>
      if region = ref.region ∧ page = ref.page then
        { type := .ptdL2, counter := (s.page ref).counter + 1 }
      else
        s.physPageTab region page }

/-- The `ASSERT`s that `VmMapUserPage` begins with. -/
def assertUserPage (pAddr vAddr : XmU32) : Except Stop Unit := do
  assert (pAddr &&& (PAGE_SIZE - 1) = 0)
  assert (vAddr &&& (PAGE_SIZE - 1) = 0)
  assert (vAddr < CONFIG_XM_OFFSET)

/-- The entry of the first level table for the second level table at `pT`. -/
def ptdL1Entry (pT : XmU32) : XmU32 :=
  pT ||| _PG_ARCH_PRESENT ||| _PG_ARCH_RW

/-- The entry of a page in a second level table. -/
def ptdL2Entry (pAddr flags : XmU32) : XmU32 :=
  (pAddr &&& PAGE_MASK) ||| vmAttr2ArchAttr flags

/-- The second level table for `vAddr` when there is none: the page `pT` that `alloc` answers
with, cleared.
-/
def newPtdL2 (tables : MemoryTables) (cfg : PartitionAreas) (pT vAddr : XmU32) (s : PageTables)
    : Except Stop (Option (XmU32 × PageTables)) :=
  (pmmFindPage tables cfg pT).map fun found =>
    found.map fun pagePtdL2 =>
      (pT,
        { s.usePtdL2 pagePtdL2 with
          ptdL1 := Function.update s.ptdL1 (va2PtdL1 vAddr) (ptdL1Entry pT)
          ptdL2 := Function.update s.ptdL2 pT fun _ => 0 })

/-- The second level table that the entry for `vAddr` points at. -/
def presentPtdL2 (tables : MemoryTables) (cfg : PartitionAreas) (vAddr : XmU32) (s : PageTables)
    : Except Stop (Option (XmU32 × PageTables)) := do
  let pT := s.ptdL1 (va2PtdL1 vAddr) &&& PAGE_MASK
  let found ← pmmFindPage tables cfg pT
  match found with
  | none => .error .assertion
  | some pagePtdL2 => do
      assert ((s.page pagePtdL2).type = .ptdL2)
      assert (0 < (s.page pagePtdL2).counter)
      pure (some (pT, s))

/-- The second level table for `vAddr`. -/
def userPtdL2 (tables : MemoryTables) (cfg : PartitionAreas) (pT vAddr : XmU32) (s : PageTables)
    : Except Stop (Option (XmU32 × PageTables)) :=
  if s.ptdL1 (va2PtdL1 vAddr) &&& _PG_ARCH_PRESENT = 0 then
    newPtdL2 tables cfg pT vAddr s
  else
    presentPtdL2 tables cfg vAddr s

/-- `VmMapUserPage`; `none` stands for -1. -/
def vmMapUserPage (tables : MemoryTables) (cfg : PartitionAreas) (pT pAddr vAddr flags : XmU32)
    (s : PageTables) : Except Stop (Option PageTables) := do
  assertUserPage pAddr vAddr
  let table ← userPtdL2 tables cfg pT vAddr s
  pure (table.map fun (pT, s) =>
    { s with
      ptdL2 := Function.update s.ptdL2 pT
        (Function.update (s.ptdL2 pT) (va2PtdL2 vAddr) (ptdL2Entry pAddr flags)) })

/-- The loop of `SetupPageTable` over an area, from `addr` on: the pages it maps, with their
virtual addresses, as long as they can be mapped.
-/
def areaPages (area : XmcMemoryArea) : Nat → XmU32 → XmU32 → List (XmU32 × XmU32)
  | 0, _, _ => []
  | fuel + 1, addr, vAddr =>
      if area.startAddr ≤ addr ∧ addr < area.last then
        (addr, vAddr) :: areaPages area fuel (addr + PAGE_SIZE) (vAddr + PAGE_SIZE)
      else
        []

/-- The areas of a partition that its page tables show. -/
def mappedAreas (tables : MemoryTables) (cfg : PartitionAreas) : List XmcMemoryArea :=
  (cfg.slice tables.xmcPhysMemAreaTab).filter fun area => area.flags &&& XM_MEM_AREA_UNMAPPED = 0

/-- The tables as `SetupPageTable` starts with them: `PmmResetPartition` has cleared the counters,
and the page of the first level table has been counted.
-/
structure PageTables.Start (s : PageTables) : Prop where
  cleared : ∀ l1e, s.ptdL1 l1e = 0
  counters : ∀ region page, (s.physPageTab region page).counter.toNat ≤ 1

/-- A call that has mapped its page. -/
def Maps (tables : MemoryTables) (cfg : PartitionAreas) (s : PageTables)
    (call : XmU32 × XmU32 × XmU32 × XmU32) (s' : PageTables) : Prop :=
  vmMapUserPage tables cfg call.1 call.2.1 call.2.2.1 call.2.2.2 s = .ok (some s')

-----------------------------------------------------------------------------------------
-- One call

theorem va2PtdL1_lt (vAddr : XmU32) : va2PtdL1 vAddr < PTDL1ENTRIES := by
  have word := (vAddr &&& 0xffc00000).isLt
  simp only [va2PtdL1, PTDL1_SHIFT, PTDL1ENTRIES, BitVec.toNat_ushiftRight,
    Nat.shiftRight_eq_div_pow]
  omega

/-- Only the page of an address matters to `PmmFindPage`. -/
theorem pmmFindPage_congr {tables : MemoryTables} {cfg : PartitionAreas} {pAddr other : XmU32}
    (same : pAddr &&& PAGE_MASK = other &&& PAGE_MASK)
    : pmmFindPage tables cfg pAddr = pmmFindPage tables cfg other := by
  unfold pmmFindPage
  rw [same]

/-- The flags of an entry are not part of its address. -/
theorem ptdL1Entry_page (pT : XmU32)
    : (ptdL1Entry pT &&& PAGE_MASK) &&& PAGE_MASK = pT &&& PAGE_MASK := by
  have flags : (_PG_ARCH_PRESENT ||| _PG_ARCH_RW) &&& PAGE_MASK = 0 := rfl
  unfold ptdL1Entry
  rw [BitVec.and_assoc, BitVec.and_self, BitVec.or_assoc, BitVec.and_or_distrib_right, flags]
  exact BitVec.or_zero

theorem ptdL1Entry_present (pT : XmU32) : ptdL1Entry pT &&& _PG_ARCH_PRESENT ≠ 0 := by
  have absorbed : ptdL1Entry pT &&& _PG_ARCH_PRESENT = _PG_ARCH_PRESENT := by
    unfold ptdL1Entry
    ext i inside
    simp only [BitVec.getElem_and, BitVec.getElem_or, Bool.and_eq_right_iff_imp,
      Bool.or_eq_true]
    intro bit
    exact Or.inl (Or.inr bit)
  rw [absorbed]
  decide

/-- What a call that maps its page does to the first level table and to the pages: nothing, or it
fills the entry with a page of the partition that it makes a second level table.
-/
theorem Maps.cases {tables : MemoryTables} {cfg : PartitionAreas} {s s' : PageTables}
    {pT pAddr vAddr flags : XmU32} (mapped : Maps tables cfg s (pT, pAddr, vAddr, flags) s')
    : (s'.ptdL1 = s.ptdL1 ∧ s'.physPageTab = s.physPageTab)
      ∨ (s.ptdL1 (va2PtdL1 vAddr) &&& _PG_ARCH_PRESENT = 0
        ∧ ∃ ref, pmmFindPage tables cfg pT = .ok (some ref)
          ∧ s'.ptdL1 = Function.update s.ptdL1 (va2PtdL1 vAddr) (ptdL1Entry pT)
          ∧ s'.physPageTab = (s.usePtdL2 ref).physPageTab) := by
  unfold Maps vmMapUserPage userPtdL2 at mapped
  obtain ⟨_, _, mapped⟩ := bind_eq_ok.mp mapped
  obtain ⟨table, found, mapped⟩ := bind_eq_ok.mp mapped
  obtain ⟨⟨page, after⟩, rfl, same⟩ := Option.map_eq_some_iff.mp (Except.ok.inj mapped)
  rw [← same]
  by_cases absent : s.ptdL1 (va2PtdL1 vAddr) &&& _PG_ARCH_PRESENT = 0
  · rw [if_pos absent] at found
    obtain ⟨answer, searched, found⟩ := map_eq_ok.mp found
    obtain ⟨ref, rfl, installed⟩ := Option.map_eq_some_iff.mp found
    cases installed
    exact Or.inr ⟨absent, ref, searched, rfl, rfl⟩
  · rw [if_neg absent] at found
    obtain ⟨answer, searched, found⟩ := bind_eq_ok.mp found
    cases answer with
    | none => cases found
    | some ref =>
        obtain ⟨_, _, found⟩ := bind_eq_ok.mp found
        obtain ⟨_, _, found⟩ := bind_eq_ok.mp found
        cases found
        exact Or.inl ⟨rfl, rfl⟩

-----------------------------------------------------------------------------------------
-- Runs

/-- The entries of the first level table in use. -/
def PageTables.present (s : PageTables) : Finset Nat :=
  (Finset.range PTDL1ENTRIES).filter fun l1e => s.ptdL1 l1e &&& _PG_ARCH_PRESENT ≠ 0

/-- A page that is a second level table in use. -/
def PageTables.IsPtdL2 (s : PageTables) (ref : PageRef) : Prop :=
  (s.page ref).type = .ptdL2 ∧ 0 < (s.page ref).counter

/-- Every entry in use points at a page that has been made a second level table, and no page has
been counted more often than entries have been filled.
-/
structure Installed (tables : MemoryTables) (cfg : PartitionAreas) (s : PageTables) : Prop where
  entries : ∀ l1e, s.ptdL1 l1e &&& _PG_ARCH_PRESENT ≠ 0 →
    ∃ ref, pmmFindPage tables cfg (s.ptdL1 l1e &&& PAGE_MASK) = .ok (some ref)
      ∧ s.IsPtdL2 ref
  counters : ∀ region page,
    (s.physPageTab region page).counter.toNat ≤ 1 + s.present.card

theorem PageTables.Start.installed {tables : MemoryTables} {cfg : PartitionAreas}
    {s : PageTables} (start : s.Start)
    : Installed tables cfg s := by
  constructor
  · intro l1e present
    rw [start.cleared] at present
    exact absurd rfl present
  · intro region page
    exact (start.counters region page).trans (Nat.le_add_right _ _)

theorem present_update {s s' : PageTables} {vAddr entry : XmU32}
    (absent : s.ptdL1 (va2PtdL1 vAddr) &&& _PG_ARCH_PRESENT = 0)
    (filled : entry &&& _PG_ARCH_PRESENT ≠ 0)
    (same : s'.ptdL1 = Function.update s.ptdL1 (va2PtdL1 vAddr) entry)
    : s'.present.card = s.present.card + 1 := by
  have inserted : s'.present = insert (va2PtdL1 vAddr) s.present := by
    ext l1e
    simp only [PageTables.present, same, Finset.mem_insert, Finset.mem_filter, Finset.mem_range]
    by_cases here : l1e = va2PtdL1 vAddr
    · rw [here, Function.update_self]
      simpa [va2PtdL1_lt] using filled
    · rw [Function.update_of_ne here]
      simp [here]
  rw [inserted, Finset.card_insert_of_notMem]
  simp [PageTables.present, absent]

theorem PageTables.present_le (s : PageTables) : s.present.card ≤ PTDL1ENTRIES := by
  have filtered := Finset.card_filter_le (Finset.range PTDL1ENTRIES) fun l1e =>
    s.ptdL1 l1e &&& _PG_ARCH_PRESENT ≠ 0
  rwa [Finset.card_range] at filtered

theorem usePtdL2_isPtdL2 {s : PageTables} {ref found : PageRef}
    (positive : 0 < (s.page ref).counter + 1) (good : s.IsPtdL2 found ∨ found = ref)
    : (s.usePtdL2 ref).IsPtdL2 found := by
  unfold PageTables.IsPtdL2 PageTables.page PageTables.usePtdL2
  dsimp only
  by_cases same : found.region = ref.region ∧ found.page = ref.page
  · rw [if_pos same]
    exact ⟨rfl, positive⟩
  · rw [if_neg same]
    rcases good with earlier | rfl
    · exact earlier
    · exact absurd ⟨rfl, rfl⟩ same

/-- Another page mapped. -/
theorem Installed.maps {tables : MemoryTables} {cfg : PartitionAreas} {s s' : PageTables}
    {call : XmU32 × XmU32 × XmU32 × XmU32} (installed : Installed tables cfg s)
    (mapped : Maps tables cfg s call s')
    : Installed tables cfg s' := by
  obtain ⟨pT, pAddr, vAddr, flags⟩ := call
  rcases mapped.cases with ⟨ptdL1, physPageTab⟩ | ⟨absent, ref, searched, ptdL1, physPageTab⟩
  · constructor
    · intro l1e present
      rw [ptdL1] at present ⊢
      obtain ⟨ref, searched, good⟩ := installed.entries l1e present
      unfold PageTables.IsPtdL2 PageTables.page at good ⊢
      rw [physPageTab]
      exact ⟨ref, searched, good⟩
    · intro region page
      rw [PageTables.present, ptdL1, physPageTab]
      exact installed.counters region page
  · have room := s.present_le
    have entries : PTDL1ENTRIES = 1024 := rfl
    have counted : (s.page ref).counter.toNat ≤ 1 + s.present.card :=
      installed.counters ref.region ref.page
    have increased : ((s.page ref).counter + 1).toNat = (s.page ref).counter.toNat + 1 := by
      have one : (1 : BitVec 27).toNat = 1 := rfl
      rw [BitVec.toNat_add, one]
      omega
    constructor
    · intro l1e present
      have target : ∃ found, pmmFindPage tables cfg (s'.ptdL1 l1e &&& PAGE_MASK)
            = .ok (some found)
          ∧ (s.IsPtdL2 found ∨ found = ref) := by
        rw [ptdL1] at present ⊢
        by_cases here : l1e = va2PtdL1 vAddr
        · rw [here, Function.update_self]
          exact ⟨ref, (pmmFindPage_congr (ptdL1Entry_page pT)).trans searched, Or.inr rfl⟩
        · rw [Function.update_of_ne here] at present ⊢
          obtain ⟨found, earlier, good⟩ := installed.entries l1e present
          exact ⟨found, earlier, Or.inl good⟩
      obtain ⟨found, answered, good⟩ := target
      have positive : 0 < (s.page ref).counter + 1 := by
        rw [BitVec.lt_def, increased]
        exact Nat.succ_pos _
      have after := usePtdL2_isPtdL2 positive good
      unfold PageTables.IsPtdL2 PageTables.page at after ⊢
      rw [physPageTab]
      exact ⟨found, answered, after⟩
    · intro region page
      rw [present_update absent (ptdL1Entry_present pT) ptdL1, physPageTab]
      unfold PageTables.usePtdL2
      dsimp only
      split
      · rw [increased]
        omega
      · exact (installed.counters region page).trans (by omega)

/-- In every state that mapping pages leads to, the entries in use are sound. -/
theorem installed_of_reach {tables : MemoryTables} {cfg : PartitionAreas}
    {start s : PageTables} {past : List (XmU32 × XmU32 × XmU32 × XmU32)} (initial : start.Start)
    (run : Reach (Maps tables cfg) start past s)
    : Installed tables cfg s :=
  run.invariant initial.installed fun _ _ _ installed mapped => installed.maps mapped

-----------------------------------------------------------------------------------------
-- The assertions

/-- No `ASSERT` fails for a page of a virtual address below `CONFIG_XM_OFFSET`. -/
theorem vmMapUserPage_no_assertion {tables : MemoryTables} {cfg : PartitionAreas}
    {s : PageTables} {pT pAddr vAddr flags : XmU32} (installed : Installed tables cfg s)
    (finds : ∀ address, pmmFindPage tables cfg address ≠ .error .assertion)
    (page : PageAligned pAddr) (aligned : PageAligned vAddr) (below : vAddr < CONFIG_XM_OFFSET)
    : vmMapUserPage tables cfg pT pAddr vAddr flags s ≠ .error .assertion := by
  unfold vmMapUserPage userPtdL2
  have asserted : assertUserPage pAddr vAddr = .ok () := by
    simp only [assertUserPage, assert_of (and_pageSize_eq_zero.mpr page), assert_of below,
      assert_of (and_pageSize_eq_zero.mpr aligned), ok_bind]
  rw [asserted, ok_bind]
  intro failed
  rcases bind_eq_error.mp failed with failed | ⟨_, _, failed⟩
  · by_cases absent : s.ptdL1 (va2PtdL1 vAddr) &&& _PG_ARCH_PRESENT = 0
    · rw [if_pos absent] at failed
      exact finds _ (map_eq_error.mp failed)
    · obtain ⟨ref, searched, type, counter⟩ := installed.entries _ absent
      rw [if_neg absent, presentPtdL2, searched] at failed
      simp only [ok_bind, assert_of type, assert_of counter] at failed
      cases failed
  · cases failed

theorem assert_bind_assertion {α : Type} {exp : Prop} [Decidable exp]
    {rest : Unit → Except Stop α} (later : rest () = .error .assertion)
    : (assert exp >>= rest) = .error .assertion := by
  unfold assert
  split
  · exact later
  · rfl

/-- From `CONFIG_XM_OFFSET` on one fails, whatever the tables. -/
theorem vmMapUserPage_assertion {tables : MemoryTables} {cfg : PartitionAreas} (s : PageTables)
    (pT pAddr flags : XmU32) {vAddr : XmU32} (above : CONFIG_XM_OFFSET ≤ vAddr)
    : vmMapUserPage tables cfg pT pAddr vAddr flags s = .error .assertion := by
  have refused : assert (vAddr < CONFIG_XM_OFFSET) = .error .assertion :=
    if_neg (BitVec.not_lt.mpr above)
  have asserted : assertUserPage pAddr vAddr = .error .assertion :=
    assert_bind_assertion (assert_bind_assertion refused)
  unfold vmMapUserPage
  rw [asserted]
  rfl

-----------------------------------------------------------------------------------------
-- The pages of an area

/-- The `k`-th page from an address on. -/
def pageFrom (address : XmU32) (k : Nat) : XmU32 :=
  address + BitVec.ofNat 32 (k * PAGE_SIZE.toNat)

theorem pageFrom_zero (address : XmU32) : pageFrom address 0 = address := by
  simp [pageFrom]

theorem pageFrom_succ (address : XmU32) (k : Nat)
    : pageFrom address (k + 1) = pageFrom (address + PAGE_SIZE) k := by
  have pageSize : PAGE_SIZE.toNat = 4096 := rfl
  apply BitVec.eq_of_toNat_eq
  simp only [pageFrom, BitVec.toNat_add, BitVec.toNat_ofNat, pageSize]
  omega

/-- The pages the loop goes through: those before which every test has passed. -/
theorem mem_areaPages {area : XmcMemoryArea} {fuel : Nat} {addr vAddr : XmU32}
    {page : XmU32 × XmU32}
    : page ∈ areaPages area fuel addr vAddr
      ↔ ∃ k, k < fuel ∧ page = (pageFrom addr k, pageFrom vAddr k)
        ∧ ∀ j ≤ k, area.startAddr ≤ pageFrom addr j ∧ pageFrom addr j < area.last := by
  induction fuel generalizing addr vAddr with
  | zero => simp [areaPages]
  | succ fuel ih =>
      unfold areaPages
      by_cases test : area.startAddr ≤ addr ∧ addr < area.last
      · rw [if_pos test, List.mem_cons, ih]
        constructor
        · intro member
          rcases member with rfl | ⟨k, more, same, tests⟩
          · refine ⟨0, Nat.succ_pos _, by simp [pageFrom_zero], ?_⟩
            intro j first
            rw [Nat.le_zero.mp first, pageFrom_zero]
            exact test
          · refine ⟨k + 1, Nat.succ_lt_succ more, by simpa [pageFrom_succ] using same, ?_⟩
            intro j earlier
            cases j with
            | zero =>
                rw [pageFrom_zero]
                exact test
            | succ j =>
                rw [pageFrom_succ]
                exact tests j (Nat.le_of_succ_le_succ earlier)
        · intro ⟨k, more, same, tests⟩
          cases k with
          | zero => exact Or.inl (by simpa [pageFrom_zero] using same)
          | succ k =>
              refine Or.inr
                ⟨k, Nat.lt_of_succ_lt_succ more, by simpa [pageFrom_succ] using same, ?_⟩
              intro j earlier
              rw [← pageFrom_succ]
              exact tests (j + 1) (Nat.succ_le_succ earlier)
      · rw [if_neg test]
        refine iff_of_false (by simp) ?_
        intro ⟨k, _, _, tests⟩
        have first := tests 0 (Nat.zero_le k)
        rw [pageFrom_zero] at first
        exact test first

/-- The pages the loop goes through are those of the area, unless it is the empty area at address
0, whose last address is the last of all.
-/
theorem areaPages_inside {area : XmcMemoryArea} {fuel : Nat} {page : XmU32 × XmU32}
    (start : PageAligned area.startAddr) (size : PageAligned area.size)
    (proper : ¬ (area.startAddr = 0 ∧ area.size = 0))
    (member : page ∈ areaPages area fuel area.startAddr area.mappedAt)
    : ∃ k, k * PAGE_SIZE.toNat < area.size.toNat
      ∧ page = (pageFrom area.startAddr k, pageFrom area.mappedAt k) := by
  obtain ⟨k, _, same, tests⟩ := mem_areaPages.mp member
  refine ⟨k, ?_, same⟩
  have pageSize : PAGE_SIZE.toNat = 4096 := rfl
  have one : (1 : XmU32).toNat = 1 := rfl
  have nonempty : ¬ (area.startAddr.toNat = 0 ∧ area.size.toNat = 0) := by
    intro ⟨zero, empty⟩
    exact proper ⟨BitVec.eq_of_toNat_eq zero, BitVec.eq_of_toNat_eq empty⟩
  by_contra beyond
  rw [pageSize] at beyond
  have position : area.size.toNat / 4096 ≤ k := by omega
  have test := tests (area.size.toNat / 4096) position
  have word := area.size.isLt
  unfold PageAligned at start size
  simp only [pageFrom, XmcMemoryArea.last, BitVec.le_def, BitVec.lt_def, BitVec.toNat_sub,
    BitVec.toNat_add, BitVec.toNat_ofNat, pageSize, one] at test start size
  omega

/-- The loop over the empty area at address 0 goes up to `CONFIG_XM_OFFSET` at least. -/
theorem areaPages_everything {area : XmcMemoryArea}
    (everything : area.startAddr = 0 ∧ area.size = 0)
    (aligned : PageAligned area.mappedAt) (below : area.mappedAt ≤ CONFIG_XM_OFFSET)
    : ∃ fuel, ∃ page ∈ areaPages area fuel area.startAddr area.mappedAt,
        CONFIG_XM_OFFSET ≤ page.2 := by
  have pageSize : PAGE_SIZE.toNat = 4096 := rfl
  have one : (1 : XmU32).toNat = 1 := rfl
  have zero : (0 : XmU32).toNat = 0 := rfl
  have top : CONFIG_XM_OFFSET.toNat = 0xFC000000 := rfl
  obtain ⟨k, distance⟩ : ∃ k, area.mappedAt.toNat + k * 4096 = 0xFC000000 := by
    refine ⟨(0xFC000000 - area.mappedAt.toNat) / 4096, ?_⟩
    rw [BitVec.le_def, top] at below
    rw [PageAligned, pageSize] at aligned
    omega
  refine ⟨k + 1, _, mem_areaPages.mpr ⟨k, Nat.lt_succ_self k, rfl, ?_⟩, ?_⟩
  · intro j earlier
    rw [XmcMemoryArea.last, everything.1, everything.2]
    simp only [pageFrom, BitVec.le_def, BitVec.lt_def, BitVec.toNat_sub, BitVec.toNat_add,
      BitVec.toNat_ofNat, pageSize, one, zero]
    omega
  · simp only [pageFrom, BitVec.le_def, BitVec.toNat_add, BitVec.toNat_ofNat, pageSize, top]
    omega

end XtratuM.UserPages
