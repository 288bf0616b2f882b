import XtratuM.Mmu.GuestTables
import XtratuM.Mmu.SetupWrites

/-! The page tables that `SetupPageTable` leaves: they show the partition its own memory and what
is mapped at boot, and are what the calls that change them start from.
-/

namespace XtratuM.TableSetup

open Guest (CONFIG_XM_OFFSET)
open Tracked Reachability
open UserPages (PPagType _PG_ARCH_PRESENT _PG_ARCH_RW _PG_ATTR_PRESENT _PG_ATTR_USER _PG_ATTR_RW
  _PG_ATTR_CACHED pmmFindPage_congr ptdL1Entry ptdL2Entry vmAttr2ArchAttr)
open Mmu PageCache

-----------------------------------------------------------------------------------------
-- Changes of the memory

/-- No page of the partition is a table, as `PmmResetPartition` leaves them. -/
def FreshPages (mmu : MmuConfig) (m : State) : Prop :=
  ∀ addr ref, mmu.Found addr ref → (m.page ref).type = .std

section Changes

variable {mmu : MmuConfig} {boot : XmU32 → Prop} {m m' : State}

/-- A word is written that is no entry of a table, or a sound one. -/
theorem guestTables_setWord {addr value : XmU32} (sound : GuestTables mmu boot m)
    (word : addr &&& 3 = 0)
    (ptdL2 : mmu.PageOf m (getAddr addr) .ptdL2 → IsPresent value →
      mmu.Reaches boot (getAddr value))
    (ptdL1 : mmu.PageOf m (getAddr addr) .ptdL1 → IsPresent value → mmu.IsDirectory m value)
    : GuestTables mmu boot (m.setWord addr value) := by
  have types := setWord_sameTypes m addr value
  constructor
  · intro page table e inside present
    have before := table.congr types
    rw [setWord_entry m value word before.aligned inside] at present ⊢
    by_cases here : entryAt page e = addr
    · have own := getAddr_entryAt before.aligned inside
      rw [here] at own
      rw [if_pos here] at present ⊢
      exact ptdL2 (own.symm ▸ before) present
    · rw [if_neg here] at present ⊢
      exact sound.ptdL2 page before e inside present
  · intro page table e inside present
    have before := table.congr types
    have below := Nat.lt_of_lt_of_le inside userPtdEntries_le
    rw [setWord_entry m value word before.aligned below] at present ⊢
    by_cases here : entryAt page e = addr
    · have own := getAddr_entryAt before.aligned below
      rw [here] at own
      rw [if_pos here] at present ⊢
      exact (ptdL1 (own.symm ▸ before) present).congr types
    · rw [if_neg here] at present ⊢
      exact (sound.ptdL1 page before e inside present).congr types

theorem absent_zero : ¬ IsPresent 0 := by decide

theorem useTable_types (type : PPagType) (ref other : PageRef) (m : State)
    : ((useTable type ref m).page other).type
      = if PageRef.SamePage other ref then type else (m.page other).type := by
  unfold useTable
  rw [pPagIncCounter_sameTypes, setPage_page]
  split <;> rfl

section Made

variable {pT : XmU32} {ref : PageRef} {type : PPagType}

theorem Cleared.made (cleared : Cleared PTDL2ENTRIES pT (useTable type ref m) m')
    (other : PageRef)
    : (m'.page other).type
      = if PageRef.SamePage other ref then type else (m.page other).type := by
  rw [← useTable_types, State.page, cleared.types]
  rfl

theorem Cleared.own (cleared : Cleared PTDL2ENTRIES pT (useTable type ref m) m')
    (aligned : PageAligned pT) {e : Nat} (inside : e < PTDL2ENTRIES)
    : m'.entry pT e = 0 := by
  rw [cleared.entry pT e aligned inside, if_pos ⟨rfl, inside⟩]

theorem Cleared.other (cleared : Cleared PTDL2ENTRIES pT (useTable type ref m) m')
    {page : XmU32} (aligned : PageAligned page) (apart : page ≠ pT) {e : Nat}
    (inside : e < PTDL2ENTRIES)
    : m'.entry page e = m.entry page e := by
  rw [cleared.entry page e aligned inside, if_neg fun same => apart same.1]
  rfl

/-- No other page becomes a table. -/
theorem Cleared.pageOf (cleared : Cleared PTDL2ENTRIES pT (useTable type ref m) m')
    (aligned : PageAligned pT) (found : mmu.Found pT ref) {page : XmU32} {kind : PPagType}
    (apart : page ≠ pT) (table : mmu.PageOf m' page kind)
    : mmu.PageOf m page kind := by
  obtain ⟨other, otherFound, typed⟩ := table.found
  have different : ¬ PageRef.SamePage other ref := by
    refine otherFound.apart found aligned ?_
    rwa [getAddr_of_aligned table.aligned]
  rw [cleared.made, if_neg different] at typed
  exact { aligned := table.aligned, found := ⟨other, otherFound, typed⟩ }

/-- An empty second level table is added. -/
theorem guestTables_table (sound : GuestTables mmu boot m) (aligned : PageAligned pT)
    (found : mmu.Found pT ref)
    (cleared : Cleared PTDL2ENTRIES pT (useTable .ptdL2 ref m) m')
    : GuestTables mmu boot m' := by
  constructor
  · intro page table e inside present
    by_cases here : page = pT
    · subst here
      rw [cleared.own aligned inside] at present
      exact absurd present absent_zero
    · rw [cleared.other table.aligned here inside] at present ⊢
      exact sound.ptdL2 page (cleared.pageOf aligned found here table) e inside present
  · intro page table e inside present
    have below := Nat.lt_of_lt_of_le inside userPtdEntries_le
    by_cases here : page = pT
    · subst here
      rw [cleared.own aligned below] at present
      exact absurd present absent_zero
    · rw [cleared.other table.aligned here below] at present ⊢
      have before := cleared.pageOf aligned found here table
      obtain ⟨small, target, targetFound, typed⟩ := sound.ptdL1 page before e inside present
      refine ⟨small, target, targetFound, ?_⟩
      rw [cleared.made]
      split
      next => rfl
      next => exact typed

/-- An empty first level table is made where no page is a table. -/
theorem guestTables_root (fresh : FreshPages mmu m) (aligned : PageAligned pT)
    (found : mmu.Found pT ref)
    (cleared : Cleared PTDL2ENTRIES pT (useTable type ref m) m')
    : GuestTables mmu boot m' := by
  have tables : ∀ page kind, kind ≠ .std → mmu.PageOf m' page kind → page = pT := by
    intro page kind notStd table
    by_contra apart
    obtain ⟨other, otherFound, typed⟩ := (cleared.pageOf aligned found apart table).found
    exact notStd (typed.symm.trans (fresh page other otherFound))
  constructor
  · intro page table e inside present
    have here := tables page _ (by decide) table
    subst here
    rw [cleared.own aligned inside] at present
    exact absurd present absent_zero
  · intro page table e inside present
    have here := tables page _ (by decide) table
    subst here
    rw [cleared.own aligned (Nat.lt_of_lt_of_le inside userPtdEntries_le)] at present
    exact absurd present absent_zero

end Made

end Changes

-----------------------------------------------------------------------------------------
-- Mappings

/-- The configuration of the hypercalls is that of the partition. -/
structure SameMemory (cfg : SetupConfig) (mmu : MmuConfig) : Prop where
  tables : mmu.tables = cfg.tables
  partition : mmu.partition = cfg.partition

/-- What is mapped besides the areas: the control tables, and what `SetupLdr` maps. -/
def SetupConfig.AtBoot (cfg : SetupConfig) (addr : XmU32) : Prop :=
  ∃ mapping ∈ pctMappings cfg ++ ldrMappings cfg (XM_PCTRLTAB_ADDR - ldrSize),
    mapping.pAddr &&& PAGE_MASK = addr

theorem entry_getAddr {mapping : Mapping} (plain : vmAttr2ArchAttr mapping.flags &&& PAGE_MASK = 0)
    : getAddr mapping.entry = mapping.pAddr &&& PAGE_MASK := by
  unfold getAddr Mapping.entry ptdL2Entry
  rw [BitVec.and_comm, BitVec.and_or_distrib_left, BitVec.and_comm PAGE_MASK (vmAttr2ArchAttr _),
    plain, BitVec.and_comm, pageMask_idem]
  exact BitVec.or_zero

/-- Witness: induction on the number of pages. -/
theorem pagesWhile_mem {more : XmU32 → Bool} {flags : XmU32} {fuel : Nat} {addr vAddr : XmU32}
    {mapping : Mapping} (member : mapping ∈ pagesWhile more flags fuel addr vAddr)
    : more mapping.pAddr = true ∧ mapping.flags = flags
        ∧ (PageAligned addr → PageAligned mapping.pAddr) := by
  induction fuel generalizing addr vAddr with
  | zero => cases member
  | succ fuel ih =>
      unfold pagesWhile at member
      split at member
      next goes =>
        rcases List.mem_cons.mp member with rfl | later
        · exact ⟨goes, rfl, id⟩
        · obtain ⟨goes, sameFlags, aligned⟩ := ih later
          refine ⟨goes, sameFlags, fun start => aligned ?_⟩
          have size : PAGE_SIZE.toNat = 4096 := rfl
          change _ % 4096 = 0 at start
          change _ % 4096 = 0
          rw [BitVec.toNat_add, size]
          omega
      next => cases member

theorem customFileMappings_flags {flags : XmU32} {files : List (XmU32 × XmU32)} {vAddr : XmU32}
    {mapping : Mapping} (member : mapping ∈ customFileMappings flags files vAddr)
    : mapping.flags = flags := by
  induction files generalizing vAddr with
  | nil => cases member
  | cons file files ih =>
      unfold customFileMappings at member
      rcases List.mem_append.mp member with here | later
      · exact (pagesWhile_mem here).2.1
      · exact ih later

/-- The loader's mappings differ in the stack's being writable. -/
theorem ldrMappings_flags {cfg : SetupConfig} {at_ : XmU32} {mapping : Mapping}
    (member : mapping ∈ ldrMappings cfg at_)
    : vmAttr2ArchAttr mapping.flags &&& PAGE_MASK = 0 := by
  have readOnly : vmAttr2ArchAttr (_PG_ATTR_PRESENT ||| _PG_ATTR_USER ||| _PG_ATTR_CACHED)
      &&& PAGE_MASK = 0 := by decide
  have writable : vmAttr2ArchAttr (_PG_ATTR_PRESENT ||| _PG_ATTR_USER ||| _PG_ATTR_CACHED
      ||| _PG_ATTR_RW) &&& PAGE_MASK = 0 := by decide
  unfold ldrMappings at member
  rcases List.mem_append.mp member with others | files
  · rcases List.mem_append.mp others with others | image
    · rcases List.mem_append.mp others with stack | code
      · rw [(pagesWhile_mem stack).2.1]
        exact writable
      · rw [(pagesWhile_mem code).2.1]
        exact readOnly
    · rw [(pagesWhile_mem image).2.1]
      exact readOnly
  · rw [customFileMappings_flags files]
    exact readOnly

section Mappings

variable {cfg : SetupConfig} {mmu : MmuConfig}

/-- The pages that are mapped for an area are pages of it. -/
theorem areaMappings_owns (layout : Layout cfg) {attr : XmcMemoryArea → XmU32}
    {mapping : Mapping} (member : mapping ∈ areaMappings cfg attr)
    : Owns cfg mapping.pAddr ∧ ∃ memArea, mapping.flags = attr memArea := by
  obtain ⟨memArea, listed, page⟩ := List.mem_flatMap.mp member
  have inAreas := List.mem_of_mem_filter listed
  obtain ⟨start, size⟩ := layout.areas.aligned memArea inAreas
  obtain ⟨nonempty, fits⟩ := layout.areas.proper memArea inAreas
  obtain ⟨goes, flags, aligned⟩ := pagesWhile_mem page
  refine ⟨⟨memArea, inAreas, ?_⟩, memArea, flags⟩
  have pageStart := aligned start
  have pageSize : PAGE_SIZE.toNat = 4096 := rfl
  have one : (1 : XmU32).toNat = 1 := rfl
  rw [Bool.and_eq_true, decide_eq_true_eq, decide_eq_true_eq, BitVec.le_def, BitVec.lt_def,
    BitVec.toNat_sub, BitVec.toNat_add, one] at goes
  change _ % 4096 = 0 at start size pageStart
  unfold HasPage
  rw [pageSize]
  omega

theorem areaAttr_plain (memArea : XmcMemoryArea)
    : vmAttr2ArchAttr (areaAttr memArea) &&& PAGE_MASK = 0
      ∧ vmAttr2ArchAttr (tableAttr memArea) &&& PAGE_MASK = 0 := by
  unfold areaAttr tableAttr
  constructor
  · split <;> split <;> decide
  · split <;> decide

theorem Finds.toFound (same : SameMemory cfg mmu) {pT : XmU32} {ref : PageRef}
    (finds : Finds cfg pT ref)
    : mmu.Found pT ref := by
  unfold MmuConfig.Found
  rw [same.tables, same.partition]
  exact finds.found

theorem found_target {addr : XmU32} {ref : PageRef} (found : mmu.Found addr ref)
    : ∃ target, mmu.FoundTarget addr target := by
  unfold MmuConfig.FoundTarget findSetTarget
  rw [found, ok_bind]
  exact ⟨_, rfl⟩

/-- A page of an area is memory of the partition. -/
theorem Owns.target (layout : Layout cfg) (same : SameMemory cfg mmu) {addr : XmU32}
    (owns : Owns cfg addr)
    : ∃ target, mmu.FoundTarget addr target := by
  obtain ⟨memArea, member, has⟩ := owns
  obtain ⟨answer, search, _⟩ := pmmFindPage_denotes mmu.inside mmu.aligned mmu.located addr
  unfold MmuConfig.FoundTarget findSetTarget
  rw [search, ok_bind]
  cases answer with
  | some page => exact ⟨_, rfl⟩
  | none =>
      have scanned : (linearScan cfg.areas addr).isSome :=
        List.find?_isSome.mpr ⟨memArea, member, decide_eq_true has⟩
      obtain ⟨found, scan⟩ := Option.isSome_iff_exists.mp scanned
      have area := pmmFindAddr_eq layout.inside layout.areas addr
      unfold SetupConfig.areas at scan
      rw [same.tables, same.partition, area, scan]
      exact ⟨_, rfl⟩

theorem owns_getAddr {addr : XmU32} (owns : Owns cfg addr) : Owns cfg (addr &&& PAGE_MASK) :=
  owns_congr (pageMask_idem addr).symm owns

/-- Every mapping of `SetupPageTable` is of the partition's memory or of what is mapped at boot. -/
theorem admitted_reaches (layout : Layout cfg) (same : SameMemory cfg mmu)
    : Admitted cfg fun mapping => mmu.Reaches cfg.AtBoot (getAddr mapping.entry) := by
  have ofArea {attr : XmcMemoryArea → XmU32}
      (plain : ∀ memArea, vmAttr2ArchAttr (attr memArea) &&& PAGE_MASK = 0)
      (mapping : Mapping) (member : mapping ∈ areaMappings cfg attr)
      : mmu.Reaches cfg.AtBoot (getAddr mapping.entry) := by
    obtain ⟨owns, memArea, flags⟩ := areaMappings_owns layout member
    rw [entry_getAddr (flags ▸ plain memArea)]
    exact Or.inl ((owns_getAddr owns).target layout same)
  refine { areas := ?_, controlTables := ?_, loader := ?_, tables := ?_ }
  · exact ofArea fun memArea => (areaAttr_plain memArea).1
  · intro mapping member
    have plain : vmAttr2ArchAttr (_PG_ATTR_PRESENT ||| _PG_ATTR_USER) &&& PAGE_MASK = 0 := by
      decide
    rw [entry_getAddr ((pagesWhile_mem member).2.1 ▸ plain)]
    exact Or.inr (Or.inr ⟨mapping, List.mem_append_left _ member, rfl⟩)
  · intro mapping member
    rw [entry_getAddr (ldrMappings_flags member)]
    exact Or.inr (Or.inr ⟨mapping, List.mem_append_right _ member, rfl⟩)
  · exact ofArea fun memArea => (areaAttr_plain memArea).2

end Mappings

-----------------------------------------------------------------------------------------
-- The pages of the pool

/-- Where `VAddr2PAddr` finds an address. -/
theorem vAddr2PAddr_area {areas : List XmcMemoryArea} (vAddr : XmU32)
    (proper : ∀ memArea ∈ areas, Parser.Proper memArea.startAddr memArea.size)
    : vAddr2PAddr areas vAddr = ~~~0
      ∨ ∃ memArea ∈ areas, memArea.mappedAt.toNat ≤ vAddr.toNat
        ∧ vAddr.toNat < memArea.mappedAt.toNat + memArea.size.toNat
        ∧ (vAddr2PAddr areas vAddr).toNat
          = memArea.startAddr.toNat + (vAddr.toNat - memArea.mappedAt.toNat) := by
  induction areas with
  | nil => exact Or.inl rfl
  | cons memArea areas ih =>
      unfold vAddr2PAddr
      split
      next inside =>
        obtain ⟨nonempty, fits⟩ := proper memArea List.mem_cons_self
        have one : (1 : XmU32).toNat = 1 := rfl
        have small := vAddr.isLt
        rw [BitVec.le_def, BitVec.le_def, BitVec.toNat_sub, BitVec.toNat_add, one] at inside
        have ends : vAddr.toNat < memArea.mappedAt.toNat + memArea.size.toNat := by omega
        refine Or.inr ⟨memArea, List.mem_cons_self, inside.1, ends, ?_⟩
        rw [BitVec.toNat_add, BitVec.toNat_sub]
        omega
      next =>
        rcases ih fun later member => proper later (List.mem_cons_of_mem _ member) with
          missing | ⟨later, member, found⟩
        · exact Or.inl missing
        · exact Or.inr ⟨later, List.mem_cons_of_mem _ member, found⟩

/-- No page is found at two addresses. -/
theorem vAddr2PAddr_injective {cfg : SetupConfig} (layout : Layout cfg) {vAddr other : XmU32}
    (same : vAddr2PAddr cfg.areas vAddr = vAddr2PAddr cfg.areas other)
    : vAddr2PAddr cfg.areas vAddr = ~~~0 ∨ vAddr = other := by
  rcases vAddr2PAddr_area vAddr layout.areas.proper with missing | found
  · exact Or.inl missing
  rcases vAddr2PAddr_area other layout.areas.proper with missing | found'
  · exact Or.inl (same.trans missing)
  obtain ⟨memArea, member, start, ends, place⟩ := found
  obtain ⟨memArea', member', start', ends', place'⟩ := found'
  refine Or.inr ?_
  rw [same] at place
  have sameArea : memArea = memArea' := by
    by_contra different
    have symmetric : Std.Symm fun a later : XmcMemoryArea =>
        Disjoint (Parser.addresses a.startAddr a.size)
          (Parser.addresses later.startAddr later.size) := ⟨fun _ _ disjoint => disjoint.symm⟩
    have apart := layout.areas.disjoint.forall member member' different
    have first : (vAddr2PAddr cfg.areas other).toNat
        ∈ Parser.addresses memArea.startAddr memArea.size := ⟨by omega, by omega⟩
    have second : (vAddr2PAddr cfg.areas other).toNat
        ∈ Parser.addresses memArea'.startAddr memArea'.size := ⟨by omega, by omega⟩
    exact Set.disjoint_left.mp apart first second
  subst sameArea
  apply BitVec.eq_of_toNat_eq
  omega

/-- What is left of a pool of which pages have been taken. -/
structure Rest (taken pool : Pool) : Prop where
  aligned : PageAligned pool.pgTb
  ends : pool.pgTb + pool.size = taken.pgTb + taken.size
  less : pool.size.toNat ≤ taken.size.toNat
  signed : taken.size.toNat < 2 ^ 31

theorem toNat_of_nonneg {x : XmU32} (nonneg : 0 ≤ x.toInt) : x.toNat < 2 ^ 31 := by
  rw [BitVec.toInt_eq_toNat_cond] at nonneg
  split at nonneg <;> omega

theorem alignTo_of_aligned {pool : Pool} (aligned : PageAligned pool.pgTb)
    : pool.alignTo PTDL1SIZE = pool := by
  have zero : pool.pgTb &&& (PTDL1SIZE - 1) = 0 := and_pageSize_eq_zero.mpr aligned
  unfold Pool.alignTo
  dsimp only
  rw [if_neg (not_not.mpr zero)]

theorem Rest.take {taken pool : Pool} (rest : Rest taken pool)
    (left : 0 ≤ (pool.take PTDL1SIZE PTDL1SIZE).size.toInt)
    : Rest taken (pool.take PTDL1SIZE PTDL1SIZE) := by
  have page : PTDL1SIZE.toNat = 4096 := rfl
  have small := toNat_of_nonneg left
  have signed := rest.signed
  have less := rest.less
  have aligned := rest.aligned
  unfold Pool.take at small ⊢
  rw [alignTo_of_aligned aligned] at small ⊢
  dsimp only at small ⊢
  rw [BitVec.toNat_sub, page] at small
  refine ⟨?_, ?_, ?_, signed⟩
  · change _ % 4096 = 0 at aligned
    change _ % 4096 = 0
    rw [BitVec.toNat_add, page]
    omega
  · rw [← rest.ends]
    apply BitVec.eq_of_toNat_eq
    simp only [BitVec.toNat_add, BitVec.toNat_sub, page]
    omega
  · rw [BitVec.toNat_sub, page]
    omega

/-- No page is taken from the rest of a pool that was taken before. -/
theorem Rest.apart {before pool : Pool}
    (rest : Rest (before.take PTDL1SIZE PTDL1SIZE) pool)
    : (pool.alignTo PTDL1SIZE).pgTb ≠ (before.alignTo PTDL1SIZE).pgTb := by
  have page : PTDL1SIZE.toNat = 4096 := rfl
  rw [alignTo_of_aligned rest.aligned]
  intro same
  have signed := rest.signed
  have less := rest.less
  have ends := congrArg BitVec.toNat rest.ends
  unfold Pool.take at ends signed less
  dsimp only at ends signed less
  rw [BitVec.toNat_add, same] at ends
  simp only [BitVec.toNat_add, page] at ends
  omega

section Pages

variable {cfg : SetupConfig} {rely : Write → Prop}

/-- The word is a cleared one and not the partition's own. -/
def ClearsOwn (cfg : SetupConfig) (w : Write) : Prop :=
  w.clears = true → w.Own cfg

theorem allots_first (pool : Pool)
    : Allots cfg (ClearsOwn cfg) (fun before => before = pool)
      (Rest (pool.take PTDL1SIZE PTDL1SIZE)) fun _ => True where
  next := by
    rintro before rfl left
    refine ⟨?_, rfl, le_refl _, toNat_of_nonneg left⟩
    have aligned := alignTo_aligned before
    have page : PTDL1SIZE.toNat = 4096 := rfl
    unfold Pool.take
    change _ % 4096 = 0 at aligned
    change _ % 4096 = 0
    rw [BitVec.toNat_add, page]
    omega
  page _ _ _ := trivial
  own _ _ _ _ _ _ clears relied _ := relied clears

/-- The pages that are taken after the first are others. -/
theorem allots_others (layout : Layout cfg) (pool : Pool)
    : Allots cfg (ClearsOwn cfg) (Rest (pool.take PTDL1SIZE PTDL1SIZE))
      (Rest (pool.take PTDL1SIZE PTDL1SIZE))
      fun pT => pT = ~~~0 ∨ pT ≠ pool.page cfg where
  next _ rest left := rest.take left
  page later rest _ := by
    by_cases same : later.page cfg = pool.page cfg
    · exact Or.inl ((vAddr2PAddr_injective layout same).resolve_right rest.apart)
    · exact Or.inr same
  own _ _ _ _ _ _ clears relied _ := relied clears

end Pages

-----------------------------------------------------------------------------------------
-- The tables

/-- The tables are sound, and the first level one stays what it is. -/
structure Ordered (cfg : SetupConfig) (mmu : MmuConfig) (root : XmU32) (m : State) : Prop where
  sound : GuestTables mmu cfg.AtBoot m
  root : ∀ ref, Finds cfg root ref → (m.page ref).type = .ptdL1

theorem upkeep_ordered {cfg : SetupConfig} {mmu : MmuConfig} (same : SameMemory cfg mmu)
    (root : XmU32)
    : Upkeep cfg (fun mapping => mmu.Reaches cfg.AtBoot (getAddr mapping.entry)) root
      (fun pT => pT = ~~~0 ∨ pT ≠ root) (FreshPages mmu) (Ordered cfg mmu root) where
  clearsFresh _ _ fresh _ := fresh
  clears m addr ordered word := by
    refine ⟨guestTables_setWord ordered.sound word ?_ ?_, ordered.root⟩
    · exact fun _ present => absurd present absent_zero
    · exact fun _ present => absurd present absent_zero
  root m m' ref fresh finds cleared := by
    refine ⟨guestTables_root fresh finds.aligned (finds.toFound same) cleared, ?_⟩
    intro other finds'
    have this := (finds'.toFound same).unique (finds.toFound same)
    subst this
    rw [cleared.made, if_pos ⟨rfl, rfl⟩]
  table m m' pT ref ordered finds other cleared := by
    refine ⟨guestTables_table ordered.sound finds.aligned (finds.toFound same) cleared, ?_⟩
    intro first finds'
    have apart : root ≠ pT := by
      rcases other with failed | different
      · subst failed
        exact absurd finds.aligned (by decide)
      · exact different.symm
    have different := (finds'.toFound same).apart (finds.toFound same) finds.aligned (by
      rwa [getAddr_of_aligned finds'.aligned])
    rw [cleared.made, if_neg different]
    exact ordered.root first finds'
  directory m pT ref other e ordered finds type aligned inside := by
    have found := finds.toFound same
    have bits : (_PG_ARCH_PRESENT ||| _PG_ARCH_RW : XmU32).toNat < 4096 := by decide
    have points : getAddr (ptdL1Entry pT) = pT := by
      rw [ptdL1Entry, BitVec.or_assoc]
      exact or_offset_page (getAddr_of_aligned finds.aligned) bits
    have small : ptdL1Entry pT &&& _PG_ARCH_PSE = 0 := by
      have page : PAGE_MASK &&& _PG_ARCH_PSE = 0 := by decide
      have flags : _PG_ARCH_PSE &&& (_PG_ARCH_PRESENT ||| _PG_ARCH_RW) = 0 := by decide
      have whole : pT &&& PAGE_MASK = pT := getAddr_of_aligned finds.aligned
      rw [ptdL1Entry, BitVec.or_assoc, BitVec.and_comm, BitVec.and_or_distrib_left, flags, ← whole,
        BitVec.and_comm, BitVec.and_assoc, page]
      simp
    refine ⟨guestTables_setWord ordered.sound (entryAt_word aligned inside) ?_ ?_, ordered.root⟩
    · intro _ _
      rw [points]
      exact Or.inl (found_target found)
    · intro _ _
      exact ⟨small, ref, points.symm ▸ found, type⟩
  entry m pT ref e mapping ordered finds type inside admitted := by
    have page := getAddr_entryAt finds.aligned inside
    refine ⟨guestTables_setWord ordered.sound (entryAt_word finds.aligned inside) ?_ ?_,
      ordered.root⟩
    · exact fun _ _ => admitted
    · rw [page]
      intro table _
      obtain ⟨ref', found, typed⟩ := table.found
      rw [found.unique (finds.toFound same), type] at typed
      cases typed
  count m ref ordered := by
    refine ⟨ordered.sound.untouched (pPagIncCounter_untouched ref m), ?_⟩
    intro first finds
    rw [pPagIncCounter_sameTypes]
    exact ordered.root first finds

/-- A step of the partition, once it runs: one of the hypercalls on pages, as it leaves the tables
sound, or a write of the partition to a page that is no table.
-/
inductive TableStep
  | call (made : PageCall)
  | write (pAddr val : XmU32)

def TableStep.Takes (mmu : MmuConfig) (boot : XmU32 → Prop) (m : State) (step : TableStep)
    (m' : State) : Prop :=
  match step with
  | .call made => made.Own mmu ∧ made.Sound mmu boot m ∧ ∃ ret, made.run mmu m = .ok (ret, m')
  | .write pAddr val => pAddr &&& 3 = 0
      ∧ (∀ ref, mmu.Found pAddr ref → (m.page ref).type = .std) ∧ m' = m.setWord pAddr val

theorem TableStep.Takes.sound {mmu : MmuConfig} {boot : XmU32 → Prop} {m m' : State}
    {step : TableStep} (takes : step.Takes mmu boot m m') (sound : GuestTables mmu boot m)
    : GuestTables mmu boot m' := by
  cases step with
  | call made =>
      obtain ⟨own, soundCall, ret, returned⟩ := takes
      exact sound.call own returned soundCall
  | write pAddr val =>
      obtain ⟨word, notTable, rfl⟩ := takes
      have std {kind : PPagType} (table : mmu.PageOf m (getAddr pAddr) kind) : kind = .std := by
        obtain ⟨ref, found, typed⟩ := table.found
        have here : mmu.Found pAddr ref :=
          (pmmFindPage_congr (getAddr_of_aligned (getAddr_aligned pAddr))).symm.trans found
        exact typed.symm.trans (notTable ref here)
      refine guestTables_setWord sound word ?_ ?_
      · exact fun table => nomatch std table
      · exact fun table => nomatch std table

section Runs

variable {cfg : SetupConfig} {mmu : MmuConfig} {ptdL2 : XmU32 → Nat → XmU32}
  {past : List (CacheCall (Nat × XmU32))} {s s' : SetupState} {pT : XmU32}

/-- A page table that `SetupPageTable` returns is a first level table, and what the tables show is
the partition's own memory or mapped at boot, whatever the pool is and whatever the virtual frames
are used for; and it stays so while the partition runs.
-/
theorem setupPageTable_sound (layout : Layout cfg) (same : SameMemory cfg mmu)
    (run : Reach (CacheNext cfg.frames (descriptors cfg.tables))
      (emptyCache cfg.frames ptdL2) past s.cache)
    (reset : FreshPages mmu s.mem)
    (cleared : (setupPageTable cfg s).Within (ClearsOwn cfg))
    (returned : (setupPageTable cfg s).result = .ok (some pT, s'))
    : mmu.PageOf s'.mem pT .ptdL1
      ∧ ∀ steps m, Reach (fun m step m' => TableStep.Takes mmu cfg.AtBoot m step m') s'.mem steps m
        → GuestTables mmu cfg.AtBoot m := by
  have frames : Frames cfg [] s.cache := ⟨models_of_run run, nofun⟩
  have ready : Ready cfg (fun before => before = s.pool) (FreshPages mmu) [] s :=
    ⟨frames, rfl, reset⟩
  obtain ⟨rfl, ⟨ref, finds⟩, ordered⟩ :=
    (assures_setupPageTable ready layout (allots_first s.pool) (allots_others layout s.pool)
      (upkeep_ordered same (s.pool.page cfg)) (admitted_reaches layout same) cleared).2 _ returned
      _ rfl
  refine ⟨⟨finds.aligned, ref, finds.toFound same, ordered.root ref finds⟩, ?_⟩
  intro steps m reached
  exact reached.invariant ordered.sound fun _ _ _ sound takes => takes.sound sound

end Runs

/-- A region holds the pages of the areas it contains. -/
theorem located_contained {tables : MemoryTables} {memArea : XmcMemoryArea}
    {region : XmcMemoryRegion}
    (entry : tables.xmcMemRegTab[memArea.memoryRegionOffset]? = some region)
    (whole : PageAligned region.startAddr ∧ PageAligned region.size)
    (areaWhole : PageAligned memArea.startAddr ∧ PageAligned memArea.size)
    (proper : Parser.Proper memArea.startAddr memArea.size)
    (contains : Parser.Contains region memArea)
    : Located tables memArea region where
  entry
  pages pAddr aligned start stop := by
    have own : pAddr &&& PAGE_MASK = pAddr := getAddr_of_aligned aligned
    have has := (hasPage_iff areaWhole.1 areaWhole.2 proper pAddr).mpr
    rw [own] at has
    have denotes := ((has ⟨start, stop⟩).contained contains).denotes whole.1 whole.2
    rwa [own] at denotes

/-- A partition of two pages, which are its pool as well. What is mapped besides the areas lies at
the end of the address space, where the loops stop at once.
-/
def pairTables : MemoryTables :=
  { xmcMemRegTab := [Parser.lowMemory, Parser.highMemory]
    xmcPhysMemAreaTab := [⟨0x2000000, 0x2000000, 0x2000, 0, 1⟩] }

def twoFrames : FramePool where
  pgTables e := BitVec.ofNat 32 (4096 * e) ||| 3
  start := 0xFC800000
  frames := 2
  aligned := rfl
  above := by decide
  room := by decide
  present := by decide
  apart := by decide

def pairSetup : SetupConfig where
  tables := pairTables
  partition := ⟨0, 1⟩
  frames := twoFrames
  pctArray := 0xFFFFF000
  pctArraySize := 0x1000
  ldrStack := 0xFFFFF000
  sldr := 0xFFFF0000
  eldr := 0xFFFF1000
  imgStart := 0xFFFFF000
  imgSize := 0x2000
  customFileTab := []

def pairState : SetupState where
  mem :=
    { byte := fun _ => 0
      physPageTab := fun _ _ => { type := .std, counter := 0 }
      ptdL1 := fun _ => 0 }
  cache := emptyCache twoFrames noTables
  pool := { pgTb := 0x2000000, size := 0x2000 }

def pairConfig : MmuConfig where
  tables := pairTables
  partition := ⟨0, 1⟩
  noVCpus := 1
  partCtrlTab := fun _ => (0xFFFFF000, 0x1000)
  pgTables := fun _ => 0
  inside := Nat.le_refl 1
  aligned memArea member := by
    cases List.mem_singleton.mp member
    decide
  located memArea member := by
    cases List.mem_singleton.mp member
    exact ⟨Parser.highMemory, located_contained rfl ⟨by decide, by decide⟩ (by decide) (by decide)
      ⟨by decide, by decide⟩⟩

theorem pairSetup_layout : Layout pairSetup where
  inside := Nat.le_refl 1
  areas := pageRanges_one (a := ⟨0x2000000, 0x2000000, 0x2000, 0, 1⟩) (by decide) (by decide)
  regions := ownTables_regions 1
  contained memArea member := by
    cases List.mem_singleton.mp member
    exact ⟨_, rfl, by decide, by decide⟩
  mappedAt memArea member := by
    cases List.mem_singleton.mp member
    decide
  ends memArea member := by
    cases List.mem_singleton.mp member
    decide
  behind := by decide

theorem pairState_owned : PoolOwned pairSetup pairState.pool where
  signed := by decide
  below := by decide
  own page aligned start stop := by
    have pool : pairState.pool.pgTb.toNat = 0x2000000 := rfl
    have size : pairState.pool.size.toNat = 0x2000 := rfl
    have pageSize : PAGE_SIZE.toNat = 4096 := rfl
    refine ⟨⟨0x2000000, 0x2000000, 0x2000, 0, 1⟩, List.mem_singleton.mpr rfl, ?_⟩
    change _ % 4096 = 0 at aligned
    unfold HasPage
    rw [pageSize] at stop ⊢
    change 0x2000000 ≤ _ ∧ _ ≤ 0x2000000 + 0x2000
    omega

theorem setupPageTable_sound_pair
    : ∃ s', (setupPageTable pairSetup pairState).result = .ok (some 0x2000000, s')
        ∧ pairConfig.PageOf s'.mem 0x2000000 .ptdL1
        ∧ GuestTables pairConfig pairSetup.AtBoot s'.mem := by
  have unused : Reach (CacheNext pairSetup.frames (descriptors pairSetup.tables))
      (emptyCache pairSetup.frames noTables) [] pairState.cache := .start
  have same : SameMemory pairSetup pairConfig := ⟨rfl, rfl⟩
  have frames : Frames pairSetup [] pairState.cache := ⟨models_of_run unused, nofun⟩
  have cleared : (setupPageTable pairSetup pairState).Within (ClearsOwn pairSetup) :=
    fun w member _ => owned_writes pairSetup_layout frames pairState_owned w member
  have table : (setupPageTable pairSetup pairState).result.map Prod.fst
      = .ok (some 0x2000000) := by
    decide +kernel
  obtain ⟨⟨_, s'⟩, returned, rfl⟩ := map_eq_ok.mp table
  obtain ⟨root, runs⟩ :=
    setupPageTable_sound pairSetup_layout same unused (fun _ _ _ => rfl) cleared returned
  exact ⟨s', returned, root, runs [] s'.mem .start⟩

end XtratuM.TableSetup
