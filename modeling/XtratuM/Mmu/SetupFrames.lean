import XtratuM.Mmu.TableSetup

/-! Which pages the virtual frames show that `SetupPageTable` writes to, as it maps and unlocks
pages of the partition.
-/

namespace XtratuM.TableSetup

open Guest (CONFIG_XM_OFFSET)
open XtratuM.Parser (Contains)
open UserPages (va2PtdL1 va2PtdL2)
open Mmu PageCache

/-- The page of an address lies in an area of the partition. -/
def Owns (cfg : SetupConfig) (addr : XmU32) : Prop :=
  ∃ memArea ∈ cfg.areas, HasPage memArea.startAddr memArea.size addr

/-- The memory of a configuration: whole pages in areas without overlap, which lie in the regions
they name and end before the address space does. The virtual frames lie behind the first page of
the hypervisor.
-/
structure Layout (cfg : SetupConfig) : Prop where
  inside : cfg.partition.Inside cfg.tables
  areas : PageRanges XmcMemoryArea.startAddr XmcMemoryArea.size cfg.areas
  regions : PageRanges XmcMemoryRegion.startAddr XmcMemoryRegion.size cfg.tables.xmcMemRegTab
  contained : ∀ memArea ∈ cfg.areas, ∃ region,
    cfg.tables.xmcMemRegTab[memArea.memoryRegionOffset]? = some region ∧ Contains region memArea
  mappedAt : ∀ memArea ∈ cfg.areas, PageAligned memArea.mappedAt
  ends : ∀ memArea ∈ cfg.areas, memArea.startAddr.toNat + memArea.size.toNat < 2 ^ 32
  behind : CONFIG_XM_OFFSET < cfg.frames.start

theorem pageMask_idem (addr : XmU32) : (addr &&& PAGE_MASK) &&& PAGE_MASK = addr &&& PAGE_MASK := by
  rw [BitVec.and_assoc, BitVec.and_self]

/-- The page frames of the entries of `physPageTab`. -/
def descriptors (tables : MemoryTables) : PhysPages (Nat × XmU32) where
  frame p :=
    ((tables.xmcMemRegTab[p.1]?.map fun region => region.startAddr + p.2 <<< PAGE_SHIFT).getD 0)
      &&& PAGE_MASK
  whole _ := pageMask_idem _

-----------------------------------------------------------------------------------------
-- The searches

/-- The entry of a region for a page that it has. -/
theorem descriptors_frame {tables : MemoryTables} {i : Nat} {region : XmcMemoryRegion}
    {pAddr : XmU32} (entry : tables.xmcMemRegTab[i]? = some region)
    (denotes : region.Denotes (pAddr &&& PAGE_MASK))
    : pAddr &&& PAGE_MASK
      = (descriptors tables).frame (i, region.pageOf (pAddr &&& PAGE_MASK)) := by
  obtain ⟨below, position⟩ := denotes
  have pageSize : PAGE_SIZE.toNat = 4096 := rfl
  have bound := (pAddr &&& PAGE_MASK).isLt
  have sum : region.startAddr + region.pageOf (pAddr &&& PAGE_MASK) <<< PAGE_SHIFT
      = pAddr &&& PAGE_MASK := by
    apply BitVec.eq_of_toNat_eq
    rw [BitVec.toNat_add, BitVec.toNat_shiftLeft, Nat.shiftLeft_eq, ← position, pageSize]
    have power : 2 ^ PAGE_SHIFT = 4096 := rfl
    rw [power]
    rw [pageSize] at position
    omega
  unfold descriptors
  simp only [entry, Option.map_some, Option.getD_some, sum]
  exact (pageMask_idem pAddr).symm

section Searches

variable {cfg : SetupConfig} (layout : Layout cfg) {pAddr : XmU32}

include layout

/-- What `PmmFindPage` finds is a page of the partition. -/
theorem pmmFindPage_owns {ref : PageRef}
    (found : pmmFindPage cfg.tables cfg.partition pAddr = .ok (some ref))
    : Owns cfg pAddr ∧ pAddr &&& PAGE_MASK = (descriptors cfg.tables).frame (physPage ref) := by
  cases scanned : linearScan cfg.areas pAddr with
  | none =>
      rw [pmmFindPage_none layout.inside layout.areas scanned] at found
      cases found
  | some memArea =>
      obtain ⟨member, has⟩ := linearScan_some scanned
      obtain ⟨region, entry, contains⟩ := layout.contained memArea member
      obtain ⟨start, pages⟩ := layout.regions.aligned region (List.mem_of_getElem? entry)
      have denotes := (has.contained contains).denotes start pages
      rw [pmmFindPage_eq layout.inside layout.areas scanned entry] at found
      split at found
      · cases found
      · cases found
        exact ⟨⟨memArea, member, has⟩, descriptors_frame entry denotes⟩

/-- What `PmmFindAnonymousPage` finds is the page of the address. -/
theorem pmmFindAnonymousPage_frame {p : Nat × XmU32}
    (found : pmmFindAnonymousPage cfg.tables pAddr = .ok (some p))
    : pAddr &&& PAGE_MASK = (descriptors cfg.tables).frame p := by
  have scanned := Except.ok.inj ((pmmFindAnonymousPage_eq layout.regions pAddr).symm.trans found)
  obtain ⟨entry, here, page⟩ := Option.bind_eq_some_iff.mp scanned
  split at page
  · cases page
  · cases page
    have there := List.mem_zipIdx_iff_getElem?.mp (List.mem_of_find?_eq_some here)
    have has : HasPage entry.1.startAddr entry.1.size pAddr :=
      of_decide_eq_true (List.find?_some here :)
    obtain ⟨start, pages⟩ := layout.regions.aligned entry.1 (List.mem_of_getElem? there)
    exact descriptors_frame there (has.denotes start pages)

/-- No page of the partition is the last one of the address space. -/
theorem pmmFindPage_failed : pmmFindPage cfg.tables cfg.partition (~~~0) = .ok none := by
  cases scanned : linearScan cfg.areas (~~~0) with
  | none => exact pmmFindPage_none layout.inside layout.areas scanned
  | some memArea =>
      obtain ⟨member, has⟩ := linearScan_some scanned
      have ends := layout.ends memArea member
      have last := has.2
      have size : PAGE_SIZE.toNat = 4096 := rfl
      have top : (~~~0 : XmU32).toNat = 2 ^ 32 - 1 := rfl
      rw [size, top] at last
      omega

end Searches

-----------------------------------------------------------------------------------------
-- Frames of the cache

section Frames

variable {pool : FramePool} {s s' : VCache (Nat × XmU32)}

/-- The page that a frame of the pool shows. -/
def Shows (pool : FramePool) (s : VCache (Nat × XmU32)) (vAddr frame : XmU32) : Prop :=
  ∃ i < pool.frames, vAddr = pool.addr i ∧ PageCache.translate pool.pgTables s vAddr = some frame

theorem frameFor_ptdL2 {p : Nat × XmU32} {noFree : Int}
    (given : frameFor p noFree s = .ok s') : s'.ptdL2 = s.ptdL2 := by
  unfold frameFor at given
  split at given
  · obtain ⟨⟨victim, lists⟩, _, rest⟩ := bind_eq_ok.mp given
    cases victim with
    | none => cases rest
    | some victim =>
        cases rest
        rfl
  · obtain ⟨⟨vAddr, t⟩, allocated, rest⟩ := bind_eq_ok.mp given
    cases rest
    unfold vmmAlloc at allocated
    split at allocated
    · cases allocated
      rfl
    · obtain ⟨_, _, rest⟩ := bind_eq_ok.mp allocated
      cases rest
      rfl

theorem translate_congr (same : s'.ptdL2 = s.ptdL2) (vAddr : XmU32)
    : PageCache.translate pool.pgTables s' vAddr = PageCache.translate pool.pgTables s vAddr := by
  unfold PageCache.translate
  rw [same]

theorem mapFrame_elsewhere {p : Nat × XmU32} {pAddr vAddr : XmU32} {i j : Nat}
    (insideI : i < pool.frames) (insideJ : j < pool.frames) (other : j ≠ i)
    (mapped : mapFrame pool.pgTables pAddr p s = .ok (vAddr, s'))
    (here : (s'.page p).vAddr = pool.addr i)
    : PageCache.translate pool.pgTables s' (pool.addr j)
      = PageCache.translate pool.pgTables s (pool.addr j) := by
  obtain ⟨s₁, mapping, returned⟩ := bind_eq_ok.mp mapped
  cases returned
  have moved : s'.page = (s.setMapped p).page := by
    obtain ⟨_, _, mapping⟩ := bind_eq_ok.mp mapping
    obtain ⟨_, _, mapping⟩ := bind_eq_ok.mp mapping
    obtain ⟨_, _, mapping⟩ := bind_eq_ok.mp mapping
    obtain ⟨_, _, mapping⟩ := bind_eq_ok.mp mapping
    cases mapping
    rfl
  obtain ⟨ptdL2, ran, _, elsewhere⟩ := vmMapPage_pool pool pAddr insideI (s.setMapped p)
  rw [← moved, here] at mapping
  cases Except.ok.inj (mapping.symm.trans ran)
  exact elsewhere j insideJ other

/-- `VCacheMapPage` changes the translation of no frame but the one it returns. -/
theorem vCacheMapPage_elsewhere {p : Nat × XmU32} {pAddr vAddr : XmU32} {i j : Nat}
    (insideI : i < pool.frames) (insideJ : j < pool.frames) (other : j ≠ i)
    (mapped : vCacheMapPage pool.pgTables pAddr p s = .ok (vAddr, s'))
    (here : (s'.page p).vAddr = pool.addr i)
    : PageCache.translate pool.pgTables s' (pool.addr j)
      = PageCache.translate pool.pgTables s (pool.addr j) := by
  unfold vCacheMapPage at mapped
  split at mapped
  next =>
    cases mapped
    rfl
  next =>
    obtain ⟨noFree, _, mapped⟩ := bind_eq_ok.mp mapped
    obtain ⟨s₁, given, mapped⟩ := bind_eq_ok.mp mapped
    rw [mapFrame_elsewhere insideI insideJ other mapped here]
    exact translate_congr (frameFor_ptdL2 given) _

/-- A page that is mapped is at a frame of the pool, and the other frames show what they did. -/
theorem vCacheMapPage_shows {pages : PhysPages (Nat × XmU32)}
    {c : SlotCache.Cache (Nat × XmU32)} (models : Models pool pages.frame s c)
    {p : Nat × XmU32} {pAddr vAddr : XmU32} (own : pAddr &&& PAGE_MASK = pages.frame p)
    (mapped : vCacheMapPage pool.pgTables pAddr p s = .ok (vAddr, s'))
    : ∃ c' base, Models pool pages.frame s' c'
        ∧ vAddr = base + (pAddr &&& (PAGE_SIZE - 1)) ∧ Shows pool s' base (pages.frame p)
        ∧ ∀ other frame, Shows pool s other frame →
          Shows pool s' other frame ∨ Shows pool s' other (pages.frame p) := by
  rcases models.vCacheMapPage own with ⟨t, c', ran, fetched, models'⟩ | ⟨stops, _⟩
  · have same := Except.ok.inj (ran.symm.trans mapped)
    have states : t = s' := congrArg Prod.snd same
    subst states
    obtain ⟨i, slot⟩ := SlotCache.fetch_slot models.sound fetched
    have inside := models'.inside slot
    have here := models'.vAddr p i slot
    have shown : Shows pool t (pool.addr i) (pages.frame p) :=
      ⟨i, inside, rfl, models'.own p i slot⟩
    have address : vAddr = pool.addr i + (pAddr &&& (PAGE_SIZE - 1)) := by
      rw [← here]
      exact (congrArg Prod.fst same).symm
    refine ⟨c', pool.addr i, models', address, shown, ?_⟩
    rintro other frame ⟨j, insideJ, rfl, before⟩
    by_cases again : j = i
    · exact Or.inr (again ▸ shown)
    · have after := vCacheMapPage_elsewhere inside insideJ again mapped here
      exact Or.inl ⟨j, insideJ, rfl, after.trans before⟩
  · cases stops.symm.trans mapped

theorem vCacheUnlockPage_shows {pages : PhysPages (Nat × XmU32)}
    {c : SlotCache.Cache (Nat × XmU32)} (models : Models pool pages.frame s c)
    {p : Nat × XmU32} (unlocked : vCacheUnlockPage p s = .ok s')
    : ∃ c', Models pool pages.frame s' c'
        ∧ ∀ other frame, Shows pool s other frame → Shows pool s' other frame := by
  rcases models.vCacheUnlockPage p with ⟨t, c', ran, _, models'⟩ | ⟨stops, _⟩
  · cases Except.ok.inj (ran.symm.trans unlocked)
    refine ⟨c', models', ?_⟩
    rintro other frame ⟨j, inside, same, shown⟩
    refine ⟨j, inside, same, ?_⟩
    have kept : s'.ptdL2 = s.ptdL2 := by
      unfold vCacheUnlockPage at unlocked
      obtain ⟨_, _, unlocked⟩ := bind_eq_ok.mp unlocked
      split at unlocked
      · cases unlocked
        rfl
      · obtain ⟨lists, _, unlocked⟩ := bind_eq_ok.mp unlocked
        cases unlocked
        rfl
    rw [translate_congr kept, shown]
  · cases stops.symm.trans unlocked

end Frames

-----------------------------------------------------------------------------------------
-- Words of a frame

theorem owns_congr {cfg : SetupConfig} {addr other : XmU32}
    (page : addr &&& PAGE_MASK = other &&& PAGE_MASK) (owns : Owns cfg addr)
    : Owns cfg other := by
  obtain ⟨memArea, member, has⟩ := owns
  have same := congrArg BitVec.toNat page
  rw [address_page, address_page] at same
  refine ⟨memArea, member, ?_⟩
  unfold HasPage at has ⊢
  rwa [← same]

theorem Shows.whole {pool : FramePool} {s : VCache (Nat × XmU32)} {base frame : XmU32}
    (shown : Shows pool s base frame)
    : frame &&& PAGE_MASK = frame := by
  obtain ⟨i, inside, rfl, translated⟩ := shown
  rw [translate_pool pool inside] at translated
  unfold entryFrame at translated
  split at translated
  · cases translated
    exact pageMask_idem _
  · cases translated

theorem Shows.translate {pool : FramePool} {s : VCache (Nat × XmU32)} {base frame off : XmU32}
    (shown : Shows pool s base frame) (inside : off.toNat < 4096)
    : PageCache.translate pool.pgTables s (base + off) = some frame := by
  obtain ⟨i, insideI, rfl, translated⟩ := shown
  have aligned : (pool.addr i).toNat % 4096 = 0 := pool.addr_aligned insideI
  have room := pool.room
  have start := pool.addr_toNat insideI
  have sum : (pool.addr i + off).toNat = (pool.addr i).toNat + off.toNat := by
    rw [BitVec.toNat_add]
    omega
  have first : va2PtdL1 (pool.addr i + off) = va2PtdL1 (pool.addr i) := by
    rw [va2PtdL1_eq, va2PtdL1_eq, sum]
    omega
  have second : va2PtdL2 (pool.addr i + off) = va2PtdL2 (pool.addr i) := by
    rw [va2PtdL2_eq, va2PtdL2_eq, sum]
    omega
  have noPse : ¬ pool.pgTables (va2PtdL1 (pool.addr i)) &&& _PG_ARCH_PSE ≠ 0 :=
    not_not.mpr (pool.present i insideI).2
  unfold PageCache.translate at translated ⊢
  dsimp only at translated ⊢
  rw [first, second]
  rw [if_neg noPse] at translated ⊢
  exact translated

/-- The frames are behind the first page of the hypervisor. -/
theorem Shows.above {cfg : SetupConfig} {s : VCache (Nat × XmU32)} {base frame off : XmU32}
    (layout : Layout cfg) (shown : Shows cfg.frames s base frame) (inside : off.toNat < 4096)
    : CONFIG_XM_OFFSET < base + off := by
  obtain ⟨i, insideI, rfl, _⟩ := shown
  have aligned : (cfg.frames.addr i).toNat % 4096 = 0 := cfg.frames.addr_aligned insideI
  have room := cfg.frames.room
  have start := cfg.frames.addr_toNat insideI
  have behind := BitVec.lt_def.mp layout.behind
  rw [BitVec.lt_def, BitVec.toNat_add]
  omega

theorem offset_toNat (addr : XmU32) : (addr &&& (PAGE_SIZE - 1)).toNat = addr.toNat % 4096 := by
  have ones : (PAGE_SIZE - 1).toNat = 2 ^ 12 - 1 := rfl
  rw [BitVec.toNat_and, ones, Nat.and_two_pow_sub_one_eq_mod]

/-- A word of a page, as it is reached through the page's frame. -/
theorem Shows.place {cfg : SetupConfig} {s : SetupState} {base frame off : XmU32}
    (shown : Shows cfg.frames s.cache base frame) (inside : off.toNat < 4096)
    : place cfg s (base + off) = some (frame ||| off) := by
  have offset : base + off &&& (PAGE_SIZE - 1) = off := by
    obtain ⟨i, insideI, rfl, _⟩ := shown
    have aligned : (cfg.frames.addr i).toNat % 4096 = 0 := cfg.frames.addr_aligned insideI
    apply BitVec.eq_of_toNat_eq
    rw [offset_toNat, BitVec.toNat_add]
    omega
  unfold TableSetup.place
  rw [shown.translate inside, offset]
  rfl

theorem offset_page {off : XmU32} (inside : off.toNat < 4096) : off &&& PAGE_MASK = 0 := by
  apply BitVec.eq_of_toNat_eq
  have masked : (off &&& PAGE_MASK).toNat = off.toNat / 4096 * 4096 := address_page off
  rw [masked]
  change _ = 0
  omega

theorem or_offset_page {frame off : XmU32} (whole : frame &&& PAGE_MASK = frame)
    (inside : off.toNat < 4096)
    : (frame ||| off) &&& PAGE_MASK = frame := by
  rw [BitVec.and_comm, BitVec.and_or_distrib_left, BitVec.and_comm, BitVec.and_comm PAGE_MASK off,
    offset_page inside, whole]
  exact BitVec.or_zero

theorem page_or_offset (addr : XmU32)
    : (addr &&& PAGE_MASK) ||| (addr &&& (PAGE_SIZE - 1)) = addr := by
  have ones : PAGE_MASK ||| (PAGE_SIZE - 1) = BitVec.allOnes 32 := by decide
  rw [← BitVec.and_or_distrib_left, ones, BitVec.and_allOnes]

end XtratuM.TableSetup
