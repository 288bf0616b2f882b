import XtratuM.Mmu.SetupSteps

/-! What `SetupPageTable` writes: everything but the clearing of the pool goes to pages of the
partition, whatever the pool is.
-/

namespace XtratuM.TableSetup

open Guest (CONFIG_XM_OFFSET)
open Tracked
open Mmu PageCache

/-- The whole pages of the pool are the partition's own, and lie below the hypervisor. The size is
not negative as the signed number that it is compared as.
-/
structure PoolOwned (cfg : SetupConfig) (pool : Pool) : Prop where
  signed : pool.size.toNat < 2 ^ 31
  below : pool.pgTb.toNat + pool.size.toNat ≤ CONFIG_XM_OFFSET.toNat
  own : ∀ page, PageAligned page → pool.pgTb.toNat ≤ page.toNat →
    page.toNat + PAGE_SIZE.toNat ≤ pool.pgTb.toNat + pool.size.toNat → Owns cfg page

/-- What is skipped to align the pool is less than a page. -/
theorem alignTo_skips (pool : Pool)
    : ∃ skipped : XmU32, skipped.toNat < 4096
        ∧ pool.alignTo PTDL1SIZE
          = { pgTb := pool.pgTb + skipped, size := pool.size - skipped } := by
  have page : PTDL1SIZE.toNat = 4096 := rfl
  have behind : (pool.pgTb &&& (PTDL1SIZE - 1)).toNat = pool.pgTb.toNat % 4096 :=
    offset_toNat pool.pgTb
  have masked : (pool.pgTb &&& ~~~(PTDL1SIZE - 1)).toNat = pool.pgTb.toNat / 4096 * 4096 :=
    address_page pool.pgTb
  unfold Pool.alignTo
  dsimp only
  by_cases whole : pool.pgTb &&& (PTDL1SIZE - 1) = 0
  · refine ⟨0, by decide, ?_⟩
    rw [if_neg (not_not.mpr whole)]
    simp
  · have inside : pool.pgTb.toNat % 4096 ≠ 0 := by
      rw [← behind]
      exact fun zero => whole (BitVec.eq_of_toNat_eq zero)
    refine ⟨PTDL1SIZE - (pool.pgTb &&& (PTDL1SIZE - 1)), ?_, ?_⟩
    · rw [BitVec.toNat_sub, behind, page]
      omega
    · have next : PTDL1SIZE + (pool.pgTb &&& ~~~(PTDL1SIZE - 1))
          = pool.pgTb + (PTDL1SIZE - (pool.pgTb &&& (PTDL1SIZE - 1))) := by
        apply BitVec.eq_of_toNat_eq
        rw [BitVec.toNat_add, BitVec.toNat_add, BitVec.toNat_sub, behind, masked, page]
        omega
      rw [if_pos whole, next]

/-- A pool that a page can be taken from. -/
theorem take_fits {pool : Pool} (signed : pool.size.toNat < 2 ^ 31)
    (below : pool.pgTb.toNat + pool.size.toNat ≤ CONFIG_XM_OFFSET.toNat)
    (left : 0 ≤ (pool.take PTDL1SIZE PTDL1SIZE).size.toInt)
    : ∃ skipped < 4096, skipped + 4096 ≤ pool.size.toNat
        ∧ (pool.alignTo PTDL1SIZE).pgTb.toNat = pool.pgTb.toNat + skipped
        ∧ (pool.take PTDL1SIZE PTDL1SIZE).pgTb.toNat = pool.pgTb.toNat + skipped + 4096
        ∧ (pool.take PTDL1SIZE PTDL1SIZE).size.toNat = pool.size.toNat - skipped - 4096 := by
  have page : PTDL1SIZE.toNat = 4096 := rfl
  have offset : CONFIG_XM_OFFSET.toNat = 0xFC000000 := rfl
  obtain ⟨skipped, small, aligned⟩ := alignTo_skips pool
  rw [BitVec.toInt_eq_toNat_cond] at left
  unfold Pool.take at left ⊢
  rw [aligned] at left ⊢
  have rest : (pool.size - skipped - PTDL1SIZE).toNat
      = (pool.size.toNat + (2 ^ 32 - skipped.toNat) + (2 ^ 32 - 4096)) % 2 ^ 32 := by
    rw [BitVec.toNat_sub, BitVec.toNat_sub, page]
    omega
  dsimp only at left ⊢
  rw [rest] at left ⊢
  have fits : skipped.toNat + 4096 ≤ pool.size.toNat := by
    by_contra short
    rw [if_neg (by omega)] at left
    omega
  refine ⟨skipped.toNat, small, fits, ?_, ?_, ?_⟩
  · rw [BitVec.toNat_add]
    omega
  · rw [BitVec.toNat_add, BitVec.toNat_add, page]
    omega
  · omega

/-- Nothing is kept about the memory. -/
theorem upkeep_nothing (cfg : SetupConfig) (root : XmU32)
    : Upkeep cfg (fun _ => True) root (fun _ => True) (fun _ => True) fun _ => True where
  clearsFresh _ _ _ _ := trivial
  clears _ _ _ _ := trivial
  root _ _ _ _ _ _ := trivial
  table _ _ _ _ _ _ _ _ := trivial
  directory _ _ _ _ _ _ _ _ _ _ := trivial
  entry _ _ _ _ _ _ _ _ _ _ := trivial
  count _ _ _ := trivial

theorem admitted_all (cfg : SetupConfig) : Admitted cfg fun _ => True where
  areas _ _ := trivial
  controlTables _ _ := trivial
  loader _ _ := trivial
  tables _ _ := trivial

section Allots

variable {cfg : SetupConfig}

/-- The pool can be anything when all that is cleared is own. -/
theorem allots_any
    : Allots cfg (fun w => w.clears = true → w.Own cfg) (fun _ => True) (fun _ => True)
      fun _ => True where
  next _ _ _ := trivial
  page _ _ _ := trivial
  own _ _ _ _ _ _ clears relied _ := relied clears

/-- Nothing has to be relied on when the pool is the partition's own. -/
theorem allots_owned
    : Allots cfg (fun _ => True) (PoolOwned cfg) (PoolOwned cfg) fun _ => True where
  next pool owned left := by
    obtain ⟨skipped, _, fits, _, next, size⟩ := take_fits owned.signed owned.below left
    have signed := owned.signed
    have below := owned.below
    refine ⟨by omega, by omega, ?_⟩
    intro page aligned start stop
    exact owned.own page aligned (by omega) (by omega)
  page _ _ _ := trivial
  own pool owned left k inside w _ _ placed := by
    obtain ⟨skipped, _, fits, start, _, _⟩ := take_fits owned.signed owned.below left
    have below := owned.below
    have limit : CONFIG_XM_OFFSET.toNat = 0xFC000000 := rfl
    have size : PAGE_SIZE.toNat = 4096 := rfl
    have aligned := alignTo_aligned pool
    have place : (pool.word k).toNat = (pool.alignTo PTDL1SIZE).pgTb.toNat + 4 * k :=
      entryAt_toNat aligned inside
    have under : pool.word k ≤ CONFIG_XM_OFFSET := by
      rw [BitVec.le_def]
      omega
    rw [Write.Own, placed under]
    have owns := owned.own _ aligned (by omega) (by omega)
    exact @own_entryAt cfg _ k true aligned owns inside

end Allots

section Clears

variable {cfg : SetupConfig} {held : List XmU32} {s : SetupState} {P : Write → Prop}

/-- A word that is cleared at its physical address. -/
theorem clear_writes {addr : XmU32} {after : SetupState} (frames : Frames cfg held s.cache)
    (layout : Layout cfg) (under : addr ≤ CONFIG_XM_OFFSET)
    (returned : (writeByPassMmuWord cfg true addr 0 s).result = .ok after)
    (all : (writeByPassMmuWord cfg true addr 0 s).Within P)
    : P { clears := true, place := addr } := by
  unfold writeByPassMmuWord at returned all
  rw [if_neg (BitVec.not_lt.mpr under)] at returned all
  rw [result_bind] at returned
  obtain ⟨found, looked, returned⟩ := bind_eq_ok.mp returned
  replace all := (within_bind.mp all).2 found looked
  cases found with
  | none => cases returned
  | some page =>
      dsimp only at returned all
      rw [result_bind] at returned
      obtain ⟨⟨vAddr, mapped⟩, ran, returned⟩ := bind_eq_ok.mp returned
      replace all := (within_bind.mp ((within_bind.mp all).2 _ ran)).1
      obtain ⟨_, base, rfl, shown, _⟩ :=
        frames.mapPage (pmmFindAnonymousPage_frame layout looked) ran
      have inside : (addr &&& (PAGE_SIZE - 1)).toNat < 4096 := by
        rw [offset_toNat]
        omega
      unfold store at all
      rw [shown.place inside, page_or_offset] at all
      exact within_access.mp all

/-- The first word that `AllocMem` clears. -/
theorem allocMem_clears {allocated : XmU32 × SetupState} (frames : Frames cfg held s.cache)
    (layout : Layout cfg) (left : 0 ≤ (s.pool.take PTDL1SIZE PTDL1SIZE).size.toInt)
    (under : s.pool.word 0 ≤ CONFIG_XM_OFFSET)
    (returned : (allocMem cfg PTDL1SIZE PTDL1SIZE s).result = .ok allocated)
    (all : (allocMem cfg PTDL1SIZE PTDL1SIZE s).Within P)
    : P { clears := true, place := s.pool.word 0 } := by
  have start : s.pool.word 0 = (s.pool.alignTo PTDL1SIZE).pgTb := by
    unfold Pool.word
    exact BitVec.add_zero _
  have words : PTDL1SIZE.toNat / 4 = 1023 + 1 := rfl
  have taken : Frames cfg held
      { s with pool := s.pool.take PTDL1SIZE PTDL1SIZE }.cache := frames
  unfold allocMem at returned all
  dsimp only at returned all
  rw [if_neg (not_lt.mpr left), words] at returned all
  rw [result_bind] at returned
  obtain ⟨cleared, ran, _⟩ := bind_eq_ok.mp returned
  replace all := (within_bind.mp all).1
  unfold forWords at ran all
  rw [result_bind] at ran
  obtain ⟨first, wrote, _⟩ := bind_eq_ok.mp ran
  rw [start] at under ⊢
  exact clear_writes taken layout under wrote (within_bind.mp all).1

end Clears

section Runs

variable {cfg : SetupConfig} {ptdL2 : XmU32 → Nat → XmU32}
  {past : List (CacheCall (Nat × XmU32))} {s : SetupState}

/-- From a pool of the partition nothing else is written. -/
theorem owned_writes (layout : Layout cfg) (frames : Frames cfg [] s.cache)
    (owned : PoolOwned cfg s.pool)
    : (setupPageTable cfg s).Within (Write.Own cfg) := by
  have ready : Ready cfg (PoolOwned cfg) (fun _ => True) [] s := ⟨frames, owned, trivial⟩
  exact (assures_setupPageTable ready layout allots_owned allots_owned
    (upkeep_nothing cfg (s.pool.page cfg)) (admitted_all cfg) fun _ _ => trivial).1

end Runs

/-- A partition at 32 MB, whose image gives the start of the hypervisor's memory as its pool. -/
def foreignSetup : SetupConfig where
  tables := ownTables 1
  partition := ⟨1, 1⟩
  frames := oneFrame
  pctArray := 0x1300000
  pctArraySize := 0x1000
  ldrStack := 0x1301000
  sldr := 0x1320000
  eldr := 0x1330000
  imgStart := 0x1400000
  imgSize := 0x1000
  customFileTab := []

def foreignPool : SetupState where
  mem :=
    { byte := fun _ => 0
      physPageTab := fun _ _ => { type := .std, counter := 0 }
      ptdL1 := fun _ => 0 }
  cache := emptyCache oneFrame noTables
  pool := { pgTb := 0x1000000, size := 0x1000 }

theorem foreignSetup_layout : Layout foreignSetup where
  inside := Nat.le_refl 2
  areas := ownTables_areas 1
  regions := ownTables_regions 1
  contained memArea member := by
    cases List.mem_singleton.mp member
    exact ⟨_, rfl, by decide, by decide⟩
  mappedAt memArea member := by
    cases List.mem_singleton.mp member
    decide
  ends memArea member := by
    cases List.mem_singleton.mp member
    decide
  behind := by decide

end XtratuM.TableSetup
