import XtratuM.Library.AssuredAccesses
import XtratuM.Mmu.SetupFrames
import XtratuM.Mmu.TableWrites

/-! The steps of `SetupPageTable`: what is written, and what is kept about the pool and about the
memory. Both are parameters here, with what each step has to do for them.
-/

namespace XtratuM.TableSetup

open Guest (CONFIG_XM_OFFSET)
open Tracked
open UserPages (PTDL1ENTRIES PPagType ptdL1Entry va2PtdL1 va2PtdL2)
open Mmu PageCache

-----------------------------------------------------------------------------------------
-- What is kept

/-- The frames that are held show pages of the partition. -/
structure Frames (cfg : SetupConfig) (held : List XmU32) (cache : VCache (Nat × XmU32))
    : Prop where
  models : ∃ c, Models cfg.frames (descriptors cfg.tables).frame cache c
  shown : ∀ base ∈ held, ∃ frame, Shows cfg.frames cache base frame ∧ Owns cfg frame

/-- The frames are held, the pool is of a kind and the memory in order. -/
structure Ready (cfg : SetupConfig) (kind : Pool → Prop) (order : State → Prop)
    (held : List XmU32) (s : SetupState) : Prop where
  frames : Frames cfg held s.cache
  pool : kind s.pool
  mem : order s.mem

/-- The page is the one of a descriptor. -/
structure Finds (cfg : SetupConfig) (pT : XmU32) (ref : PageRef) : Prop where
  aligned : PageAligned pT
  found : pmmFindPage cfg.tables cfg.partition pT = .ok (some ref)

/-- The first entries of a page are cleared, and nothing else changes. -/
structure Cleared (n : Nat) (page : XmU32) (m m' : State) : Prop where
  entry : ∀ other e, PageAligned other → e < PTDL2ENTRIES →
    m'.entry other e = if other = page ∧ e < n then 0 else m.entry other e
  types : m'.physPageTab = m.physPageTab

/-- The state but for the first entries of a page, which are cleared. -/
def ClearedTo (page : XmU32) (s : SetupState) (n : Nat) (s' : SetupState) : Prop :=
  s' = { s with mem := s'.mem } ∧ Cleared n page s.mem s'.mem

/-- The word written lies in a page of the partition. -/
def Write.Own (cfg : SetupConfig) (w : Write) : Prop :=
  Owns cfg w.place

/-- Word `k` of the page that `AllocMem` takes. -/
def Pool.word (pool : Pool) (k : Nat) : XmU32 :=
  (pool.alignTo PTDL1SIZE).pgTb + BitVec.ofNat 32 (4 * k)

/-- The page that `AllocMem` returns. -/
def Pool.page (cfg : SetupConfig) (pool : Pool) : XmU32 :=
  vAddr2PAddr cfg.areas (pool.alignTo PTDL1SIZE).pgTb

/-- What is relied on to allocate pages from a pool of a kind: what is cleared is own, at the
physical address that it has unless the hypervisor reaches it at the address itself.
-/
structure Allots (cfg : SetupConfig) (rely : Write → Prop) (kind later : Pool → Prop)
    (page : XmU32 → Prop) : Prop where
  next : ∀ pool, kind pool → 0 ≤ (pool.take PTDL1SIZE PTDL1SIZE).size.toInt →
    later (pool.take PTDL1SIZE PTDL1SIZE)
  page : ∀ pool, kind pool → 0 ≤ (pool.take PTDL1SIZE PTDL1SIZE).size.toInt →
    page (pool.page cfg)
  own : ∀ pool, kind pool → 0 ≤ (pool.take PTDL1SIZE PTDL1SIZE).size.toInt → ∀ k < 1024,
    ∀ w : Write, w.clears = true → rely w →
      (pool.word k ≤ CONFIG_XM_OFFSET → w.place = pool.word k) → w.Own cfg

/-- Memory stays in order where words are cleared. -/
def KeptByClears (order : State → Prop) : Prop :=
  ∀ m addr, order m → addr &&& 3 = 0 → order (m.setWord addr 0)

/-- What each change of the memory does: it is fresh before the first level table is there, and in
order from then on.
-/
structure Upkeep (cfg : SetupConfig) (admits : Mapping → Prop) (root : XmU32)
    (page : XmU32 → Prop) (fresh order : State → Prop) : Prop where
  clearsFresh : KeptByClears fresh
  clears : KeptByClears order
  root : ∀ m m' ref, fresh m → Finds cfg root ref →
    Cleared PTDL2ENTRIES root (useTable .ptdL1 ref m) m' → order m'
  table : ∀ m m' pT ref, order m → Finds cfg pT ref → page pT →
    Cleared PTDL2ENTRIES pT (useTable .ptdL2 ref m) m' → order m'
  directory : ∀ m pT ref other e, order m → Finds cfg pT ref → (m.page ref).type = .ptdL2 →
    PageAligned other → e < PTDL2ENTRIES →
    order (m.setWord (entryAt other e) (ptdL1Entry pT))
  entry : ∀ m pT ref e mapping, order m → Finds cfg pT ref → (m.page ref).type = .ptdL2 →
    e < PTDL2ENTRIES → admits mapping → order (m.setWord (entryAt pT e) mapping.entry)
  count : ∀ m ref, order m → order (pPagIncCounter ref m)

-----------------------------------------------------------------------------------------
-- Frames

section Frames

variable {cfg : SetupConfig} {held : List XmU32} {s s' : SetupState}

/-- A frame that is held may come to show the page that is mapped. -/
theorem Frames.mapPage {pAddr vAddr : XmU32} {page : Nat × XmU32}
    (frames : Frames cfg held s.cache)
    (frame : pAddr &&& PAGE_MASK = (descriptors cfg.tables).frame page)
    (mapped : mapPage cfg pAddr page s = .ok (vAddr, s'))
    : s' = { s with cache := s'.cache }
        ∧ ∃ base, vAddr = base + (pAddr &&& (PAGE_SIZE - 1))
          ∧ Shows cfg.frames s'.cache base (pAddr &&& PAGE_MASK)
          ∧ (Owns cfg pAddr → Frames cfg (base :: held) s'.cache) := by
  obtain ⟨⟨address, cache⟩, found, returned⟩ := bind_eq_ok.mp mapped
  cases returned
  obtain ⟨c, models⟩ := frames.models
  obtain ⟨c', base, models', placed, shown, others⟩ := vCacheMapPage_shows models frame found
  refine ⟨rfl, base, placed, frame ▸ shown, ?_⟩
  intro owns
  have ownFrame : Owns cfg ((descriptors cfg.tables).frame page) :=
    frame ▸ owns_congr (pageMask_idem pAddr).symm owns
  refine ⟨⟨c', models'⟩, ?_⟩
  intro other member
  rcases List.mem_cons.mp member with rfl | earlier
  · exact ⟨_, shown, ownFrame⟩
  · obtain ⟨before, showed, own⟩ := frames.shown other earlier
    rcases others other before showed with still | now
    · exact ⟨before, still, own⟩
    · exact ⟨_, now, ownFrame⟩

/-- A page of the partition is mapped at the start of a frame, which is held from then on. -/
theorem Frames.mapTable {pT vAddr : XmU32} {page : PageRef} (frames : Frames cfg held s.cache)
    (layout : Layout cfg) (finds : Finds cfg pT page)
    (mapped : TableSetup.mapPage cfg pT (physPage page) s = .ok (vAddr, s'))
    : s' = { s with cache := s'.cache } ∧ Shows cfg.frames s'.cache vAddr pT
        ∧ Frames cfg (vAddr :: held) s'.cache := by
  obtain ⟨owns, frame⟩ := pmmFindPage_owns layout finds.found
  obtain ⟨same, base, rfl, shown, frames'⟩ := frames.mapPage frame mapped
  have start : base + (pT &&& (PAGE_SIZE - 1)) = base := by
    rw [and_pageSize_eq_zero.mpr finds.aligned]
    exact BitVec.add_zero base
  have whole : pT &&& PAGE_MASK = pT := getAddr_of_aligned finds.aligned
  rw [start]
  rw [whole] at shown
  exact ⟨same, shown, frames' owns⟩

theorem Frames.weaken {fewer : List XmU32} {cache : VCache (Nat × XmU32)}
    (frames : Frames cfg held cache) (subset : ∀ base ∈ fewer, base ∈ held)
    : Frames cfg fewer cache where
  models := frames.models
  shown base member := frames.shown base (subset base member)

theorem Frames.unlockPage {page : Nat × XmU32} (frames : Frames cfg held s.cache)
    (unlocked : unlockPage page s = .ok s')
    : s' = { s with cache := s'.cache } ∧ Frames cfg held s'.cache := by
  obtain ⟨cache, found, returned⟩ := bind_eq_ok.mp unlocked
  cases returned
  obtain ⟨c, models⟩ := frames.models
  obtain ⟨c', models', others⟩ := vCacheUnlockPage_shows models found
  refine ⟨rfl, ⟨c', models'⟩, ?_⟩
  intro base member
  obtain ⟨frame, showed, own⟩ := frames.shown base member
  exact ⟨frame, others base frame showed, own⟩

end Frames

-----------------------------------------------------------------------------------------
-- Words

theorem word_inside {k : Nat} (below : k < PTDL2ENTRIES)
    : (BitVec.ofNat 32 (4 * k)).toNat < 4096 := by
  have entries : PTDL2ENTRIES = 1024 := rfl
  rw [BitVec.toNat_ofNat]
  omega

/-- The word of an entry, by its offset in the page. -/
theorem or_offset_entry {frame : XmU32} (aligned : PageAligned frame) {k : Nat}
    (below : k < PTDL2ENTRIES)
    : frame ||| BitVec.ofNat 32 (4 * k) = entryAt frame k := by
  have disjoint : frame &&& BitVec.ofNat 32 (4 * k) = 0 := by
    have whole : frame &&& PAGE_MASK = frame := getAddr_of_aligned aligned
    rw [← whole, BitVec.and_assoc, BitVec.and_comm PAGE_MASK, offset_page (word_inside below)]
    exact BitVec.and_zero
  rw [entryAt, BitVec.add_eq_or_of_and_eq_zero _ _ disjoint]

/-- Where a word of a page is stored, through the page's frame. -/
theorem Shows.store_eq {cfg : SetupConfig} {s : SetupState} {base frame val : XmU32} {k : Nat}
    {clears : Bool} (shown : Shows cfg.frames s.cache base frame) (below : k < PTDL2ENTRIES)
    : store cfg clears (base + BitVec.ofNat 32 (4 * k)) val s
      = access { clears, place := entryAt frame k }
        (.ok { s with mem := s.mem.setWord (entryAt frame k) val }) := by
  have aligned : PageAligned frame := by
    rw [← shown.whole]
    exact getAddr_aligned frame
  unfold store
  rw [shown.place (word_inside below), or_offset_entry aligned below]

theorem Shows.aligned {pool : FramePool} {cache : VCache (Nat × XmU32)} {base frame : XmU32}
    (shown : Shows pool cache base frame)
    : PageAligned frame := by
  rw [← shown.whole]
  exact getAddr_aligned frame

section Words

variable {cfg : SetupConfig} {kind : Pool → Prop} {order : State → Prop} {held : List XmU32}
  {s : SetupState} {rely : Write → Prop}

theorem own_entryAt {frame : XmU32} {k : Nat} {clears : Bool} (aligned : PageAligned frame)
    (owns : Owns cfg frame) (below : k < PTDL2ENTRIES)
    : Write.Own cfg { clears, place := entryAt frame k } := by
  refine owns_congr ?_ owns
  have page : getAddr (entryAt frame k) = frame := getAddr_entryAt aligned below
  exact (getAddr_of_aligned aligned).trans page.symm

/-- A word of a page of the partition, through its frame. -/
theorem assures_store {base frame val : XmU32} {k : Nat} {P : SetupState → Prop}
    (shown : Shows cfg.frames s.cache base frame) (owns : Owns cfg frame)
    (below : k < PTDL2ENTRIES)
    (after : P { s with mem := s.mem.setWord (entryAt frame k) val })
    : (store cfg false (base + BitVec.ofNat 32 (4 * k)) val s).Assures rely (Write.Own cfg)
        P := by
  rw [shown.store_eq below]
  refine assures_access (fun _ => own_entryAt shown.aligned owns below) ?_
  intro _ s' returned
  cases returned
  exact after

/-- Witness: induction on the number of words. -/
theorem assures_forWords {step : XmU32 → SetupState → Run SetupState}
    {P : Nat → SetupState → Prop} {n done : Nat} {addr : XmU32}
    (keeps : ∀ k < n, ∀ s, P (done + k) s →
      (step (addr + BitVec.ofNat 32 (4 * k)) s).Assures rely (Write.Own cfg) (P (done + k + 1)))
    (start : P done s)
    : (forWords step n addr s).Assures rely (Write.Own cfg) (P (done + n)) := by
  induction n generalizing addr done s with
  | zero => exact assures_pure start
  | succ n ih =>
      have first := keeps 0 (by omega) s start
      rw [Nat.mul_zero, BitVec.add_zero] at first
      refine first.bind ?_
      intro after holds
      have total : done + (n + 1) = done + 1 + n := by omega
      rw [total]
      refine ih ?_ holds
      intro k below s holds
      have next : addr + 4 + BitVec.ofNat 32 (4 * k) = addr + BitVec.ofNat 32 (4 * (k + 1)) := by
        rw [Nat.mul_add, Nat.add_comm, BitVec.ofNat_add, BitVec.add_assoc]
        rfl
      have count : done + 1 + k = done + (k + 1) := by omega
      rw [next, count]
      rw [count] at holds
      exact keeps (k + 1) (by omega) s holds

theorem assures_eachWord {step : XmU32 → SetupState → Run SetupState} {P : SetupState → Prop}
    {n : Nat} {addr : XmU32}
    (keeps : ∀ k < n, ∀ s, P s →
      (step (addr + BitVec.ofNat 32 (4 * k)) s).Assures rely (Write.Own cfg) P) (start : P s)
    : (forWords step n addr s).Assures rely (Write.Own cfg) P :=
  @assures_forWords cfg s rely step (fun _ => P) n 0 addr keeps start

theorem cleared_zero (page : XmU32) (m : State) : Cleared 0 page m m where
  entry other e _ _ := by simp
  types := rfl

theorem Cleared.succ {n : Nat} {page : XmU32} {m m' : State} (cleared : Cleared n page m m')
    (aligned : PageAligned page) (below : n < PTDL2ENTRIES)
    : Cleared (n + 1) page m (m'.setWord (entryAt page n) 0) where
  entry other e otherAligned inside := by
    rw [setWord_entry m' 0 (entryAt_word aligned below) otherAligned inside,
      cleared.entry other e otherAligned inside]
    by_cases here : entryAt other e = entryAt page n
    · have samePage : other = page := by
        rw [← getAddr_entryAt otherAligned inside, here, getAddr_entryAt aligned below]
      subst samePage
      have sameEntry := entryAt_inj otherAligned inside below here
      rw [if_pos here, if_pos ⟨rfl, by omega⟩]
    · rw [if_neg here]
      by_cases before : other = page ∧ e < n
      · rw [if_pos before, if_pos ⟨before.1, by omega⟩]
      · rw [if_neg before, if_neg ?_]
        rintro ⟨rfl, most⟩
        have last : e = n := by
          by_contra apart
          exact before ⟨rfl, by omega⟩
        exact here (last ▸ rfl)
  types := cleared.types

/-- The words of a table that is made are cleared through its frame. -/
theorem assures_clearTable {step : XmU32 → SetupState → Run SetupState} {base pT : XmU32}
    (shown : Shows cfg.frames s.cache base pT) (owns : Owns cfg pT)
    (stores : ∀ k < PTDL2ENTRIES, ∀ s, Shows cfg.frames s.cache base pT →
      step (base + BitVec.ofNat 32 (4 * k)) s
        = store cfg false (base + BitVec.ofNat 32 (4 * k)) 0 s)
    : (forWords step PTDL2ENTRIES base s).Assures rely (Write.Own cfg)
        (ClearedTo pT s PTDL2ENTRIES) := by
  have all : (forWords step PTDL2ENTRIES base s).Assures rely (Write.Own cfg)
      (ClearedTo pT s (0 + PTDL2ENTRIES)) := by
    refine assures_forWords ?_ ⟨rfl, cleared_zero pT s.mem⟩
    intro k below s' holds
    rw [Nat.zero_add] at holds ⊢
    obtain ⟨same, cleared⟩ := holds
    have still : Shows cfg.frames s'.cache base pT := by
      rw [same]
      exact shown
    rw [stores k below s' still]
    refine assures_store still owns below ⟨?_, ?_⟩
    · rw [same]
    · exact cleared.succ shown.aligned below
  rwa [Nat.zero_add] at all

-----------------------------------------------------------------------------------------
-- The pool

theorem translate_word {pgTables : Nat → XmU32} {cache : VCache (Nat × XmU32)}
    {vAddr frame : XmU32} (translated : PageCache.translate pgTables cache vAddr = some frame)
    : frame &&& 3 = 0 := by
  have large : (0xffc00000 : XmU32) &&& 3 = 0 := by decide
  have page : (0x3ff000 : XmU32) &&& 3 = 0 := by decide
  have mask : PAGE_MASK &&& (3 : XmU32) = 0 := by decide
  unfold PageCache.translate at translated
  dsimp only at translated
  split at translated
  · split at translated
    · cases translated
      rw [BitVec.and_comm, BitVec.and_or_distrib_left, BitVec.and_comm 3, BitVec.and_comm 3,
        BitVec.and_assoc, large, BitVec.and_assoc, page]
      simp
    · unfold entryFrame at translated
      split at translated
      · cases translated
        rw [getAddr, BitVec.and_assoc, mask]
        exact BitVec.and_zero
      · cases translated
  · cases translated

/-- Words are at physical addresses of words. -/
theorem place_word {vAddr addr : XmU32} (word : vAddr &&& 3 = 0)
    (placed : place cfg s vAddr = some addr)
    : addr &&& 3 = 0 := by
  obtain ⟨frame, translated, rfl⟩ := Option.map_eq_some_iff.mp placed
  rw [BitVec.and_comm, BitVec.and_or_distrib_left, BitVec.and_comm, translate_word translated,
    BitVec.and_comm vAddr, BitVec.and_comm, BitVec.and_assoc, word]
  simp

/-- A word that is cleared at its physical address, or at an address of the hypervisor. -/
theorem assures_clear {addr : XmU32} (ready : Ready cfg kind order held s)
    (layout : Layout cfg) (clears : KeptByClears order) (word : addr &&& 3 = 0)
    (own : ∀ w : Write, w.clears = true → rely w → (addr ≤ CONFIG_XM_OFFSET → w.place = addr) →
      w.Own cfg)
    : (writeByPassMmuWord cfg true addr 0 s).Assures rely (Write.Own cfg)
        (Ready cfg kind order held) := by
  unfold writeByPassMmuWord
  split
  next above =>
    have notBelow : ¬ addr ≤ CONFIG_XM_OFFSET := BitVec.not_le.mpr above
    unfold store
    split
    next => exact assures_lift nofun
    next place placed =>
      refine assures_access (fun relied => own _ rfl relied (absurd · notBelow)) ?_
      intro _ after returned
      cases returned
      exact ⟨ready.frames, ready.pool, clears _ _ ready.mem (place_word word placed)⟩
  next =>
    refine (assures_lift fun _ found => found).bind ?_
    intro found looked
    cases found with
    | none => exact assures_lift nofun
    | some page =>
        refine (assures_lift fun _ mapped => mapped).bind ?_
        rintro ⟨vAddr, after⟩ ran
        obtain ⟨same, base, rfl, shown, framesIf⟩ :=
          ready.frames.mapPage (pmmFindAnonymousPage_frame layout looked) ran
        have inside : (addr &&& (PAGE_SIZE - 1)).toNat < 4096 := by
          rw [offset_toNat]
          omega
        have stored : (store cfg true (base + (addr &&& (PAGE_SIZE - 1))) 0 after).Assures rely
            (Write.Own cfg) (Ready cfg kind order (base :: held)) := by
          unfold store
          rw [shown.place inside, page_or_offset]
          refine assures_access (fun relied => own _ rfl relied fun _ => rfl) ?_
          intro relied final returned
          cases returned
          have owns : Owns cfg addr :=
            own { clears := true, place := addr } rfl relied fun _ => rfl
          rw [same]
          exact ⟨framesIf owns, ready.pool, clears _ _ ready.mem word⟩
        refine stored.bind ?_
        intro final ready'
        refine assures_lift ?_
        intro last unlocked
        obtain ⟨same, frames⟩ := ready'.frames.unlockPage unlocked
        rw [same]
        exact ⟨frames.weaken fun _ => List.mem_cons_of_mem _, ready'.pool, ready'.mem⟩

theorem alignTo_aligned (pool : Pool) : PageAligned (pool.alignTo PTDL1SIZE).pgTb := by
  unfold Pool.alignTo
  dsimp only
  split
  next =>
    have masked : (pool.pgTb &&& ~~~(PTDL1SIZE - 1)).toNat = pool.pgTb.toNat / 4096 * 4096 :=
      address_page pool.pgTb
    have size : PTDL1SIZE.toNat = 4096 := rfl
    change _ % 4096 = 0
    rw [BitVec.toNat_add, masked, size]
    omega
  next zero => exact and_pageSize_eq_zero.mp (not_not.mp zero)

/-- Pages of an area are mapped to pages. -/
theorem vAddr2PAddr_aligned {areas : List XmcMemoryArea} {vAddr : XmU32}
    (whole : ∀ memArea ∈ areas, PageAligned memArea.startAddr ∧ PageAligned memArea.mappedAt)
    (aligned : PageAligned vAddr)
    : vAddr2PAddr areas vAddr = ~~~0 ∨ PageAligned (vAddr2PAddr areas vAddr) := by
  induction areas with
  | nil => exact Or.inl rfl
  | cons memArea areas ih =>
      unfold vAddr2PAddr
      split
      next =>
        obtain ⟨start, mappedAt⟩ := whole memArea List.mem_cons_self
        change _ % 4096 = 0 at start mappedAt aligned
        refine Or.inr ?_
        change _ % 4096 = 0
        rw [BitVec.toNat_add, BitVec.toNat_sub]
        omega
      next => exact ih fun later member => whole later (List.mem_cons_of_mem _ member)

/-- What `AllocMem` returns is a page, unless it fails. -/
theorem assures_allocMem {later : Pool → Prop} {page : XmU32 → Prop}
    (ready : Ready cfg kind order held s) (layout : Layout cfg)
    (allots : Allots cfg rely kind later page) (clears : KeptByClears order)
    : (allocMem cfg PTDL1SIZE PTDL1SIZE s).Assures rely (Write.Own cfg) fun allocated =>
        allocated.1 = ~~~0
          ∨ allocated.1 = s.pool.page cfg ∧ PageAligned allocated.1 ∧ page allocated.1
            ∧ Ready cfg later order held allocated.2 := by
  unfold allocMem
  dsimp only
  split
  next => exact assures_pure (Or.inl rfl)
  next signed =>
    have left := not_lt.mp signed
    have words : PTDL1SIZE.toNat / 4 = PTDL2ENTRIES := rfl
    have taken : Ready cfg later order held { s with pool := s.pool.take PTDL1SIZE PTDL1SIZE } :=
      ⟨ready.frames, allots.next s.pool ready.pool left, ready.mem⟩
    rw [words]
    refine (assures_eachWord (P := Ready cfg later order held) ?_ taken).bind ?_
    · intro k below after ready'
      have word : s.pool.word k &&& 3 = 0 := entryAt_word (alignTo_aligned s.pool) below
      exact assures_clear ready' layout clears word (allots.own s.pool ready.pool left k below)
    · intro after ready'
      refine assures_pure ?_
      have whole : ∀ memArea ∈ cfg.areas, PageAligned memArea.startAddr
          ∧ PageAligned memArea.mappedAt := fun memArea member =>
        ⟨(layout.areas.aligned memArea member).1, layout.mappedAt memArea member⟩
      exact (vAddr2PAddr_aligned whole (alignTo_aligned s.pool)).imp_right fun aligned =>
        ⟨rfl, aligned, allots.page s.pool ready.pool left, ready'⟩

-----------------------------------------------------------------------------------------
-- Mappings

theorem va2PtdL1_lt (vAddr : XmU32) : va2PtdL1 vAddr < PTDL2ENTRIES := by
  have bound := vAddr.isLt
  have entries : PTDL2ENTRIES = 1024 := rfl
  rw [va2PtdL1_eq]
  omega

theorem va2PtdL2_lt (vAddr : XmU32) : va2PtdL2 vAddr < PTDL2ENTRIES := by
  have entries : PTDL2ENTRIES = 1024 := rfl
  rw [va2PtdL2_eq]
  omega

/-- A second level table that is found: it is where it is said to be mapped. -/
structure TableAt (cfg : SetupConfig) (kind : Pool → Prop) (order : State → Prop)
    (held : List XmU32) (pT : XmU32) (found : PageRef × XmU32) (s : SetupState) : Prop where
  finds : Finds cfg pT found.1
  type : (s.mem.page found.1).type = .ptdL2
  shown : Shows cfg.frames s.cache found.2 pT
  ready : Ready cfg kind order held s

/-- What is returned for the table of an entry. -/
def HoldsTable (cfg : SetupConfig) (kind : Pool → Prop) (order : State → Prop)
    (held : List XmU32) (table : Option (PageRef × XmU32) × SetupState) : Prop :=
  ∀ found, table.1 = some found → ∃ pT, TableAt cfg kind order held pT found table.2

theorem useTable_type (type : PPagType) (ref : PageRef) (m : State)
    : ((useTable type ref m).page ref).type = type := by
  simp [useTable, pPagIncCounter, State.page, State.setPage]

/-- A table is made of a page that `PmmFindPage` finds. -/
theorem assures_makeTable {pT pPtd : XmU32} {ref : PageRef} {type : PPagType}
    {fresh : State → Prop} {mapped : SetupState} {step : XmU32 → SetupState → Run SetupState}
    (ready : Ready cfg kind fresh held s) (layout : Layout cfg) (finds : Finds cfg pT ref)
    (ran : mapPage cfg pT (physPage ref) { s with mem := useTable type ref s.mem }
      = .ok (pPtd, mapped))
    (stores : ∀ k < PTDL2ENTRIES, ∀ s, Shows cfg.frames s.cache pPtd pT →
      step (pPtd + BitVec.ofNat 32 (4 * k)) s
        = store cfg false (pPtd + BitVec.ofNat 32 (4 * k)) 0 s)
    (makes : ∀ m', Cleared PTDL2ENTRIES pT (useTable type ref s.mem) m' → order m')
    : (forWords step PTDL2ENTRIES pPtd mapped).Assures rely (Write.Own cfg) fun s' =>
        Shows cfg.frames s'.cache pPtd pT ∧ (s'.mem.page ref).type = type
          ∧ Ready cfg kind order (pPtd :: held) s' := by
  have frames : Frames cfg held { s with mem := useTable type ref s.mem }.cache := ready.frames
  obtain ⟨same, shown, frames'⟩ := frames.mapTable layout finds ran
  have owns := (pmmFindPage_owns layout finds.found).1
  refine (assures_clearTable shown owns stores).mono ?_
  rintro s' ⟨same', cleared⟩
  have types := cleared.types
  rw [same] at cleared types
  refine ⟨?_, ?_, ?_, ?_, ?_⟩
  · rw [same']
    exact shown
  · rw [State.page, types]
    exact useTable_type type ref s.mem
  · rw [same']
    exact frames'
  · rw [same', same]
    exact ready.pool
  · exact makes s'.mem cleared

section Tables

variable {admits : Mapping → Prop} {root : XmU32} {page : XmU32 → Prop} {fresh : State → Prop}

theorem assures_newPtdL2 {ptdL1 : XmU32} {k : Nat} (ready : Ready cfg kind order held s)
    (layout : Layout cfg) (allots : Allots cfg rely kind kind page)
    (upkeep : Upkeep cfg admits root page fresh order) (member : ptdL1 ∈ held)
    (below : k < PTDL2ENTRIES)
    : (newPtdL2 cfg (ptdL1 + BitVec.ofNat 32 (4 * k)) s).Assures rely (Write.Own cfg)
        (HoldsTable cfg kind order held) := by
  unfold newPtdL2
  refine (assures_allocMem ready layout allots upkeep.clears).bind ?_
  rintro ⟨pT, after⟩ allocated
  refine (assures_lift fun _ found => found).bind ?_
  intro found looked
  cases found with
  | none => exact assures_pure nofun
  | some ref =>
      rcases allocated with failed | ⟨_, aligned, allotted, ready'⟩
      · have failed : pT = ~~~0 := failed
        subst failed
        rw [pmmFindPage_failed layout] at looked
        cases looked
      · have finds : Finds cfg pT ref := ⟨aligned, looked⟩
        refine (assures_lift fun _ mapped => mapped).bind ?_
        rintro ⟨pPtdL2, mapped⟩ ran
        refine (assures_makeTable ready' layout finds ran (fun _ _ _ _ => rfl)
          (fun m' => upkeep.table after.mem m' pT ref ready'.mem finds allotted)).bind ?_
        rintro cleared ⟨shown, type, holds⟩
        obtain ⟨frame, shownL1, ownL1⟩ :=
          holds.frames.shown ptdL1 (List.mem_cons_of_mem _ member)
        refine (assures_store (P := TableAt cfg kind order held pT (ref, pPtdL2)) shownL1 ownL1
          below ?_).bind ?_
        · exact ⟨finds, type, shown, holds.frames.weaken fun _ => List.mem_cons_of_mem _,
            holds.pool, upkeep.directory _ pT ref frame k holds.mem finds type shownL1.aligned
              below⟩
        · intro last table
          refine assures_pure ?_
          rintro _ ⟨⟩
          exact ⟨pT, table⟩

theorem assures_presentPtdL2 {entry : XmU32} (ready : Ready cfg kind order held s)
    (layout : Layout cfg)
    : (presentPtdL2 cfg entry s).Assures rely (Write.Own cfg)
        (HoldsTable cfg kind order held) := by
  unfold presentPtdL2
  refine (assures_lift fun _ loaded => loaded).bind ?_
  intro word _
  refine (assures_lift fun _ found => found).bind ?_
  intro found looked
  cases found with
  | none => exact assures_lift nofun
  | some page =>
      refine (assures_lift fun _ asserted => asserted).bind ?_
      intro _ type
      refine (assures_lift fun _ asserted => asserted).bind fun _ _ => ?_
      refine (assures_lift fun _ mapped => mapped).bind ?_
      rintro ⟨pPtdL2, mapped⟩ ran
      refine assures_pure ?_
      rintro _ ⟨⟩
      have finds : Finds cfg (word &&& PAGE_MASK) page := ⟨getAddr_aligned word, looked⟩
      obtain ⟨same, shown, frames⟩ := ready.frames.mapTable layout finds ran
      have typed : (s.mem.page page).type = .ptdL2 := assert_ok.mp type
      refine ⟨_, finds, ?_, shown, frames.weaken fun _ => List.mem_cons_of_mem _, ?_, ?_⟩
      · rw [same]
        exact typed
      · rw [same]
        exact ready.pool
      · rw [same]
        exact ready.mem

theorem assures_ptdL2Of {ptdL1 : XmU32} {k : Nat} (ready : Ready cfg kind order held s)
    (layout : Layout cfg) (allots : Allots cfg rely kind kind page)
    (upkeep : Upkeep cfg admits root page fresh order) (member : ptdL1 ∈ held)
    (below : k < PTDL2ENTRIES)
    : (ptdL2Of cfg (ptdL1 + BitVec.ofNat 32 (4 * k)) s).Assures rely (Write.Own cfg)
        (HoldsTable cfg kind order held) := by
  unfold ptdL2Of
  refine (assures_lift fun _ loaded => loaded).bind ?_
  intro word _
  split
  next => exact assures_newPtdL2 ready layout allots upkeep member below
  next => exact assures_presentPtdL2 ready layout

/-- What a step leaves that does not fail. -/
def Succeeds (P : SetupState → Prop) (done : Bool × SetupState) : Prop :=
  done.1 = true → P done.2

theorem assures_vmMapUserPage {ptdL1 : XmU32} (ready : Ready cfg kind order held s)
    (layout : Layout cfg) (allots : Allots cfg rely kind kind page)
    (upkeep : Upkeep cfg admits root page fresh order) (member : ptdL1 ∈ held) {mapping : Mapping}
    (admitted : admits mapping)
    : (vmMapUserPage cfg ptdL1 mapping s).Assures rely (Write.Own cfg)
        (Succeeds (Ready cfg kind order held)) := by
  unfold vmMapUserPage
  refine (assures_lift fun _ asserted => asserted).bind fun _ _ => ?_
  refine (assures_ptdL2Of ready layout allots upkeep member (va2PtdL1_lt _)).bind ?_
  rintro ⟨table, after⟩ holds
  cases table with
  | none => exact assures_pure nofun
  | some found =>
      obtain ⟨pT, table⟩ := holds found rfl
      have owns := (pmmFindPage_owns layout table.finds.found).1
      refine (assures_store (P := Ready cfg kind order held) table.shown owns (va2PtdL2_lt _)
        ?_).bind ?_
      · exact ⟨table.ready.frames, table.ready.pool, upkeep.entry _ pT found.1 _ mapping
          table.ready.mem table.finds table.type (va2PtdL2_lt _) admitted⟩
      · intro written ready'
        refine (assures_lift fun _ unlocked => unlocked).bind ?_
        intro last unlocked
        refine assures_pure fun _ => ?_
        obtain ⟨same, frames⟩ := ready'.frames.unlockPage unlocked
        dsimp only
        rw [same]
        exact ⟨frames, ready'.pool, ready'.mem⟩

/-- Witness: induction on the list. -/
theorem assures_forEach {α : Type} {step : α → SetupState → Run (Bool × SetupState)}
    {P : SetupState → Prop} {elements : List α}
    (keeps : ∀ a ∈ elements, ∀ s, P s → (step a s).Assures rely (Write.Own cfg) (Succeeds P))
    (start : P s)
    : (forEach step elements s).Assures rely (Write.Own cfg) (Succeeds P) := by
  induction elements generalizing s with
  | nil => exact assures_pure fun _ => start
  | cons a rest ih =>
      refine (keeps a List.mem_cons_self s start).bind ?_
      rintro ⟨done, after⟩ holds
      cases done with
      | false => exact assures_pure nofun
      | true => exact ih (fun b member => keeps b (List.mem_cons_of_mem _ member)) (holds rfl)

/-- The mappings that `SetupPageTable` goes through are admitted. -/
structure Admitted (cfg : SetupConfig) (admits : Mapping → Prop) : Prop where
  areas : ∀ mapping ∈ areaMappings cfg areaAttr, admits mapping
  controlTables : ∀ mapping ∈ pctMappings cfg, admits mapping
  loader : ∀ mapping ∈ ldrMappings cfg (XM_PCTRLTAB_ADDR - ldrSize), admits mapping
  tables : ∀ mapping ∈ areaMappings cfg tableAttr, admits mapping

/-- The pool comes back as it was given. -/
theorem assures_setupLdr {ptdL1 at_ : XmU32} (ready : Ready cfg kind order held s)
    (layout : Layout cfg) (allots : Allots cfg rely kind kind page)
    (upkeep : Upkeep cfg admits root page fresh order) (member : ptdL1 ∈ held)
    (admitted : ∀ mapping ∈ ldrMappings cfg at_, admits mapping)
    : (setupLdr cfg ptdL1 at_ s).Assures rely (Write.Own cfg)
        (Succeeds (Ready cfg kind order held)) := by
  unfold setupLdr
  refine (assures_lift fun _ asserted => asserted).bind fun _ _ => ?_
  refine (assures_lift fun _ asserted => asserted).bind fun _ _ => ?_
  refine (assures_forEach (P := Ready cfg kind order held) ?_ ready).bind ?_
  · intro mapping among s ready
    exact assures_vmMapUserPage ready layout allots upkeep member (admitted mapping among)
  · intro done holds
    refine assures_pure fun succeeded => ?_
    have after := holds succeeded
    exact ⟨after.frames, ready.pool, after.mem⟩

theorem assures_protectPage {ptdL1 : XmU32} (ready : Ready cfg kind order held s)
    (layout : Layout cfg) (allots : Allots cfg rely kind kind page)
    (upkeep : Upkeep cfg admits root page fresh order) (member : ptdL1 ∈ held) {mapping : Mapping}
    (admitted : admits mapping)
    : (protectPage cfg ptdL1 mapping s).Assures rely (Write.Own cfg)
        (Succeeds (Ready cfg kind order held)) := by
  unfold protectPage
  refine (assures_lift fun _ found => found).bind ?_
  intro found _
  cases found with
  | none => exact assures_pure fun _ => ready
  | some page =>
      have counted : Ready cfg kind order held { s with mem := pPagIncCounter page s.mem } :=
        ⟨ready.frames, ready.pool, upkeep.count s.mem page ready.mem⟩
      dsimp only
      split
      next => exact assures_vmMapUserPage counted layout allots upkeep member admitted
      next => exact assures_pure fun _ => counted

theorem assures_setupMappings {ptdL1 : XmU32} (ready : Ready cfg kind order held s)
    (layout : Layout cfg) (allots : Allots cfg rely kind kind page)
    (upkeep : Upkeep cfg admits root page fresh order) (member : ptdL1 ∈ held)
    (admitted : Admitted cfg admits)
    : (setupMappings cfg ptdL1 s).Assures rely (Write.Own cfg)
        (Succeeds (Ready cfg kind order held)) := by
  have maps (mapping : Mapping) (admitted : admits mapping) (s : SetupState)
      (ready : Ready cfg kind order held s) :=
    assures_vmMapUserPage ready layout allots upkeep member admitted
  unfold setupMappings
  refine (assures_forEach (P := Ready cfg kind order held)
    (fun mapping among => maps mapping (admitted.areas mapping among)) ready).bind ?_
  rintro ⟨mapped, s⟩ areas
  cases mapped with
  | false => exact assures_pure nofun
  | true =>
      refine (assures_lift fun _ asserted => asserted).bind fun _ _ => ?_
      refine (assures_forEach (P := Ready cfg kind order held)
        (fun mapping among => maps mapping (admitted.controlTables mapping among))
        (areas rfl)).bind ?_
      rintro ⟨mapped, s⟩ tables
      cases mapped with
      | false => exact assures_pure nofun
      | true =>
          refine (assures_setupLdr (tables rfl) layout allots upkeep member
            admitted.loader).bind ?_
          rintro ⟨mapped, s⟩ loader
          cases mapped with
          | false => exact assures_pure nofun
          | true =>
              refine assures_forEach ?_ (loader rfl)
              intro mapping among s ready
              exact assures_protectPage ready layout allots upkeep member
                (admitted.tables mapping among)

/-- What is assured of the whole of `SetupPageTable`. Nothing is of the memory where it fails. -/
theorem assures_setupPageTable {initial : Pool → Prop} {first : XmU32 → Prop}
    (ready : Ready cfg initial fresh [] s) (layout : Layout cfg)
    (start : Allots cfg rely initial kind first) (allots : Allots cfg rely kind kind page)
    (upkeep : Upkeep cfg admits (s.pool.page cfg) page fresh order)
    (admitted : Admitted cfg admits)
    : (setupPageTable cfg s).Assures rely (Write.Own cfg) fun done =>
        ∀ pT, done.1 = some pT →
          pT = s.pool.page cfg ∧ (∃ ref, Finds cfg pT ref) ∧ order done.2.mem := by
  unfold setupPageTable
  refine (assures_allocMem ready layout start upkeep.clearsFresh).bind ?_
  rintro ⟨pT, after⟩ allocated
  dsimp only at allocated ⊢
  split
  next => exact assures_pure nofun
  next succeeded =>
    obtain ⟨rfl, aligned, _, ready'⟩ := allocated.resolve_left succeeded
    refine (assures_lift fun _ found => found).bind ?_
    intro found looked
    cases found with
    | none => exact assures_pure nofun
    | some ref =>
        have finds : Finds cfg (s.pool.page cfg) ref := ⟨aligned, looked⟩
        refine (assures_lift fun _ mapped => mapped).bind ?_
        rintro ⟨pPtdL1, mapped⟩ ran
        refine (assures_makeTable ready' layout finds ran ?_
          (fun m' => upkeep.root after.mem m' ref ready'.mem finds)).bind ?_
        · intro k below s shown
          unfold writeByPassMmuWord
          rw [if_pos (shown.above layout (word_inside below))]
        · rintro cleared ⟨_, _, holds⟩
          refine (assures_setupMappings holds layout allots upkeep List.mem_cons_self
            admitted).bind ?_
          rintro ⟨done, last⟩ holds
          cases done with
          | false => exact assures_pure nofun
          | true =>
              refine (assures_lift fun _ unlocked => unlocked).bind ?_
              intro final unlocked
              refine assures_pure ?_
              rintro _ ⟨⟩
              have ready := holds rfl
              obtain ⟨same, _⟩ := ready.frames.unlockPage unlocked
              refine ⟨rfl, ⟨ref, finds⟩, ?_⟩
              dsimp only
              rw [same]
              exact ready.mem

end Tables

end Words

end XtratuM.TableSetup
