import XtratuM.Kernel.DynList
import XtratuM.Library.SlotCache
import XtratuM.Mmu.PageUpdates

/-! The cache of virtual frames through which the hypervisor reaches the pages of a partition:
`VCacheMapPage` gives a page a frame of its own address space, one that was never used or that of
the page unlocked first, and `VCacheUnlockPage` puts the page on `cacheLRU`.
-/

namespace XtratuM.PageCache

open Guest (CONFIG_XM_OFFSET)
open UserPages Reachability Mmu

/-- The fields of `struct physPage` that the cache uses, but for its list node. -/
structure CachedPage where
  vAddr : XmU32
  mapped : Bool
  unlocked : Bool
  deriving DecidableEq

/-- The descriptors of the pages with their list nodes and `cacheLRU`, `vmmStartAddr`, `noFrames`,
and the hypervisor's second level tables by their physical address.
-/
structure VCache (π : Type) where
  page : π → CachedPage
  lists : Lists Unit π
  vmmStartAddr : XmU32
  noFrames : Int
  ptdL2 : XmU32 → Nat → XmU32

variable {π : Type} [DecidableEq π]

def VCache.setPage (s : VCache π) (p : π) (page : CachedPage) : VCache π :=
  { s with page := Function.update s.page p page }

/-- `VmmGetNoFreeFrames`. -/
def vmmGetNoFreeFrames (s : VCache π) : Except Stop Int := do
  assert (0 ≤ s.noFrames)
  pure s.noFrames

/-- `VmmAlloc`. -/
def vmmAlloc (nPag : Nat) (s : VCache π) : Except Stop (XmU32 × VCache π) :=
  if s.noFrames - nPag < 0 then
    .ok (0, s)
  else do
    let noFrames := s.noFrames - nPag
    assert (0 ≤ noFrames)
    pure (s.vmmStartAddr,
      { s with vmmStartAddr := s.vmmStartAddr + BitVec.ofNat 32 nPag <<< PAGE_SHIFT, noFrames })

/-- `VmMapPage`, with the hypervisor's page directory. -/
def vmMapPage (pgTables : Nat → XmU32) (pAddr vAddr flags : XmU32) (s : VCache π)
    : Except Stop (VCache π) := do
  assert (pAddr &&& (PAGE_SIZE - 1) = 0)
  assert (vAddr &&& (PAGE_SIZE - 1) = 0)
  assert (CONFIG_XM_OFFSET ≤ vAddr)
  assert (pgTables (va2PtdL1 vAddr) &&& _PG_ARCH_PRESENT = _PG_ARCH_PRESENT)
  let ptdLx := getAddr (pgTables (va2PtdL1 vAddr))
  pure
    { s with
      ptdL2 := Function.update s.ptdL2 ptdLx
        (Function.update (s.ptdL2 ptdLx) (va2PtdL2 vAddr) (pAddr ||| vmAttr2ArchAttr flags)) }

/-- The arm of `VCacheMapPage` that takes the frame of the page unlocked first. -/
def stealFrame (p : π) (s : VCache π) : Except Stop (VCache π) := do
  let removed ← dynListRemoveTail s.lists ()
  match removed.1 with
  | none => .error .assertion
  | some victim =>
      let s := { s with lists := removed.2 }
      let s := s.setPage victim { s.page victim with unlocked := false, mapped := false }
      let s := s.setPage p { s.page p with vAddr := (s.page victim).vAddr }
      pure (s.setPage victim { s.page victim with vAddr := ~~~0 })

/-- The arm that takes a new frame. -/
def newFrame (p : π) (s : VCache π) : Except Stop (VCache π) := do
  let allocated ← vmmAlloc 1 s
  pure (allocated.2.setPage p { allocated.2.page p with vAddr := allocated.1 })

def frameFor (p : π) (noFree : Int) (s : VCache π) : Except Stop (VCache π) :=
  if noFree ≤ 0 then stealFrame p s else newFrame p s

/-- The attributes of the pages in the cache. -/
def cachedAttr : XmU32 := _PG_ATTR_PRESENT ||| _PG_ATTR_RW ||| _PG_ATTR_CACHED

def VCache.setMapped (s : VCache π) (p : π) : VCache π :=
  s.setPage p { s.page p with mapped := true }

/-- The steps of `VCacheMapPage` that set `mapped` and map the page. -/
def mapFrame (pgTables : Nat → XmU32) (pAddr : XmU32) (p : π) (s : VCache π)
    : Except Stop (XmU32 × VCache π) := do
  let s := s.setMapped p
  let s ← vmMapPage pgTables (pAddr &&& PAGE_MASK) (s.page p).vAddr cachedAttr s
  pure ((s.page p).vAddr + (pAddr &&& (PAGE_SIZE - 1)), s)

/-- `VCacheMapPage`, with the address at which the page is mapped. -/
def vCacheMapPage (pgTables : Nat → XmU32) (pAddr : XmU32) (p : π) (s : VCache π)
    : Except Stop (XmU32 × VCache π) :=
  if (s.page p).mapped then
    .ok ((s.page p).vAddr + (pAddr &&& (PAGE_SIZE - 1)), s)
  else do
    let noFree ← vmmGetNoFreeFrames s
    let s ← frameFor p noFree s
    mapFrame pgTables pAddr p s

/-- `VCacheUnlockPage`. -/
def vCacheUnlockPage (p : π) (s : VCache π) : Except Stop (VCache π) := do
  assert ((s.page p).mapped = true)
  if (s.page p).unlocked then
    pure s
  else do
    let lists ← dynListInsertHead s.lists () p
    pure ({ s with lists }.setPage p { s.page p with unlocked := true })

/-- The unlocks of `PmmResetPartition`, for the pages of the partition's areas in their order. -/
def pmmResetPartition : List π → VCache π → Except Stop (VCache π)
  | [], s => .ok s
  | p :: rest, s =>
      if (s.page p).mapped then do
        let s ← vCacheUnlockPage p s
        pmmResetPartition rest s
      else
        pmmResetPartition rest s

/-- The frame that an entry of a second level table points at. -/
def entryFrame (entry : XmU32) : Option XmU32 :=
  if IsPresent entry then some (getAddr entry) else none

/-- The frame that the hypervisor's page tables translate an address to. -/
def translate (pgTables : Nat → XmU32) (s : VCache π) (vAddr : XmU32) : Option XmU32 :=
  let ptdL1e := pgTables (va2PtdL1 vAddr)
  if IsPresent ptdL1e then
    if ptdL1e &&& _PG_ARCH_PSE ≠ 0 then
      some ((ptdL1e &&& 0xffc00000) ||| (vAddr &&& 0x3ff000))
    else
      entryFrame (s.ptdL2 (getAddr ptdL1e) (va2PtdL2 vAddr))
  else
    none

-----------------------------------------------------------------------------------------
-- Frames

/-- The pages that have descriptors, each a whole page frame. -/
structure PhysPages (π : Type) where
  frame : π → XmU32
  whole : ∀ p, frame p &&& PAGE_MASK = frame p

/-- Frame `i` of a pool. -/
def frameAddr (start : XmU32) (i : Nat) : XmU32 :=
  start + BitVec.ofNat 32 (4096 * i)

/-- Virtual frames as `SetupVmMap` leaves them: whole pages above the hypervisor's own, each with a
second level table in the page directory, and no table in two places of it.
-/
structure FramePool where
  pgTables : Nat → XmU32
  start : XmU32
  frames : Nat
  aligned : PageAligned start
  above : CONFIG_XM_OFFSET ≤ start
  room : start.toNat + 4096 * frames ≤ 2 ^ 32
  present : ∀ i < frames, IsPresent (pgTables (va2PtdL1 (frameAddr start i)))
    ∧ pgTables (va2PtdL1 (frameAddr start i)) &&& _PG_ARCH_PSE = 0
  apart : ∀ i < frames, ∀ j < frames,
    getAddr (pgTables (va2PtdL1 (frameAddr start i)))
      = getAddr (pgTables (va2PtdL1 (frameAddr start j))) →
    va2PtdL1 (frameAddr start i) = va2PtdL1 (frameAddr start j)

def FramePool.addr (pool : FramePool) (i : Nat) : XmU32 :=
  frameAddr pool.start i

theorem va2PtdL1_eq (vAddr : XmU32) : va2PtdL1 vAddr = vAddr.toNat / 2 ^ 22 := by
  have small : vAddr.toNat / 2 ^ 22 < 2 ^ 10 := by
    have := vAddr.isLt
    omega
  have mask : (0xffc00000 : XmU32).toNat >>> 22 = 2 ^ 10 - 1 := rfl
  rw [va2PtdL1, PTDL1_SHIFT, BitVec.toNat_ushiftRight, BitVec.toNat_and,
    Nat.shiftRight_and_distrib, mask, Nat.and_two_pow_sub_one_eq_mod, Nat.shiftRight_eq_div_pow,
    Nat.mod_eq_of_lt small]

theorem va2PtdL2_eq (vAddr : XmU32) : va2PtdL2 vAddr = vAddr.toNat / 4096 % 1024 := by
  have mask : (0x3ff000 : XmU32).toNat >>> 12 = 2 ^ 10 - 1 := rfl
  rw [va2PtdL2, PTDL2_SHIFT, BitVec.toNat_ushiftRight, BitVec.toNat_and,
    Nat.shiftRight_and_distrib, mask, Nat.and_two_pow_sub_one_eq_mod, Nat.shiftRight_eq_div_pow]

theorem FramePool.addr_toNat (pool : FramePool) {i : Nat} (inside : i < pool.frames)
    : (pool.addr i).toNat = pool.start.toNat + 4096 * i := by
  have room := pool.room
  rw [addr, frameAddr, BitVec.toNat_add, BitVec.toNat_ofNat, Nat.mod_eq_of_lt (a := 4096 * i)
    (by omega), Nat.mod_eq_of_lt (by omega)]

theorem FramePool.addr_injective (pool : FramePool) {i j : Nat} (insideI : i < pool.frames)
    (insideJ : j < pool.frames) (same : pool.addr i = pool.addr j)
    : i = j := by
  have equal := congrArg BitVec.toNat same
  rw [pool.addr_toNat insideI, pool.addr_toNat insideJ] at equal
  omega

theorem FramePool.addr_aligned (pool : FramePool) {i : Nat} (inside : i < pool.frames)
    : PageAligned (pool.addr i) := by
  have aligned := pool.aligned
  unfold PageAligned at aligned ⊢
  rw [pool.addr_toNat inside]
  change _ % 4096 = 0 at aligned
  change _ % 4096 = 0
  omega

/-- Two frames of a pool do not share their entries in both tables. -/
theorem FramePool.addr_entries (pool : FramePool) {i j : Nat} (insideI : i < pool.frames)
    (insideJ : j < pool.frames) (first : va2PtdL1 (pool.addr i) = va2PtdL1 (pool.addr j))
    (second : va2PtdL2 (pool.addr i) = va2PtdL2 (pool.addr j))
    : i = j := by
  rw [va2PtdL1_eq, va2PtdL1_eq, pool.addr_toNat insideI, pool.addr_toNat insideJ] at first
  rw [va2PtdL2_eq, va2PtdL2_eq, pool.addr_toNat insideI, pool.addr_toNat insideJ] at second
  omega

/-- The entry `VmMapPage` writes is present and points at the page. -/
theorem cachedEntry (pAddr : XmU32)
    : IsPresent (pAddr &&& PAGE_MASK ||| vmAttr2ArchAttr cachedAttr)
      ∧ getAddr (pAddr &&& PAGE_MASK ||| vmAttr2ArchAttr cachedAttr) = pAddr &&& PAGE_MASK := by
  have attr : vmAttr2ArchAttr cachedAttr = 3 := by decide
  have mask : (3 : XmU32) &&& PAGE_MASK = 0 := by decide
  refine ⟨?_, ?_⟩
  · have bit : (3 : XmU32) &&& _PG_ARCH_PRESENT = 1 := by decide
    unfold IsPresent
    rw [attr, BitVec.and_comm, BitVec.and_or_distrib_left, BitVec.and_comm _ 3, bit]
    intro clear
    exact absurd (BitVec.or_eq_zero_iff.mp clear).2 (by decide)
  · unfold getAddr
    rw [attr, BitVec.and_comm, BitVec.and_or_distrib_left, BitVec.and_comm _ 3, mask]
    simp [BitVec.and_comm PAGE_MASK, BitVec.and_assoc]

theorem isPresent_iff (entry : XmU32)
    : entry &&& _PG_ARCH_PRESENT = _PG_ARCH_PRESENT ↔ IsPresent entry := by
  have one : _PG_ARCH_PRESENT = BitVec.twoPow 32 0 := by decide
  unfold IsPresent
  rw [one, BitVec.and_twoPow]
  split
  · simp [BitVec.twoPow]
  · exact iff_of_false (by decide) (by simp)

omit [DecidableEq π] in
theorem translate_pool (pool : FramePool) {i : Nat} (inside : i < pool.frames) (s : VCache π)
    : translate pool.pgTables s (pool.addr i)
      = entryFrame (s.ptdL2 (getAddr (pool.pgTables (va2PtdL1 (pool.addr i))))
        (va2PtdL2 (pool.addr i))) := by
  have present : IsPresent (pool.pgTables (va2PtdL1 (pool.addr i))) := (pool.present i inside).1
  have noPse : ¬ pool.pgTables (va2PtdL1 (pool.addr i)) &&& _PG_ARCH_PSE ≠ 0 :=
    not_not.mpr (pool.present i inside).2
  dsimp only [translate]
  rw [if_pos present, if_neg noPse]

omit [DecidableEq π] in
/-- What `VmMapPage` does at a frame of the pool: it is translated to the page, and every other
frame as before.
-/
theorem vmMapPage_pool (pool : FramePool) (pAddr : XmU32) {i : Nat} (inside : i < pool.frames)
    (s : VCache π)
    : ∃ ptdL2, vmMapPage pool.pgTables (pAddr &&& PAGE_MASK) (pool.addr i) cachedAttr s
        = .ok { s with ptdL2 }
      ∧ translate pool.pgTables { s with ptdL2 } (pool.addr i) = some (pAddr &&& PAGE_MASK)
      ∧ ∀ j < pool.frames, j ≠ i →
        translate pool.pgTables { s with ptdL2 } (pool.addr j)
          = translate pool.pgTables s (pool.addr j) := by
  have present : IsPresent (pool.pgTables (va2PtdL1 (pool.addr i))) := (pool.present i inside).1
  have frameAligned : pAddr &&& PAGE_MASK &&& (PAGE_SIZE - 1) = 0 := by
    have disjoint : PAGE_MASK &&& (PAGE_SIZE - 1) = 0 := by decide
    rw [BitVec.and_assoc, disjoint]
    simp
  have addrAligned : pool.addr i &&& (PAGE_SIZE - 1) = 0 :=
    and_pageSize_eq_zero.mpr (pool.addr_aligned inside)
  have above : CONFIG_XM_OFFSET ≤ pool.addr i := by
    have start := pool.above
    rw [BitVec.le_def] at start ⊢
    rw [pool.addr_toNat inside]
    omega
  obtain ⟨entryPresent, entryAddr⟩ := cachedEntry pAddr
  let ptdLx := getAddr (pool.pgTables (va2PtdL1 (pool.addr i)))
  let entry := pAddr &&& PAGE_MASK ||| vmAttr2ArchAttr cachedAttr
  refine ⟨Function.update s.ptdL2 ptdLx
    (Function.update (s.ptdL2 ptdLx) (va2PtdL2 (pool.addr i)) entry), ?_, ?_, ?_⟩
  · unfold vmMapPage
    rw [assert_of frameAligned, ok_bind, assert_of addrAligned, ok_bind, assert_of above, ok_bind,
      assert_of ((isPresent_iff _).mpr present), ok_bind]
    rfl
  · rw [translate_pool pool inside]
    dsimp only
    rw [Function.update_self, Function.update_self, entryFrame, if_pos entryPresent, entryAddr]
  · intro j insideJ other
    rw [translate_pool pool insideJ, translate_pool pool insideJ]
    dsimp only
    by_cases table : getAddr (pool.pgTables (va2PtdL1 (pool.addr j))) = ptdLx
    · have first := pool.apart j insideJ i inside table
      have second : va2PtdL2 (pool.addr j) ≠ va2PtdL2 (pool.addr i) :=
        fun same => other (pool.addr_entries insideJ inside first same)
      rw [table, Function.update_self, Function.update_of_ne second]
    · rw [Function.update_of_ne table]

-----------------------------------------------------------------------------------------
-- Refinement

/-- The cache hands out the frames of the pool as slots: `cacheLRU` holds the released pages, which
are those with `unlocked` set, and a mapped page's frame is translated to the page itself.
-/
structure Models (pool : FramePool) (frame : π → XmU32) (s : VCache π) (c : SlotCache.Cache π)
    : Prop where
  sound : c.Sound
  size : c.next + c.free = pool.frames
  startAddr : s.vmmStartAddr = pool.addr c.next
  noFrames : s.noFrames = c.free
  lru : Holds s.lists () c.released
  unlinked : ∀ p ∉ c.released, Unlinked s.lists p
  mapped : ∀ p, (s.page p).mapped = (c.slot p).isSome
  unlocked : ∀ p, (s.page p).unlocked = true ↔ p ∈ c.released
  vAddr : ∀ p i, c.slot p = some i → (s.page p).vAddr = pool.addr i
  own : ∀ p i, c.slot p = some i → translate pool.pgTables s (pool.addr i) = some (frame p)

section Refinement

variable {pool : FramePool} {frame : π → XmU32} {s : VCache π} {c : SlotCache.Cache π}

omit [DecidableEq π] in
theorem Models.inside (models : Models pool frame s c) {p : π} {i : Nat}
    (has : c.slot p = some i)
    : i < pool.frames := by
  have below := models.sound.below p i has
  have size := models.size
  omega

/-- In the middle of `VCacheMapPage`: page `p` has been given frame `i`, where it is not mapped
yet.
-/
structure Placed (pool : FramePool) (frame : π → XmU32) (s : VCache π) (c : SlotCache.Cache π)
    (p : π) (i : Nat) : Prop where
  sound : c.Sound
  size : c.next + c.free = pool.frames
  startAddr : s.vmmStartAddr = pool.addr c.next
  noFrames : s.noFrames = c.free
  lru : Holds s.lists () c.released
  unlinked : ∀ q ∉ c.released, Unlinked s.lists q
  slot : c.slot p = some i
  given : (s.page p).vAddr = pool.addr i
  mapped : ∀ q, q ≠ p → (s.page q).mapped = (c.slot q).isSome
  unlocked : ∀ q, (s.page q).unlocked = true ↔ q ∈ c.released
  vAddr : ∀ q j, q ≠ p → c.slot q = some j → (s.page q).vAddr = pool.addr j
  own : ∀ q j, q ≠ p → c.slot q = some j →
    translate pool.pgTables s (pool.addr j) = some (frame q)

/-- They map the page at its frame, and leave the other pages where they are. -/
theorem Placed.mapFrame {p : π} {i : Nat} (placed : Placed pool frame s c p i) {pAddr : XmU32}
    (own : pAddr &&& PAGE_MASK = frame p)
    : ∃ s', mapFrame pool.pgTables pAddr p s
        = .ok (pool.addr i + (pAddr &&& (PAGE_SIZE - 1)), s')
      ∧ Models pool frame s' c := by
  have inside {q : π} {j : Nat} (has : c.slot q = some j) : j < pool.frames := by
    have below := placed.sound.below q j has
    have size := placed.size
    omega
  have page (q : π) : (q ≠ p → (s.setMapped p).page q = s.page q)
      ∧ ((s.setMapped p).page q).vAddr = (s.page q).vAddr
      ∧ ((s.setMapped p).page q).unlocked = (s.page q).unlocked := by
    by_cases same : q = p
    · subst same
      simp [VCache.setMapped, VCache.setPage]
    · simp [VCache.setMapped, VCache.setPage, Function.update_of_ne same]
  obtain ⟨ptdL2, mapping, here, elsewhere⟩ :=
    vmMapPage_pool pool pAddr (inside placed.slot) (s.setMapped p)
  refine ⟨{ s.setMapped p with ptdL2 }, ?_, ?_⟩
  · unfold PageCache.mapFrame
    dsimp only
    rw [(page p).2.1, placed.given, mapping, ok_bind]
    dsimp only
    rw [(page p).2.1, placed.given]
    rfl
  · refine
      { sound := placed.sound, size := placed.size, startAddr := placed.startAddr
        noFrames := placed.noFrames, lru := placed.lru, unlinked := placed.unlinked
        mapped := ?_, unlocked := ?_, vAddr := ?_, own := ?_ }
    · intro q
      dsimp only
      by_cases same : q = p
      · subst same
        simp [VCache.setMapped, VCache.setPage, placed.slot]
      · rw [(page q).1 same, placed.mapped q same]
    · intro q
      dsimp only
      rw [(page q).2.2, placed.unlocked q]
    · intro q j has
      dsimp only
      rw [(page q).2.1]
      by_cases same : q = p
      · subst same
        rw [placed.slot] at has
        cases has
        exact placed.given
      · exact placed.vAddr q j same has
    · intro q j has
      by_cases same : q = p
      · subst same
        rw [placed.slot] at has
        cases has
        rw [here, own]
      · have apart : j ≠ i := fun equal =>
          same (placed.sound.injective q p i (equal ▸ has) placed.slot)
        rw [elsewhere j (inside has) apart]
        exact placed.own q j same has

omit [DecidableEq π] in
theorem Models.notReleased (models : Models pool frame s c) {p : π} (absent : c.slot p = none)
    : p ∉ c.released := by
  intro released
  have held := models.sound.held p released
  rw [absent] at held
  cases held

theorem FramePool.addr_succ (pool : FramePool) (i : Nat)
    : pool.addr (i + 1) = pool.addr i + BitVec.ofNat 32 1 <<< PAGE_SHIFT := by
  have page : BitVec.ofNat 32 1 <<< PAGE_SHIFT = BitVec.ofNat 32 4096 := by decide
  rw [page, addr, addr, frameAddr, frameAddr, BitVec.add_assoc, ← BitVec.ofNat_add, Nat.mul_succ]

/-- A frame that was never used goes to the page. -/
theorem Models.newFrame (models : Models pool frame s c) {p : π} (absent : c.slot p = none)
    (free : c.free ≠ 0)
    : ∃ s' c', newFrame p s = .ok s' ∧ c.fetch p = some c'
      ∧ Placed pool frame s' c' p c.next := by
  have noFrames := models.noFrames
  have size := models.size
  have fetched := SlotCache.fetch_fresh absent free
  have left : s.noFrames - (1 : Nat) = ((c.free - 1 : Nat) : Int) := by omega
  let s' : VCache π :=
    { s with vmmStartAddr := s.vmmStartAddr + BitVec.ofNat 32 1 <<< PAGE_SHIFT
             noFrames := s.noFrames - (1 : Nat) }
  refine ⟨s'.setPage p { s.page p with vAddr := s.vmmStartAddr }, _, ?_, fetched, ?_⟩
  · have allocated : vmmAlloc 1 s = .ok (s.vmmStartAddr, s') := by
      unfold vmmAlloc
      rw [if_neg (by omega)]
      dsimp only
      rw [assert_of (by omega)]
      rfl
    unfold PageCache.newFrame
    rw [allocated]
    rfl
  · have other {q : π} (apart : q ≠ p)
        : (s'.setPage p { s.page p with vAddr := s.vmmStartAddr }).page q = s.page q := by
      simp [VCache.setPage, Function.update_of_ne apart, s']
    refine
      { sound := models.sound.fetch fetched, size := ?_, startAddr := ?_, noFrames := left
        lru := models.lru, unlinked := models.unlinked, slot := ?_, given := ?_, mapped := ?_
        unlocked := ?_, vAddr := ?_, own := ?_ }
    · dsimp only
      omega
    · rw [pool.addr_succ, ← models.startAddr]
      rfl
    · exact Function.update_self ..
    · simp [VCache.setPage, models.startAddr]
    · intro q apart
      rw [other apart, models.mapped q]
      simp [Function.update_of_ne apart]
    · intro q
      rw [← models.unlocked q]
      by_cases same : q = p
      · subst same
        simp [VCache.setPage]
      · rw [other same]
    · intro q j apart has
      dsimp only at has
      rw [Function.update_of_ne apart] at has
      rw [other apart, models.vAddr q j has]
    · intro q j apart has
      dsimp only at has
      rw [Function.update_of_ne apart] at has
      exact models.own q j has

/-- Where none is left, the page gets that of the page unlocked first, which is unmapped. -/
theorem Models.stealFrame (models : Models pool frame s c) {p : π} (absent : c.slot p = none)
    (full : c.free = 0) {front : List π} {victim : π} (last : c.released = front ++ [victim])
    : ∃ s' c' i, stealFrame p s = .ok s' ∧ c.fetch p = some c' ∧ Placed pool frame s' c' p i := by
  have fetched := SlotCache.fetch_evicts absent full last
  have member : victim ∈ c.released := by simp [last]
  have apart : victim ≠ p := fun same => models.notReleased absent (same ▸ member)
  obtain ⟨i, held⟩ := Option.isSome_iff_exists.mp (models.sound.held victim member)
  have distinct := models.sound.distinct
  rw [last] at distinct
  have outside : victim ∉ front := fun inside =>
    (List.nodup_append.mp distinct).2.2 victim inside victim (List.mem_singleton_self victim) rfl
  obtain ⟨lists, removed, lru, unlinked, frameRule⟩ :=
    dynListRemoveTail_holds (last ▸ models.lru)
  let s₁ := { s with lists }.setPage victim
    { s.page victim with unlocked := false, mapped := false }
  let s₂ := s₁.setPage p { s₁.page p with vAddr := (s₁.page victim).vAddr }
  let s' := s₂.setPage victim { s₂.page victim with vAddr := ~~~0 }
  have ofVictim : s'.page victim = { vAddr := ~~~0, mapped := false, unlocked := false } := by
    simp [s', s₂, s₁, VCache.setPage, Function.update_of_ne apart]
  have ofPage : s'.page p = { s.page p with vAddr := (s.page victim).vAddr } := by
    simp [s', s₂, s₁, VCache.setPage, Function.update_of_ne apart.symm]
  have others {q : π} (notPage : q ≠ p) (notVictim : q ≠ victim) : s'.page q = s.page q := by
    simp [s', s₂, s₁, VCache.setPage, Function.update_of_ne notPage,
      Function.update_of_ne notVictim]
  refine ⟨s', _, i, ?_, fetched, ?_⟩
  · unfold PageCache.stealFrame
    rw [removed, ok_bind]
    rfl
  · refine
      { sound := models.sound.fetch fetched, size := models.size, startAddr := models.startAddr
        noFrames := models.noFrames, lru, unlinked := ?_, slot := ?_, given := ?_, mapped := ?_
        unlocked := ?_, vAddr := ?_, own := ?_ }
    · intro q notFront
      by_cases isVictim : q = victim
      · exact isVictim ▸ unlinked
      · refine frameRule.unlinked q isVictim (models.unlinked q ?_)
        rw [last, List.mem_append, List.mem_singleton]
        exact not_or.mpr ⟨notFront, isVictim⟩
    · simpa using held
    · rw [ofPage, models.vAddr victim i held]
    · intro q notPage
      dsimp only
      rw [Function.update_of_ne notPage]
      by_cases isVictim : q = victim
      · subst isVictim
        rw [ofVictim, Function.update_self]
        rfl
      · rw [others notPage isVictim, Function.update_of_ne isVictim, models.mapped q]
    · intro q
      dsimp only
      by_cases isVictim : q = victim
      · subst isVictim
        rw [ofVictim]
        simp [outside]
      · have same : (s'.page q).unlocked = (s.page q).unlocked := by
          by_cases isPage : q = p
          · rw [isPage, ofPage]
          · rw [others isPage isVictim]
        rw [same, models.unlocked q, last, List.mem_append, List.mem_singleton]
        simp [isVictim]
    · intro q j notPage has
      dsimp only at has
      rw [Function.update_of_ne notPage] at has
      have notVictim : q ≠ victim := by
        rintro rfl
        simp at has
      rw [Function.update_of_ne notVictim] at has
      rw [others notPage notVictim, models.vAddr q j has]
    · intro q j notPage has
      dsimp only at has
      rw [Function.update_of_ne notPage] at has
      have notVictim : q ≠ victim := by
        rintro rfl
        simp at has
      rw [Function.update_of_ne notVictim] at has
      exact models.own q j has

/-- `VCacheMapPage` gives the page a slot, and stops at its ASSERT where there is none to give. -/
theorem Models.vCacheMapPage (models : Models pool frame s c) {p : π} {pAddr : XmU32}
    (own : pAddr &&& PAGE_MASK = frame p)
    : (∃ s' c', vCacheMapPage pool.pgTables pAddr p s
          = .ok ((s'.page p).vAddr + (pAddr &&& (PAGE_SIZE - 1)), s')
        ∧ c.fetch p = some c' ∧ Models pool frame s' c')
      ∨ (vCacheMapPage pool.pgTables pAddr p s = .error .assertion ∧ c.fetch p = none) := by
  unfold PageCache.vCacheMapPage
  rw [models.mapped p]
  cases slot : c.slot p with
  | some i =>
      have held : (c.slot p).isSome := by simp [slot]
      exact Or.inl ⟨s, c, rfl, SlotCache.fetch_held held, models⟩
  | none =>
      have noFrames := models.noFrames
      have noFree : vmmGetNoFreeFrames s = .ok s.noFrames := by
        unfold vmmGetNoFreeFrames
        rw [assert_of (by omega)]
        rfl
      rw [if_neg (by simp), noFree, ok_bind]
      by_cases free : c.free = 0
      · have arm : frameFor p s.noFrames s = PageCache.stealFrame p s := if_pos (by omega)
        rw [arm]
        rcases List.eq_nil_or_concat c.released with none | ⟨front, victim, last⟩
        · refine Or.inr ⟨?_, ?_⟩
          · unfold PageCache.stealFrame
            rw [dynListRemoveTail_empty (none ▸ models.lru)]
            rfl
          · unfold SlotCache.Cache.fetch
            simp [slot, free, none]
        · rw [List.concat_eq_append] at last
          obtain ⟨s', c', i, stolen, fetched, placed⟩ := models.stealFrame slot free last
          obtain ⟨after, mapped, models'⟩ := placed.mapFrame own
          refine Or.inl ⟨after, c', ?_, fetched, models'⟩
          rw [stolen, ok_bind, mapped, models'.vAddr p i placed.slot]
      · have arm : frameFor p s.noFrames s = PageCache.newFrame p s := if_neg (by omega)
        rw [arm]
        obtain ⟨s', c', given, fetched, placed⟩ := models.newFrame slot free
        obtain ⟨after, mapped, models'⟩ := placed.mapFrame own
        refine Or.inl ⟨after, c', ?_, fetched, models'⟩
        rw [given, ok_bind, mapped, models'.vAddr p _ placed.slot]

/-- `VCacheUnlockPage` releases the page, and stops at its ASSERT where it is not mapped. -/
theorem Models.vCacheUnlockPage (models : Models pool frame s c) (p : π)
    : (∃ s' c', vCacheUnlockPage p s = .ok s' ∧ c.release p = some c' ∧ Models pool frame s' c')
      ∨ (vCacheUnlockPage p s = .error .assertion ∧ c.release p = none) := by
  unfold PageCache.vCacheUnlockPage SlotCache.Cache.release
  by_cases mapped : (s.page p).mapped = true
  · have held : (c.slot p).isSome := by rw [← models.mapped p, mapped]
    rw [assert_of mapped, ok_bind, if_pos held]
    refine Or.inl ?_
    by_cases unlocked : (s.page p).unlocked = true
    · rw [if_pos unlocked, if_pos ((models.unlocked p).mp unlocked)]
      exact ⟨s, c, rfl, rfl, models⟩
    · have fresh : p ∉ c.released := fun released => unlocked ((models.unlocked p).mpr released)
      rw [if_neg unlocked, if_neg fresh]
      obtain ⟨lists, inserted, lru, frameRule⟩ :=
        dynListInsertHead_holds models.lru (models.unlinked p fresh)
      have released : c.release p = some { c with released := p :: c.released } := by
        unfold SlotCache.Cache.release
        rw [if_pos held, if_neg fresh]
      have page (q : π)
          : (({ s with lists }.setPage p { s.page p with unlocked := true }).page q).vAddr
              = (s.page q).vAddr
            ∧ (({ s with lists }.setPage p { s.page p with unlocked := true }).page q).mapped
              = (s.page q).mapped := by
        by_cases same : q = p
        · subst same
          simp [VCache.setPage]
        · simp [VCache.setPage, Function.update_of_ne same]
      refine ⟨{ s with lists }.setPage p { s.page p with unlocked := true },
        { c with released := p :: c.released }, ?_, rfl, ?_⟩
      · rw [inserted, ok_bind]
        rfl
      · refine
          { sound := models.sound.release released, size := models.size
            startAddr := models.startAddr, noFrames := models.noFrames, lru, unlinked := ?_
            mapped := ?_, unlocked := ?_, vAddr := ?_, own := models.own }
        · intro q outside
          rw [List.mem_cons, not_or] at outside
          exact frameRule.unlinked q outside.1 (models.unlinked q outside.2)
        · intro q
          rw [(page q).2, models.mapped q]
        · intro q
          by_cases same : q = p
          · subst same
            simp [VCache.setPage]
          · simp [VCache.setPage, models.unlocked q, same]
        · intro q j has
          rw [(page q).1, models.vAddr q j has]
  · refine Or.inr ?_
    have none : ¬ (c.slot p).isSome := by rwa [← models.mapped p]
    rw [if_neg none]
    simp [assert, mapped, bind, Except.bind]

/-- The unlocks of a partition reset release its mapped pages, and no other. -/
theorem Models.pmmResetPartition (models : Models pool frame s c) (pages : List π)
    : ∃ s' c' past, pmmResetPartition pages s = .ok s' ∧ Models pool frame s' c'
      ∧ ∀ p ∉ pages, Reach (SlotCache.Others p) c past c' := by
  induction pages generalizing s c with
  | nil => exact ⟨s, c, [], rfl, models, fun _ _ => .start⟩
  | cons q rest ih =>
      unfold PageCache.pmmResetPartition
      by_cases mapped : (s.page q).mapped = true
      · rw [if_pos mapped]
        rcases models.vCacheUnlockPage q with ⟨s₁, c₁, unlocked, released, models₁⟩ | ⟨_, absent⟩
        · obtain ⟨s', c', past, reset, models', runs⟩ := ih models₁
          refine ⟨s', c', past ++ [.release q], by rw [unlocked, ok_bind, reset], models', ?_⟩
          intro p outside
          rw [List.mem_cons, not_or] at outside
          exact (Reach.step .start ⟨Ne.symm outside.1, released⟩).trans (runs p outside.2)
        · have held : (c.slot q).isSome := by rw [← models.mapped q, mapped]
          simp [SlotCache.Cache.release, held] at absent
      · rw [if_neg mapped]
        obtain ⟨s', c', past, reset, models', runs⟩ := ih models
        exact ⟨s', c', past, reset, models', fun p outside =>
          runs p fun inside => outside (List.mem_cons_of_mem _ inside)⟩

end Refinement

-----------------------------------------------------------------------------------------
-- Runs

inductive CacheCall (π : Type)
  | mapPage (pAddr : XmU32) (p : π)
  | unlockPage (p : π)
  | resetPartition (pages : List π)

/-- The call is on other pages. -/
def CacheCall.Spares (p : π) : CacheCall π → Prop
  | .mapPage _ q => q ≠ p
  | .unlockPage q => q ≠ p
  | .resetPartition partition => p ∉ partition

/-- A call that returns; a page is mapped for an address of its own. -/
def CacheNext (pool : FramePool) (pages : PhysPages π) (s : VCache π) (call : CacheCall π)
    (s' : VCache π) : Prop :=
  match call with
  | .mapPage pAddr p =>
      pAddr &&& PAGE_MASK = pages.frame p
        ∧ ∃ vAddr, vCacheMapPage pool.pgTables pAddr p s = .ok (vAddr, s')
  | .unlockPage p => vCacheUnlockPage p s = .ok s'
  | .resetPartition partition => pmmResetPartition partition s = .ok s'

/-- The cache as `SetupPhysMM` and `SetupVirtMM` leave it. -/
def emptyCache (pool : FramePool) (ptdL2 : XmU32 → Nat → XmU32) : VCache π where
  page _ := { vAddr := 0, mapped := false, unlocked := false }
  lists :=
    dynListInit
      { node := fun _ => { list := none, prev := none, next := none }
        list := fun _ => { head := none, noElem := 0 } }
      ()
  vmmStartAddr := pool.start
  noFrames := pool.frames
  ptdL2

omit [DecidableEq π] in
theorem emptyCache_models (pool : FramePool) (pages : PhysPages π) (ptdL2 : XmU32 → Nat → XmU32)
    : Models pool pages.frame (emptyCache pool ptdL2) (SlotCache.emptyCache pool.frames) where
  sound := SlotCache.emptyCache_sound pool.frames
  size := Nat.zero_add _
  startAddr := by simp [emptyCache, FramePool.addr, frameAddr, SlotCache.emptyCache]
  noFrames := rfl
  lru :=
    { distinct := .nil, circle := trivial, head_eq := rfl, noElem_eq := rfl
      owned := by simp [SlotCache.emptyCache] }
  unlinked _ _ := ⟨rfl, rfl, rfl⟩
  mapped _ := rfl
  unlocked := by simp [emptyCache, SlotCache.emptyCache]
  vAddr := by simp [SlotCache.emptyCache]
  own := by simp [SlotCache.emptyCache]

section Runs

variable {pool : FramePool} {pages : PhysPages π} {ptdL2 : XmU32 → Nat → XmU32}

/-- Every call that returns is a run of the slot cache, which leaves out the pages that it does. -/
theorem CacheNext.models {s s' : VCache π} {c : SlotCache.Cache π} {call : CacheCall π}
    (models : Models pool pages.frame s c) (next : CacheNext pool pages s call s')
    : ∃ c' past, Models pool pages.frame s' c'
      ∧ ∀ p, call.Spares p → Reach (SlotCache.Others p) c past c' := by
  cases call with
  | mapPage pAddr q =>
      obtain ⟨own, vAddr, mapped⟩ := next
      rcases models.vCacheMapPage own with ⟨t, c', same, fetched, models'⟩ | ⟨stops, _⟩
      · cases same.symm.trans mapped
        exact ⟨c', [.fetch q], models', fun p spares => .step .start ⟨spares, fetched⟩⟩
      · cases stops.symm.trans mapped
  | unlockPage q =>
      rcases models.vCacheUnlockPage q with ⟨t, c', same, released, models'⟩ | ⟨stops, _⟩
      · cases same.symm.trans next
        exact ⟨c', [.release q], models', fun p spares => .step .start ⟨spares, released⟩⟩
      · cases stops.symm.trans next
  | resetPartition partition =>
      obtain ⟨t, c', past, same, models', runs⟩ := models.pmmResetPartition partition
      cases same.symm.trans next
      exact ⟨c', past, models', runs⟩

theorem models_of_run {past : List (CacheCall π)} {s : VCache π}
    (run : Reach (CacheNext pool pages) (emptyCache pool ptdL2) past s)
    : ∃ c, Models pool pages.frame s c := by
  refine run.invariant (P := fun s => ∃ c, Models pool pages.frame s c)
    ⟨_, emptyCache_models pool pages ptdL2⟩ ?_
  rintro s call s' ⟨c, models⟩ next
  obtain ⟨c', _, models', _⟩ := next.models models
  exact ⟨c', models'⟩

/-- In every run from the empty cache, no two mapped pages have the same address, the address of a
mapped page is translated to the page itself, and `cacheLRU` holds the pages that are mapped and
unlocked.
-/
theorem cache_never_aliases {past : List (CacheCall π)} {s : VCache π}
    (run : Reach (CacheNext pool pages) (emptyCache pool ptdL2) past s)
    : (∀ p q, (s.page p).mapped = true → (s.page q).mapped = true →
        (s.page p).vAddr = (s.page q).vAddr → p = q)
      ∧ (∀ p, (s.page p).mapped = true →
        translate pool.pgTables s (s.page p).vAddr = some (pages.frame p))
      ∧ ∃ nodes, Holds s.lists () nodes
        ∧ ∀ p, p ∈ nodes ↔ (s.page p).mapped = true ∧ (s.page p).unlocked = true := by
  obtain ⟨c, models⟩ := models_of_run run
  have slotOf {p : π} (mapped : (s.page p).mapped = true) : ∃ i, c.slot p = some i := by
    rw [models.mapped p] at mapped
    exact Option.isSome_iff_exists.mp mapped
  refine ⟨?_, ?_, c.released, models.lru, ?_⟩
  · intro p q mappedP mappedQ same
    obtain ⟨i, atI⟩ := slotOf mappedP
    obtain ⟨j, atJ⟩ := slotOf mappedQ
    rw [models.vAddr p i atI, models.vAddr q j atJ] at same
    have slot := pool.addr_injective (models.inside atI) (models.inside atJ) same
    exact models.sound.injective p q i atI (slot ▸ atJ)
  · intro p mapped
    obtain ⟨i, atI⟩ := slotOf mapped
    rw [models.vAddr p i atI]
    exact models.own p i atI
  · intro p
    rw [models.mapped p, models.unlocked p]
    exact ⟨fun released => ⟨models.sound.held p released, released⟩, And.right⟩

-----------------------------------------------------------------------------------------
-- Pages that stay

/-- The calls on pages other than `p`. -/
def OtherCalls (pool : FramePool) (pages : PhysPages π) (p : π)
    : VCache π → CacheCall π → VCache π → Prop :=
  guarded (fun _ call => call.Spares p) (CacheNext pool pages)

/-- The page is still mapped where it was, and no other page is. -/
structure Stays (p : π) (s s' : VCache π) : Prop where
  mapped : (s'.page p).mapped = true
  vAddr : (s'.page p).vAddr = (s.page p).vAddr
  alone : ∀ q, q ≠ p → (s'.page q).mapped = true → (s'.page q).vAddr ≠ (s.page p).vAddr

omit [DecidableEq π] in
theorem Models.stays_iff {s s' : VCache π} {c c' : SlotCache.Cache π} {p : π} {i : Nat}
    (models : Models pool pages.frame s c) (models' : Models pool pages.frame s' c')
    (slot : c.slot p = some i)
    : Stays p s s' ↔ c'.slot p = some i := by
  have inside := models.inside slot
  constructor
  · intro stays
    have mapped := stays.mapped
    rw [models'.mapped p] at mapped
    obtain ⟨j, atJ⟩ := Option.isSome_iff_exists.mp mapped
    have same := stays.vAddr
    rw [models'.vAddr p j atJ, models.vAddr p i slot] at same
    rwa [← pool.addr_injective (models'.inside atJ) inside same]
  · intro still
    refine { mapped := by simp [models'.mapped p, still], vAddr := ?_, alone := ?_ }
    · rw [models'.vAddr p i still, models.vAddr p i slot]
    · intro q other mapped same
      rw [models'.mapped q] at mapped
      obtain ⟨j, atJ⟩ := Option.isSome_iff_exists.mp mapped
      rw [models'.vAddr q j atJ, models.vAddr p i slot] at same
      have equal := pool.addr_injective (models'.inside atJ) inside same
      exact other (models'.sound.injective q p i (equal ▸ atJ) still)

theorem otherCalls_models {s s' : VCache π} {c : SlotCache.Cache π} {p : π}
    (models : Models pool pages.frame s c) {later : List (CacheCall π)}
    (run : Reach (OtherCalls pool pages p) s later s')
    : ∃ c' past, Models pool pages.frame s' c' ∧ Reach (SlotCache.Others p) c past c' := by
  induction run with
  | start => exact ⟨c, [], models, .start⟩
  | step _ taken ih =>
      obtain ⟨c₁, past, models₁, before⟩ := ih
      obtain ⟨c', more, models', runs⟩ := taken.2.models models₁
      exact ⟨c', more ++ past, models', before.trans (runs p taken.1)⟩

/-- Every run of the slot cache on other pages is made by calls on other pages. -/
theorem others_calls {s : VCache π} {c c' : SlotCache.Cache π} {p : π}
    (models : Models pool pages.frame s c) {past : List (SlotCache.Call π)}
    (run : Reach (SlotCache.Others p) c past c')
    : ∃ s' later, Models pool pages.frame s' c' ∧ Reach (OtherCalls pool pages p) s later s' := by
  induction run with
  | start => exact ⟨s, [], models, .start⟩
  | @step _ _ call _ _ taken ih =>
      obtain ⟨s₁, later, models₁, before⟩ := ih
      obtain ⟨other, next⟩ := taken
      cases call with
      | fetch q =>
          rcases models₁.vCacheMapPage (pages.whole q) with
            ⟨s', c₂, mapped, fetched, models'⟩ | ⟨_, absent⟩
          · cases fetched.symm.trans next
            exact ⟨s', .mapPage (pages.frame q) q :: later, models',
              .step before ⟨other, pages.whole q, _, mapped⟩⟩
          · cases absent.symm.trans next
      | release q =>
          rcases models₁.vCacheUnlockPage q with ⟨s', c₂, unlocked, released, models'⟩ | ⟨_, absent⟩
          · cases released.symm.trans next
            exact ⟨s', .unlockPage q :: later, models', .step before ⟨other, unlocked⟩⟩
          · cases absent.symm.trans next

/-- From the return of `VCacheMapPage` on, the page stays where it is mapped in every run of calls
on other pages exactly when it was not on `cacheLRU`, or the frames that are left are enough for
all pages that are not mapped.
-/
theorem mapped_page_stays {past : List (CacheCall π)} {s s₁ : VCache π} {p : π}
    {pAddr vAddr : XmU32} (run : Reach (CacheNext pool pages) (emptyCache pool ptdL2) past s)
    (own : pAddr &&& PAGE_MASK = pages.frame p)
    (mapped : vCacheMapPage pool.pgTables pAddr p s = .ok (vAddr, s₁))
    : (∀ later s', Reach (OtherCalls pool pages p) s₁ later s' → Stays p s₁ s')
      ↔ ¬ ((s.page p).mapped = true ∧ (s.page p).unlocked = true)
        ∨ ∀ unmapped : Finset π, (∀ q ∈ unmapped, (s.page q).mapped = false) →
          (unmapped.card : Int) ≤ s.noFrames := by
  obtain ⟨c, models⟩ := models_of_run run
  obtain ⟨c₁, fetched, models₁⟩ : ∃ c₁, c.fetch p = some c₁ ∧ Models pool pages.frame s₁ c₁ := by
    rcases models.vCacheMapPage own with ⟨t, c₁, same, fetched, models₁⟩ | ⟨stops, _⟩
    · cases same.symm.trans mapped
      exact ⟨c₁, fetched, models₁⟩
    · cases stops.symm.trans mapped
  obtain ⟨i, slot⟩ := SlotCache.fetch_slot models.sound fetched
  have runs : (∀ later s', Reach (OtherCalls pool pages p) s₁ later s' → Stays p s₁ s')
      ↔ p ∉ c₁.released ∨ c₁.Roomy := by
    rw [← SlotCache.stays_iff models₁.sound slot]
    constructor
    · intro stays later c' abstractRun
      obtain ⟨s', calls, models', concrete⟩ := others_calls models₁ abstractRun
      exact (models₁.stays_iff models' slot).mp (stays calls s' concrete)
    · intro stays later s' concrete
      obtain ⟨c', calls, models', abstractRun⟩ := otherCalls_models models₁ concrete
      exact (models₁.stays_iff models' slot).mpr (stays calls c' abstractRun)
  rw [runs]
  by_cases released : p ∈ c.released
  · -- a page on `cacheLRU` is mapped, so the call has changed nothing
    have held := models.sound.held p released
    rw [SlotCache.fetch_held held] at fetched
    cases fetched
    have onList : (s.page p).mapped = true ∧ (s.page p).unlocked = true :=
      ⟨by rw [models.mapped p, held], (models.unlocked p).mpr released⟩
    have frames := models.noFrames
    simp only [released, not_true_eq_false, false_or, onList, and_self]
    refine forall_congr' fun unmapped => ?_
    have absent : (∀ q ∈ unmapped, c.slot q = none)
        ↔ ∀ q ∈ unmapped, (s.page q).mapped = false := by
      simp [models.mapped]
    rw [absent, frames, Nat.cast_le]
  · have off : ¬ ((s.page p).mapped = true ∧ (s.page p).unlocked = true) :=
      fun both => released ((models.unlocked p).mp both.2)
    exact iff_of_true (Or.inl (SlotCache.fetch_released fetched released)) (Or.inl off)

end Runs

/-- A pool of one frame, with a page directory whose entries point at tables of their own. -/
def oneFrame : FramePool where
  pgTables e := BitVec.ofNat 32 (4096 * e) ||| 3
  start := 0xFC400000
  frames := 1
  aligned := rfl
  above := by decide
  room := by decide
  present := by decide
  apart := by decide

def twoPages : PhysPages Bool where
  frame p := if p then 0x5000 else 0x6000
  whole p := by cases p <;> decide

def noTables : XmU32 → Nat → XmU32 :=
  fun _ _ => 0

/-- The second page takes the frame of the first one, which was unlocked. -/
theorem cache_never_aliases_stolen
    : ∃ s : VCache Bool, (s.page true).mapped = false ∧ (s.page false).mapped = true
        ∧ translate oneFrame.pgTables s (s.page false).vAddr = some 0x6000 := by
  have run : Reach (CacheNext oneFrame twoPages) (emptyCache oneFrame noTables)
      [.mapPage 0x6004 false, .unlockPage true, .mapPage 0x5008 true] _ :=
    .step (.step (.step .start ⟨rfl, _, rfl⟩) rfl) ⟨rfl, _, rfl⟩
  exact ⟨_, rfl, rfl, (cache_never_aliases run).2.1 false rfl⟩

/-- The only frame stays with the page that was mapped there first. -/
theorem mapped_page_stays_first
    : ∃ vAddr s₁, vCacheMapPage oneFrame.pgTables 0x5008 true (emptyCache oneFrame noTables)
          = .ok (vAddr, s₁)
        ∧ ∀ later s', Reach (OtherCalls oneFrame twoPages true) s₁ later s' →
          Stays true s₁ s' := by
  have empty : Reach (CacheNext oneFrame twoPages) (emptyCache oneFrame noTables) []
      (emptyCache oneFrame noTables) := .start
  have own : (0x5008 : XmU32) &&& PAGE_MASK = twoPages.frame true := rfl
  exact ⟨_, _, rfl, (mapped_page_stays empty own rfl).mpr (Or.inl (by decide))⟩

/-- A page that was unlocked and is mapped again stays on `cacheLRU`, and loses its frame to the
next page.
-/
theorem remapped_page_is_evicted
    : ¬ ∀ (pool : FramePool) (pages : PhysPages Bool) (ptdL2 : XmU32 → Nat → XmU32)
        (past : List (CacheCall Bool)) (s s₁ : VCache Bool) (p : Bool) (pAddr vAddr : XmU32),
        Reach (CacheNext pool pages) (emptyCache pool ptdL2) past s →
        pAddr &&& PAGE_MASK = pages.frame p →
        vCacheMapPage pool.pgTables pAddr p s = .ok (vAddr, s₁) →
        ∀ later s', Reach (OtherCalls pool pages p) s₁ later s' → Stays p s₁ s' := by
  intro claimed
  obtain ⟨s, run, s₁, vAddr, mapped, s', _, stolen, gone⟩ : ∃ s,
      Reach (CacheNext oneFrame twoPages) (emptyCache oneFrame noTables)
        [.unlockPage true, .mapPage 0x5008 true] s
      ∧ ∃ s₁ vAddr, vCacheMapPage oneFrame.pgTables 0x5008 true s = .ok (vAddr, s₁)
      ∧ ∃ s' vAddr', vCacheMapPage oneFrame.pgTables 0x6004 false s₁ = .ok (vAddr', s')
      ∧ (s'.page true).mapped = false :=
    ⟨_, .step (.step .start ⟨rfl, _, rfl⟩) rfl, _, _, rfl, _, _, rfl, rfl⟩
  have later : Reach (OtherCalls oneFrame twoPages true) s₁ [.mapPage 0x6004 false] s' :=
    .step .start ⟨Bool.false_ne_true, rfl, _, stolen⟩
  have stays := claimed _ _ _ _ _ _ true 0x5008 vAddr run rfl mapped _ _ later
  cases gone.symm.trans stays.mapped

end XtratuM.PageCache
