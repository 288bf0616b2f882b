import XtratuM.Boot.Containers
import XtratuM.Library.Tracked
import XtratuM.Mmu.AddressSearches
import XtratuM.Mmu.PageCache

/-! `SetupPageTable`, which builds the page tables of a partition that is reset in a pool of the
partition's own memory, whose address and size come from the image. Every word that it writes is
kept account of, by the physical address that the hypervisor's page tables translate it to.
-/

namespace XtratuM.TableSetup

open Guest (CONFIG_XM_OFFSET)
open Boot (CONFIG_MAX_NO_CUSTOMFILES)
open Tracked (lift access)
open UserPages (_PG_ARCH_PRESENT _PG_ARCH_RW _PG_ATTR_PRESENT _PG_ATTR_USER _PG_ATTR_RW
  _PG_ATTR_CACHED PTDL1ENTRIES PPagType assertUserPage ptdL1Entry ptdL2Entry va2PtdL1 va2PtdL2)
open Mmu PageCache

def PTDL1SIZE : XmU32 := 4096
def PTDL2SIZE : XmU32 := 4096

def XM_PCTRLTAB_ADDR : XmU32 := CONFIG_XM_OFFSET - 256 * 1024

/-- The size of the partition loader, and that of its stack. -/
def ldrSize : XmU32 := 256 * 1024
def ldrStackSize : XmU32 := 18 * PAGE_SIZE

/-- What `SetupPageTable` finds in the configuration and in the descriptor of the partition. The
control tables and the stack of the loader are given by their physical addresses; `frames` are the
virtual frames of `VCacheMapPage`, and `eldr` is where the loader ends.
-/
structure SetupConfig where
  tables : MemoryTables
  partition : PartitionAreas
  frames : FramePool
  pctArray : XmU32
  pctArraySize : XmU32
  ldrStack : XmU32
  sldr : XmU32
  eldr : XmU32
  imgStart : XmU32
  imgSize : XmU32
  customFileTab : List (XmU32 × XmU32)

/-- `xmcPhysMemAreaTab`, from the partition's first area on. -/
def SetupConfig.areas (cfg : SetupConfig) : List XmcMemoryArea :=
  cfg.partition.slice cfg.tables.xmcPhysMemAreaTab

/-- `pgTb` and `size`: what is left of the pool. -/
structure Pool where
  pgTb : XmU32
  size : XmU32
  deriving DecidableEq

structure SetupState where
  mem : State
  cache : VCache (Nat × XmU32)
  pool : Pool

/-- A word that is written, and whether `AllocMem` does it. -/
structure Write where
  clears : Bool
  place : XmU32
  deriving DecidableEq

/-- A step that keeps account of what it writes. -/
abbrev Run (α : Type) := Tracked.Computation Write Stop α

-----------------------------------------------------------------------------------------
-- Words

/-- The physical address of an address of the hypervisor. -/
def place (cfg : SetupConfig) (s : SetupState) (vAddr : XmU32) : Option XmU32 :=
  (PageCache.translate cfg.frames.pgTables s.cache vAddr).map fun frame =>
    frame ||| (vAddr &&& (PAGE_SIZE - 1))

def load (cfg : SetupConfig) (vAddr : XmU32) (s : SetupState) : Except Stop XmU32 :=
  match place cfg s vAddr with
  | none => .error .badAccess
  | some addr => .ok (s.mem.word addr)

def store (cfg : SetupConfig) (clears : Bool) (vAddr val : XmU32) (s : SetupState)
    : Run SetupState :=
  match place cfg s vAddr with
  | none => lift (.error .badAccess)
  | some addr => access { clears, place := addr } (.ok { s with mem := s.mem.setWord addr val })

/-- `VCacheMapPage`. -/
def mapPage (cfg : SetupConfig) (pAddr : XmU32) (page : Nat × XmU32) (s : SetupState)
    : Except Stop (XmU32 × SetupState) := do
  let mapped ← vCacheMapPage cfg.frames.pgTables pAddr page s.cache
  pure (mapped.1, { s with cache := mapped.2 })

/-- `VCacheUnlockPage`. -/
def unlockPage (page : Nat × XmU32) (s : SetupState) : Except Stop SetupState := do
  let cache ← vCacheUnlockPage page s.cache
  pure { s with cache }

/-- `WriteByPassMmuWord`. -/
def writeByPassMmuWord (cfg : SetupConfig) (clears : Bool) (pAddr val : XmU32) (s : SetupState)
    : Run SetupState :=
  if CONFIG_XM_OFFSET < pAddr then
    store cfg clears pAddr val s
  else do
    let found ← lift (pmmFindAnonymousPage cfg.tables pAddr)
    match found with
    | none => lift (.error .badAccess)
    | some page => do
        let mapped ← lift (mapPage cfg pAddr page s)
        let s ← store cfg clears mapped.1 val mapped.2
        lift (unlockPage page s)

/-- A loop over words that are next to each other. -/
def forWords (step : XmU32 → SetupState → Run SetupState) : Nat → XmU32 → SetupState
    → Run SetupState
  | 0, _, s => pure s
  | n + 1, addr, s => do
      let s ← step addr s
      forWords step n (addr + 4) s

-----------------------------------------------------------------------------------------
-- The pool

/-- `VAddr2PAddr`. -/
def vAddr2PAddr : List XmcMemoryArea → XmU32 → XmU32
  | [], _ => ~~~0
  | area :: areas, vAddr =>
      if area.mappedAt ≤ vAddr ∧ vAddr ≤ area.mappedAt + area.size - 1 then
        vAddr - area.mappedAt + area.startAddr
      else
        vAddr2PAddr areas vAddr

/-- The first step of `AllocMem`. -/
def Pool.alignTo (pool : Pool) (align : XmU32) : Pool :=
  let behind := pool.pgTb &&& (align - 1)
  if behind ≠ 0 then
    { pgTb := align + (pool.pgTb &&& ~~~(align - 1)), size := pool.size - (align - behind) }
  else
    pool

/-- The pool behind the `size` bytes that are taken from it. -/
def Pool.take (pool : Pool) (size align : XmU32) : Pool :=
  let pool := pool.alignTo align
  { pgTb := pool.pgTb + size, size := pool.size - size }

/-- `AllocMem`, which answers with `~0` where it fails. The pool is cleared at its address, and
what is returned is what that address translates to in the partition. The size is compared as a
signed number.
-/
def allocMem (cfg : SetupConfig) (size align : XmU32) (s : SetupState)
    : Run (XmU32 × SetupState) := do
  let addr := (s.pool.alignTo align).pgTb
  let s := { s with pool := s.pool.take size align }
  if s.pool.size.toInt < 0 then
    pure (~~~0, s)
  else do
    let s ← forWords (fun word => writeByPassMmuWord cfg true word 0) (size.toNat / 4) addr s
    pure (vAddr2PAddr cfg.areas addr, s)

-----------------------------------------------------------------------------------------
-- Mappings

/-- `type` and `PPagIncCounter`. -/
def useTable (type : PPagType) (ref : PageRef) (mem : State) : State :=
  pPagIncCounter ref (mem.setPage ref { mem.page ref with type })

/-- The descriptor that `PmmFindPage` found. -/
def physPage (page : PageRef) : Nat × XmU32 :=
  (page.region, page.page)

/-- The arm of `VmMapUserPage` for an entry that is not present: the second level table, and where
it is mapped, unless there is none.
-/
def newPtdL2 (cfg : SetupConfig) (entry : XmU32) (s : SetupState)
    : Run (Option (PageRef × XmU32) × SetupState) := do
  let allocated ← allocMem cfg PTDL2SIZE PTDL2SIZE s
  let pT := allocated.1
  let found ← lift (pmmFindPage cfg.tables cfg.partition pT)
  match found with
  | none => pure (none, allocated.2)
  | some pagePtdL2 => do
      let s := { allocated.2 with mem := useTable .ptdL2 pagePtdL2 allocated.2.mem }
      let mapped ← lift (mapPage cfg pT (physPage pagePtdL2) s)
      let s ← forWords (fun word => store cfg false word 0) PTDL2ENTRIES mapped.1 mapped.2
      let s ← store cfg false entry (ptdL1Entry pT) s
      pure (some (pagePtdL2, mapped.1), s)

/-- The other arm. -/
def presentPtdL2 (cfg : SetupConfig) (entry : XmU32) (s : SetupState)
    : Run (Option (PageRef × XmU32) × SetupState) := do
  let word ← lift (load cfg entry s)
  let pT := word &&& PAGE_MASK
  let found ← lift (pmmFindPage cfg.tables cfg.partition pT)
  match found with
  | none => lift (.error .assertion)
  | some pagePtdL2 => do
      lift (assert ((s.mem.page pagePtdL2).type = .ptdL2))
      lift (assert (0 < (s.mem.page pagePtdL2).counter))
      let mapped ← lift (mapPage cfg pT (physPage pagePtdL2) s)
      pure (some (pagePtdL2, mapped.1), mapped.2)

/-- The second level table of an entry of the first level table. -/
def ptdL2Of (cfg : SetupConfig) (entry : XmU32) (s : SetupState)
    : Run (Option (PageRef × XmU32) × SetupState) := do
  let word ← lift (load cfg entry s)
  if word &&& _PG_ARCH_PRESENT = 0 then newPtdL2 cfg entry s else presentPtdL2 cfg entry s

/-- A page, and where and how a partition sees it. -/
structure Mapping where
  pAddr : XmU32
  vAddr : XmU32
  flags : XmU32

/-- The entry of a page in a second level table. -/
def Mapping.entry (mapping : Mapping) : XmU32 :=
  ptdL2Entry mapping.pAddr mapping.flags

/-- `VmMapUserPage`, with the first level table where it is mapped; `false` stands for -1. -/
def vmMapUserPage (cfg : SetupConfig) (ptdL1 : XmU32) (mapping : Mapping) (s : SetupState)
    : Run (Bool × SetupState) := do
  lift (assertUserPage mapping.pAddr mapping.vAddr)
  let table ← ptdL2Of cfg (ptdL1 + BitVec.ofNat 32 (4 * va2PtdL1 mapping.vAddr)) s
  match table.1 with
  | none => pure (false, table.2)
  | some (pagePtdL2, pPtdL2) => do
      let s ← store cfg false (pPtdL2 + BitVec.ofNat 32 (4 * va2PtdL2 mapping.vAddr))
        mapping.entry table.2
      let s ← lift (unlockPage (physPage pagePtdL2) s)
      pure (true, s)

/-- A loop that is left at the first failure. -/
def forEach {α : Type} (step : α → SetupState → Run (Bool × SetupState))
    : List α → SetupState → Run (Bool × SetupState)
  | [], s => pure (true, s)
  | a :: rest, s => do
      let done ← step a s
      if done.1 then forEach step rest done.2 else pure (false, done.2)

/-- The pages from `addr` on that satisfy the condition of a loop, as they are mapped from `vAddr`
on. Before the address space has been gone through, `VmMapUserPage` has come to a virtual address
of the hypervisor.
-/
def pagesWhile (more : XmU32 → Bool) (flags : XmU32) : Nat → XmU32 → XmU32 → List Mapping
  | 0, _, _ => []
  | fuel + 1, addr, vAddr =>
      if more addr then
        { pAddr := addr, vAddr, flags }
          :: pagesWhile more flags fuel (addr + PAGE_SIZE) (vAddr + PAGE_SIZE)
      else
        []

/-- The loops from `a` up to `b`, where `size` bytes end. -/
def rangePages (a size vAddr flags : XmU32) : List Mapping :=
  pagesWhile (fun addr => a ≤ addr && addr < a + size - 1) flags (2 ^ 20) a vAddr

/-- The attributes with which the first loop maps an area. -/
def areaAttr (area : XmcMemoryArea) : XmU32 :=
  _PG_ATTR_PRESENT ||| _PG_ATTR_USER
    ||| (if area.flags &&& XM_MEM_AREA_UNCACHEABLE = 0 then _PG_ATTR_CACHED else 0)
    ||| (if area.flags &&& XM_MEM_AREA_READONLY = 0 then _PG_ATTR_RW else 0)

/-- The attributes with which the last loop maps the page tables. -/
def tableAttr (area : XmcMemoryArea) : XmU32 :=
  _PG_ATTR_PRESENT ||| _PG_ATTR_USER
    ||| (if area.flags &&& XM_MEM_AREA_UNCACHEABLE = 0 then _PG_ATTR_CACHED else 0)

/-- The pages of the areas that are mapped. -/
def areaMappings (cfg : SetupConfig) (attr : XmcMemoryArea → XmU32) : List Mapping :=
  (cfg.areas.filter fun area => area.flags &&& UserPages.XM_MEM_AREA_UNMAPPED = 0).flatMap
    fun area => rangePages area.startAddr area.size area.mappedAt (attr area)

/-- The pages of the control tables. -/
def pctMappings (cfg : SetupConfig) : List Mapping :=
  pagesWhile (fun addr => addr < cfg.pctArray + cfg.pctArraySize)
    (_PG_ATTR_PRESENT ||| _PG_ATTR_USER) (2 ^ 20) cfg.pctArray XM_PCTRLTAB_ADDR

/-- The custom files, one behind the other. -/
def customFileMappings (flags : XmU32) : List (XmU32 × XmU32) → XmU32 → List Mapping
  | [], _ => []
  | file :: files, vAddr =>
      let pages := rangePages file.1 file.2 vAddr flags
      pages ++ customFileMappings flags files
        (vAddr + BitVec.ofNat 32 (PAGE_SIZE.toNat * pages.length))

/-- What `SetupLdr` maps: the stack and the code of the loader, and the files of the partition. -/
def ldrMappings (cfg : SetupConfig) (at_ : XmU32) : List Mapping :=
  let attr := _PG_ATTR_PRESENT ||| _PG_ATTR_USER ||| _PG_ATTR_CACHED
  let image := rangePages cfg.imgStart cfg.imgSize cfg.imgStart attr
  rangePages cfg.ldrStack ldrStackSize (at_ - ldrStackSize) (attr ||| _PG_ATTR_RW)
    ++ rangePages cfg.sldr ldrSize at_ attr
    ++ image
    ++ customFileMappings attr cfg.customFileTab
      (cfg.imgStart + BitVec.ofNat 32 (PAGE_SIZE.toNat * image.length))

/-- `SetupLdr`, which is given the pool by value. -/
def setupLdr (cfg : SetupConfig) (ptdL1 at_ : XmU32) (s : SetupState)
    : Run (Bool × SetupState) := do
  lift (assert (cfg.eldr - cfg.sldr ≤ ldrSize))
  lift (assert (cfg.customFileTab.length ≤ CONFIG_MAX_NO_CUSTOMFILES))
  let done ← forEach (vmMapUserPage cfg ptdL1) (ldrMappings cfg at_) s
  pure (done.1, { done.2 with pool := s.pool })

/-- The body of the last loop: the page is counted, and a page table is mapped read-only. -/
def protectPage (cfg : SetupConfig) (ptdL1 : XmU32) (mapping : Mapping) (s : SetupState)
    : Run (Bool × SetupState) := do
  let found ← lift (pmmFindPage cfg.tables cfg.partition mapping.pAddr)
  match found with
  | none => pure (true, s)
  | some page =>
      let s := { s with mem := pPagIncCounter page s.mem }
      if (s.mem.page page).type ≠ .std then
        vmMapUserPage cfg ptdL1 mapping s
      else
        pure (true, s)

/-- The loops of `SetupPageTable`, one after the other as long as none fails. -/
def setupMappings (cfg : SetupConfig) (ptdL1 : XmU32) (s : SetupState)
    : Run (Bool × SetupState) := do
  let areas ← forEach (vmMapUserPage cfg ptdL1) (areaMappings cfg areaAttr) s
  if areas.1 then do
    lift (assert (cfg.pctArraySize ≠ 0))
    let tables ← forEach (vmMapUserPage cfg ptdL1) (pctMappings cfg) areas.2
    if tables.1 then do
      let loader ← setupLdr cfg ptdL1 (XM_PCTRLTAB_ADDR - ldrSize) tables.2
      if loader.1 then
        forEach (protectPage cfg ptdL1) (areaMappings cfg tableAttr) loader.2
      else
        pure (false, loader.2)
    else
      pure (false, tables.2)
  else
    pure (false, areas.2)

/-- `SetupPageTable`; `none` stands for `~0`. -/
def setupPageTable (cfg : SetupConfig) (s : SetupState) : Run (Option XmU32 × SetupState) := do
  let allocated ← allocMem cfg PTDL1SIZE PTDL1SIZE s
  let pT := allocated.1
  if pT = ~~~0 then
    pure (none, allocated.2)
  else do
    let found ← lift (pmmFindPage cfg.tables cfg.partition pT)
    match found with
    | none => pure (none, allocated.2)
    | some pagePtdL1 => do
        let s := { allocated.2 with mem := useTable .ptdL1 pagePtdL1 allocated.2.mem }
        let mapped ← lift (mapPage cfg pT (physPage pagePtdL1) s)
        let s ← forWords (fun word => writeByPassMmuWord cfg false word 0) PTDL1ENTRIES mapped.1
          mapped.2
        let done ← setupMappings cfg mapped.1 s
        if done.1 then do
          let s ← lift (unlockPage (physPage pagePtdL1) done.2)
          pure (some pT, s)
        else
          pure (none, done.2)

end XtratuM.TableSetup
