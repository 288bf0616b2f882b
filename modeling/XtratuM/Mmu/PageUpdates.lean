import XtratuM.Kernel.UserPages
import XtratuM.Library.WordMemory

/-! The hypercalls with which a partition updates its page tables: they change words of its pages
and the types of the pages, check what a page that becomes a table contains, and count the
entries that point at a page.
-/

namespace XtratuM.Mmu

open Guest (CONFIG_XM_OFFSET)
open UserPages

def PTDL2ENTRIES : Nat := 1024

def _PG_ARCH_PSE : XmU32 := 0x080

def XM_MEM_AREA_READONLY : XmU32 := 1 <<< 2
def XM_MEM_AREA_UNCACHEABLE : XmU32 := 1 <<< 3

/-- The memory of the configuration, with the areas of one partition made of whole pages that the
regions hold, and for each vCPU of the partition where its control table is and how large.
`pgTables` is the hypervisor's own page directory.
-/
structure MmuConfig where
  tables : MemoryTables
  partition : PartitionAreas
  noVCpus : XmU32
  partCtrlTab : XmU32 → XmU32 × XmU32
  pgTables : Nat → XmU32
  inside : partition.Inside tables
  aligned : ∀ memArea ∈ tables.xmcPhysMemAreaTab,
    PageAligned memArea.startAddr ∧ PageAligned memArea.size
  located : ∀ memArea ∈ tables.xmcPhysMemAreaTab, ∃ region, Located tables memArea region

/-- Physical memory, `physPageTab` and `kArch.ptdL1` of each vCPU of the partition. CR3 holds that
of the running one.
-/
structure State where
  byte : WordMemory.Memory
  physPageTab : Nat → XmU32 → PhysPage
  ptdL1 : XmU32 → XmU32

def State.page (s : State) (ref : PageRef) : PhysPage :=
  s.physPageTab ref.region ref.page

def State.setPage (s : State) (ref : PageRef) (page : PhysPage) : State :=
  { s with
    physPageTab := fun region index =>
      if region = ref.region ∧ index = ref.page then page else s.physPageTab region index }

def State.word (s : State) (pAddr : XmU32) : XmU32 := WordMemory.word s.byte pAddr

def State.setWord (s : State) (pAddr value : XmU32) : State :=
  { s with byte := WordMemory.setWord s.byte pAddr value }

-----------------------------------------------------------------------------------------
-- Entries

/-- `IS_PTD_PRESENT` and `IS_PTE_PRESENT`. -/
def IsPresent (entry : XmU32) : Prop := entry &&& _PG_ARCH_PRESENT ≠ 0

instance (entry : XmU32) : Decidable (IsPresent entry) :=
  inferInstanceAs (Decidable (_ ≠ _))

/-- `GET_PTD_ADDR` and `GET_PTE_ADDR`. -/
def getAddr (entry : XmU32) : XmU32 := entry &&& PAGE_MASK

def setPtdNotPresent (entry : XmU32) : XmU32 := entry &&& ~~~_PG_ARCH_PRESENT

def setPteROnly (entry : XmU32) : XmU32 := entry &&& ~~~_PG_ARCH_RW

/-- `SET_PTE_UNCACHED`, which clears the bit that disables the cache. -/
def setPteUncached (entry : XmU32) : XmU32 := entry &&& ~~~_PG_ARCH_PCD

/-- `GET_USER_PTD_ENTRIES`. -/
def userPtdEntries : Nat := va2PtdL1 CONFIG_XM_OFFSET

/-- The index of an entry in its table. -/
def entryIndex (pAddr : XmU32) : Nat := (pAddr >>> 2 &&& 1023).toNat

/-- `IS_VALID_PTD_PTR`. -/
def isValidPtdPtr (type : PPagType) (pAddr : XmU32) : Bool :=
  type = .ptdL1 && entryIndex pAddr < userPtdEntries

/-- `IS_VALID_PTD_ENTRY`. -/
def isValidPtdEntry (type : PPagType) : Bool := type = .ptdL2

/-- `IsPCtrlTabPg` for a vCPU. -/
def isPCtrlTabPg (cfg : MmuConfig) (vCpuId addr : XmU32) : Bool :=
  let a := (cfg.partCtrlTab vCpuId).1
  let b := a + (cfg.partCtrlTab vCpuId).2
  a ≤ addr && addr < b

/-- `VmArchAttr2Attr`. -/
def vmArchAttr2Attr (entry : XmU32) : XmU32 :=
  let flags := entry &&& (PAGE_SIZE - 1)
  (if flags &&& _PG_ARCH_PRESENT ≠ 0 then _PG_ATTR_PRESENT else 0)
    ||| (if flags &&& _PG_ARCH_USER ≠ 0 then _PG_ATTR_USER else 0)
    ||| (if flags &&& _PG_ARCH_RW ≠ 0 then _PG_ATTR_RW else 0)
    ||| (if flags &&& _PG_ARCH_PCD = 0 then _PG_ATTR_CACHED else 0)
    ||| flags &&& ~~~(_PG_ARCH_PRESENT ||| _PG_ARCH_USER ||| _PG_ARCH_RW ||| _PG_ARCH_PCD)

/-- `PPagIncCounter`, which cannot overflow into its `PartitionPanic`: no 27-bit counter equals
`~0`.
-/
def pPagIncCounter (ref : PageRef) (s : State) : State :=
  s.setPage ref { s.page ref with counter := (s.page ref).counter + 1 }

/-- `PPagDecCounter`. -/
def pPagDecCounter (ref : PageRef) (s : State) : Except Stop State :=
  if (s.page ref).counter = 0 then
    .error .partitionPanic
  else
    .ok (s.setPage ref { s.page ref with counter := (s.page ref).counter - 1 })

/-- The decrements after the two ASSERTs. -/
def releasePage (isValid : PPagType → Bool) (ref : PageRef) (s : State) : Except Stop State := do
  assert (isValid (s.page ref).type = true)
  assert (0 < (s.page ref).counter)
  pPagDecCounter ref s

-----------------------------------------------------------------------------------------
-- Updates of one entry

/-- The first half of `UpdatePtd`. -/
def countPtd (cfg : MmuConfig) (val : XmU32) (s : State) : Except Stop (XmRet × State) :=
  if IsPresent val then do
    let found ← pmmFindPage cfg.tables cfg.partition (getAddr val)
    match found with
    | none => pure (.invalidParam, s)
    | some page =>
        if isValidPtdEntry (s.page page).type then
          pure (.ok, pPagIncCounter page s)
        else
          pure (.invalidParam, s)
  else
    .ok (.ok, s)

/-- The second half of `UpdatePtd`. -/
def dropPtd (cfg : MmuConfig) (oldVal : XmU32) (s : State) : Except Stop (XmRet × State) :=
  if IsPresent oldVal then do
    let found ← pmmFindPage cfg.tables cfg.partition (getAddr oldVal)
    match found with
    | none => pure (.invalidParam, s)
    | some page => do
        let s ← releasePage isValidPtdEntry page s
        pure (.ok, s)
  else
    .ok (.ok, s)

/-- `UpdatePtd`, with the word to write unless the update is refused. -/
def updatePtd (cfg : MmuConfig) (pagePtd : PageRef) (pAddr val : XmU32) (s : State)
    : Except Stop (Option XmU32 × State) :=
  if !isValidPtdPtr (s.page pagePtd).type pAddr then
    .ok (none, s)
  else do
    let oldVal := s.word pAddr
    let counted ← countPtd cfg val s
    if counted.1 = .ok then do
      let dropped ← dropPtd cfg oldVal counted.2
      pure (if dropped.1 = .ok then some val else none, dropped.2)
    else
      pure (none, counted.2)

/-- What an entry points at: a page of the partition, a control table or other memory of the
partition, with `areaFlags`.
-/
structure PteTarget where
  page : Option PageRef
  isPCtrlTab : Bool
  areaFlags : XmU32
  deriving DecidableEq

/-- The search of `UpdatePte` for the target of an entry. For a control table `areaFlags` is what
the stack had in its place.
-/
def findPteTarget (cfg : MmuConfig) (vCpuId stack addr : XmU32)
    : Except Stop (Option PteTarget) := do
  let found ← pmmFindPage cfg.tables cfg.partition addr
  match found with
  | some page => pure (some { page := some page, isPCtrlTab := false, areaFlags := page.flags })
  | none =>
      if isPCtrlTabPg cfg vCpuId addr then
        pure (some { page := none, isPCtrlTab := true, areaFlags := stack })
      else do
        let area ← pmmFindAddr cfg.tables cfg.partition addr
        pure (area.map fun flags => { page := none, isPCtrlTab := false, areaFlags := flags })

/-- The type of the page of a target, if it has one. -/
def PteTarget.type (target : PteTarget) (s : State) : Option PPagType :=
  target.page.map fun page => (s.page page).type

/-- The entry that `UpdatePte` writes. -/
def newPte (target : PteTarget) (type : Option PPagType) (val : XmU32) : XmU32 :=
  let attr := vmArchAttr2Attr val
  let attr :=
    if target.areaFlags &&& XM_MEM_AREA_READONLY ≠ 0 then attr &&& ~~~_PG_ATTR_RW else attr
  let attr :=
    if target.areaFlags &&& XM_MEM_AREA_UNCACHEABLE ≠ 0 then
      attr &&& ~~~_PG_ATTR_CACHED
    else attr
  let attr :=
    match type with
    | some type => if type ≠ .std then attr &&& ~~~_PG_ATTR_RW else attr
    | none => if target.isPCtrlTab then attr &&& ~~~_PG_ATTR_RW else attr
  (val &&& PAGE_MASK) ||| vmAttr2ArchAttr attr

/-- The first half of `UpdatePte`, with the word to write unless the update is refused. -/
def countPte (cfg : MmuConfig) (vCpuId stack val : XmU32) (s : State)
    : Except Stop (Option XmU32 × State) :=
  if IsPresent val then do
    let found ← findPteTarget cfg vCpuId stack (getAddr val)
    match found with
    | none => pure (none, s)
    | some target =>
        let new := newPte target (target.type s) val
        match target.page with
        | some page => pure (some new, pPagIncCounter page s)
        | none => pure (some new, s)
  else
    .ok (some val, s)

/-- The second half of `UpdatePte`. -/
def dropPte (cfg : MmuConfig) (vCpuId oldVal : XmU32) (s : State)
    : Except Stop (XmRet × State) :=
  if IsPresent oldVal then do
    let found ← findPteTarget cfg vCpuId 0 (getAddr oldVal)
    match found with
    | none => pure (.invalidParam, s)
    | some target =>
        match target.page with
        | some page => do
            let s ← releasePage (fun _ => true) page s
            pure (.ok, s)
        | none => pure (.ok, s)
  else
    .ok (.ok, s)

/-- `UpdatePte`, with the word to write unless the update is refused. -/
def updatePte (cfg : MmuConfig) (vCpuId stack pAddr val : XmU32) (s : State)
    : Except Stop (Option XmU32 × State) := do
  let oldVal := s.word pAddr
  let counted ← countPte cfg vCpuId stack val s
  match counted.1 with
  | none => pure (none, counted.2)
  | some new => do
      let dropped ← dropPte cfg vCpuId oldVal counted.2
      pure (if dropped.1 = .ok then some new else none, dropped.2)

/-- `UpdatePPag32HndlTab`. -/
def updatePPag32Hndl (cfg : MmuConfig) (vCpuId stack : XmU32) (page : PageRef)
    (pAddr val : XmU32) (s : State) : Except Stop (Option XmU32 × State) :=
  match (s.page page).type with
  | .ptdL1 => updatePtd cfg page pAddr val s
  | .ptdL2 => updatePte cfg vCpuId stack pAddr val s
  | _ => .ok (some val, s)

/-- `UpdatePage32Sys`. -/
def updatePage32Sys (cfg : MmuConfig) (vCpuId stack pAddr val : XmU32) (s : State)
    : Except Stop (XmRet × State) :=
  if pAddr &&& 3 ≠ 0 then
    .ok (.invalidParam, s)
  else do
    let found ← pmmFindPage cfg.tables cfg.partition pAddr
    match found with
    | none => pure (.invalidParam, s)
    | some page => do
        let updated ← updatePPag32Hndl cfg vCpuId stack page pAddr val s
        match updated.1 with
        | none => pure (.invalidParam, updated.2)
        | some new => pure (.ok, updated.2.setWord pAddr new)

-----------------------------------------------------------------------------------------
-- Pages that become tables and tables that become pages

/-- The address of entry `e` of the table at `pAddr`. A page is mapped alone, and what lies behind
it is not its own.
-/
def entryAddr (pAddr : XmU32) (e : Nat) : Except Stop XmU32 :=
  if (pAddr &&& (PAGE_SIZE - 1)).toNat + 4 * e + 3 < 4096 then
    .ok (pAddr + BitVec.ofNat 32 (4 * e))
  else
    .error .badAccess

/-- A loop over entries, with whether it came to its end: a round may return from the function. -/
def forEntries (round : Nat → State → Except Stop (Bool × State))
    : List Nat → State → Except Stop (Bool × State)
  | [], s => .ok (true, s)
  | e :: rest, s => do
      let done ← round e s
      if done.1 then forEntries round rest done.2 else pure (false, done.2)

/-- A round of `UnsetPtd` and `UnsetPte`. -/
def unsetEntry (cfg : MmuConfig) (isValid : PPagType → Bool) (pAddr : XmU32) (e : Nat)
    (s : State) : Except Stop (Bool × State) := do
  let addr ← entryAddr pAddr e
  if IsPresent (s.word addr) then do
    let found ← pmmFindPage cfg.tables cfg.partition (getAddr (s.word addr))
    match found with
    | none => pure (false, s)
    | some page => do
        let s ← releasePage isValid page s
        pure (true, s)
  else
    pure (true, s)

/-- A round of `SetPtd`. -/
def setPtdEntry (cfg : MmuConfig) (pAddr : XmU32) (e : Nat) (s : State)
    : Except Stop (Bool × State) := do
  let addr ← entryAddr pAddr e
  let val := s.word addr
  if IsPresent val then do
    let found ← pmmFindPage cfg.tables cfg.partition (getAddr val)
    match found with
    | none => pure (false, s)
    | some page =>
        if isValidPtdEntry (s.page page).type then
          pure (true, pPagIncCounter page s)
        else
          pure (true, s.setWord addr (setPtdNotPresent val))
  else
    pure (true, s)

/-- The search of `SetPte` for the target of an entry, which leaves the control tables out. -/
def findSetTarget (cfg : MmuConfig) (addr : XmU32) : Except Stop (Option PteTarget) := do
  let found ← pmmFindPage cfg.tables cfg.partition addr
  match found with
  | some page => pure (some { page := some page, isPCtrlTab := false, areaFlags := page.flags })
  | none => do
      let area ← pmmFindAddr cfg.tables cfg.partition addr
      pure (area.map fun flags => { page := none, isPCtrlTab := false, areaFlags := flags })

/-- The entry that `SetPte` writes. -/
def checkedPte (target : PteTarget) (type : Option PPagType) (val : XmU32) : XmU32 :=
  let val := if target.areaFlags &&& XM_MEM_AREA_READONLY ≠ 0 then setPteROnly val else val
  let val := if target.areaFlags &&& XM_MEM_AREA_UNCACHEABLE ≠ 0 then setPteUncached val else val
  match type with
  | some type => if type ≠ .std then setPteROnly val else val
  | none => val

/-- A round of `SetPte`. -/
def setPteEntry (cfg : MmuConfig) (pAddr : XmU32) (e : Nat) (s : State)
    : Except Stop (Bool × State) := do
  let addr ← entryAddr pAddr e
  let val := s.word addr
  if IsPresent val then do
    let found ← findSetTarget cfg (getAddr val)
    match found with
    | none => pure (false, s)
    | some target =>
        let new := checkedPte target (target.type s) val
        match target.page with
        | some page => pure (true, (pPagIncCounter page s).setWord addr new)
        | none => pure (true, s.setWord addr new)
  else
    pure (true, s)

/-- A round of `SetupPtdL1`. -/
def setupPtdL1Entry (cfg : MmuConfig) (pAddr : XmU32) (e : Nat) (s : State)
    : Except Stop (Bool × State) := do
  let addr ← entryAddr pAddr e
  pure (true, s.setWord addr (cfg.pgTables e))

/-- `SetupPtdL1`. -/
def setupPtdL1 (cfg : MmuConfig) (pAddr : XmU32) (s : State) : Except Stop State := do
  let entries := (List.range PTDL1ENTRIES).drop userPtdEntries
  let done ← forEntries (setupPtdL1Entry cfg pAddr) entries s
  pure done.2

/-- `SetPtd`. -/
def setPtd (cfg : MmuConfig) (pAddr : XmU32) (s : State) : Except Stop State := do
  let done ← forEntries (setPtdEntry cfg pAddr) (List.range userPtdEntries) s
  if done.1 then setupPtdL1 cfg pAddr done.2 else pure done.2

/-- `UnsetPPagTypeHndlTab`. -/
def unsetPPagTypeHndl (cfg : MmuConfig) (old : PPagType) (pAddr : XmU32) (s : State)
    : Except Stop State :=
  match old with
  | .ptdL1 =>
      (forEntries (unsetEntry cfg isValidPtdEntry pAddr) (List.range userPtdEntries) s).map Prod.snd
  | .ptdL2 =>
      (forEntries (unsetEntry cfg (fun _ => true) pAddr) (List.range PTDL2ENTRIES) s).map Prod.snd
  | _ => .ok s

/-- `SetPPagTypeHndlTab`. -/
def setPPagTypeHndl (cfg : MmuConfig) (type : PPagType) (pAddr : XmU32) (s : State)
    : Except Stop State :=
  match type with
  | .ptdL1 => setPtd cfg pAddr s
  | .ptdL2 => (forEntries (setPteEntry cfg pAddr) (List.range PTDL2ENTRIES) s).map Prod.snd
  | _ => .ok s

/-- The types below `NR_PPAG`. -/
def pPagTypeOf (type : XmU32) : Option PPagType :=
  [PPagType.std, .ptdL1, .ptdL2][type.toNat]?

/-- `SetPageTypeSys` once the page is found. -/
def retypePage (cfg : MmuConfig) (pAddr : XmU32) (type : PPagType) (page : PageRef) (s : State)
    : Except Stop (XmRet × State) :=
  if type = (s.page page).type then
    .ok (.noAction, s)
  else if (s.page page).counter ≠ 0 then
    .ok (.opNotAllowed, s)
  else do
    let unset ← unsetPPagTypeHndl cfg (s.page page).type pAddr s
    let set ← setPPagTypeHndl cfg type pAddr unset
    pure (.ok, set.setPage page { set.page page with type })

/-- `SetPageTypeSys`. -/
def setPageTypeSys (cfg : MmuConfig) (pAddr type : XmU32) (s : State)
    : Except Stop (XmRet × State) :=
  match pPagTypeOf type with
  | none => .ok (.invalidParam, s)
  | some type => do
      let found ← pmmFindPage cfg.tables cfg.partition pAddr
      match found with
      | none => pure (.invalidParam, s)
      | some page => retypePage cfg pAddr type page s

end XtratuM.Mmu
