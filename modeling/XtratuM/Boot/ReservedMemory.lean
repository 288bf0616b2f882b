import Mathlib.Data.Fintype.Card
import XtratuM.Guest.Access
import XtratuM.Kernel.PhysMm
import XtratuM.Library.Pools

/-! Reserved memory: the blocks that `xmcparser` lays out behind the configuration, and the requests
that the kernel makes for them with `GET_MEM` and its like while it boots.
-/

namespace XtratuM.Boot
open XtratuM.Guest

def ALIGNMENT : XmU32 := 4
def LPAGE_SIZE : XmU32 := 4 * 1024 * 1024
def PTDL2SIZE : XmU32 := 4096
def XM_VMAPEND : XmU32 := 0xffffffff
def CONFIG_XM_LOAD_ADDR : XmU32 := 0x1000000
def RSV_MEM_USED : XmU32 := 0x80000000

/-- `sizeof` of a pointer, of `xm_s32_t` and of `xmWord_t`. -/
def wordSize : XmU32 := 4

/-- The sizes of the kernel's types. The build writes them to `gen_offsets.h`, where `xmcparser`
reads them as `_KTHREAD_T_SIZEOF` and its like.
-/
structure Sizes where
  kThread : XmU32
  guest : XmU32
  partition : XmU32
  partitionControlTable : XmU32
  xmPhysicalMemMap : XmU32
  physPage : XmU32
  kDevice : XmU32
  memBlockData : XmU32
  schedData : XmU32
  console : XmU32
  xmPartitionStatus : XmU32
  logStream : XmU32
  channel : XmU32
  port : XmU32
  msg : XmU32
  deriving Repr

/-- The fields of `struct xmcPartition` that sizes are computed from. -/
structure XmcPartition where
  noVCpus : XmU32
  noPhysicalMemoryAreas : XmU32
  noPorts : XmU32
  deriving Repr

/-- `struct xmcCommChannel`. -/
inductive XmcCommChannel
  | sampling (maxLength noReceivers : XmU32)
  | queuing (maxLength maxNoMsgs : XmU32)
  deriving Repr

/-- The parts of a configuration that decide which memory is reserved and asked for. -/
structure Configuration where
  xmcPartitionTab : List XmcPartition
  xmcCommChannelTab : List XmcCommChannel
  noCommPorts : XmU32
  xmcMemRegTab : List XmcMemoryRegion
  /-- The first memory area of the hypervisor. -/
  hpvArea : XmcMemoryArea
  noMemBlocks : XmU32
  noCpus : XmU32
  deriving Repr

def Configuration.noPartitions (cfg : Configuration) : XmU32 :=
  .ofNat 32 cfg.xmcPartitionTab.length

def Configuration.noCommChannels (cfg : Configuration) : XmU32 :=
  .ofNat 32 cfg.xmcCommChannelTab.length

def Configuration.noRegions (cfg : Configuration) : XmU32 :=
  .ofNat 32 cfg.xmcMemRegTab.length

/-- A block of reserved memory, or a request for one. -/
structure Block where
  size : XmU32
  align : XmU32
  deriving DecidableEq, Repr

def _PHYS2VIRT (x : XmU32) : XmU32 := x + CONFIG_XM_OFFSET - CONFIG_XM_LOAD_ADDR

def ROUNDUP (r v : XmU32) : XmU32 := (~~~r + 1 &&& v - 1) + r

-----------------------------------------------------------------------------------------
-- The blocks of `xmcparser`

def rsvBlock (size align : XmU32) : List Block :=
  if size = 0 ∨ align = 0 then [] else [⟨size, align⟩]

def archMmuRsvMem (hpvArea : XmcMemoryArea) : List Block :=
  let last := ROUNDUP (_PHYS2VIRT hpvArea.startAddr + hpvArea.size) LPAGE_SIZE
  rsvBlock (((XM_VMAPEND - last + 1) >>> 22) * PTDL2SIZE) PTDL2SIZE

def archLdrRsvMem (cfg : Configuration) : List Block :=
  cfg.xmcPartitionTab.flatMap fun _ => rsvBlock (18 * PAGE_SIZE) PAGE_SIZE

/-- The size of the control tables of a partition in `GenerateRsvMem`. -/
def rsvControlTables (sizes : Sizes) (partition : XmcPartition) : XmU32 :=
  partition.noVCpus
    * (sizes.partitionControlTable + sizes.xmPhysicalMemMap * partition.noPhysicalMemoryAreas
      + if partition.noPorts &&& ((1 <<< 5) - 1) ≠ 0 then
          partition.noPorts.sshiftRight 5 + wordSize
        else
          partition.noPorts.sshiftRight 5)

/-- The blocks of the receivers of a channel. -/
def XmcCommChannel.rsvReceivers : XmcCommChannel → List Block
  | .sampling _ noReceivers =>
      if noReceivers ≠ 0 then
        rsvBlock (noReceivers * wordSize) ALIGNMENT ++ rsvBlock (noReceivers * wordSize) ALIGNMENT
      else []
  | .queuing _ _ => []

/-- The blocks of the messages of a channel. -/
def XmcCommChannel.rsvMessages (sizes : Sizes) : XmcCommChannel → List Block
  | .sampling maxLength _ => rsvBlock maxLength ALIGNMENT
  | .queuing maxLength maxNoMsgs =>
      rsvBlock (maxNoMsgs * sizes.msg) ALIGNMENT
      ++ (List.range maxNoMsgs.toInt.toNat).flatMap fun _ => rsvBlock maxLength ALIGNMENT

def generateRsvMem (sizes : Sizes) (cfg : Configuration) : List Block :=
  (cfg.xmcPartitionTab.flatMap fun partition =>
      rsvBlock (partition.noVCpus * wordSize) ALIGNMENT
      ++ (List.range partition.noVCpus.toNat).flatMap fun _ =>
          rsvBlock sizes.kThread ALIGNMENT ++ rsvBlock sizes.guest ALIGNMENT)
  ++ rsvBlock (cfg.noPartitions * sizes.partition) ALIGNMENT
  ++ cfg.xmcCommChannelTab.flatMap XmcCommChannel.rsvReceivers
  ++ rsvBlock (cfg.noRegions * wordSize) ALIGNMENT
  ++ (cfg.xmcMemRegTab.flatMap fun region =>
      if region.flags &&& XMC_REG_FLAG_PGTAB ≠ 0 then
        rsvBlock (region.size / PAGE_SIZE * sizes.physPage) ALIGNMENT
      else [])
  ++ archMmuRsvMem cfg.hpvArea
  ++ (cfg.xmcPartitionTab.flatMap fun partition =>
      rsvBlock (rsvControlTables sizes partition) PAGE_SIZE)
  ++ archLdrRsvMem cfg
  ++ rsvBlock (cfg.noMemBlocks * sizes.kDevice) ALIGNMENT
  ++ rsvBlock (cfg.noMemBlocks * sizes.memBlockData) ALIGNMENT
  ++ rsvBlock (cfg.noCpus * sizes.schedData) ALIGNMENT
  ++ rsvBlock (cfg.noPartitions * sizes.console) ALIGNMENT
  ++ rsvBlock (cfg.noPartitions * sizes.xmPartitionStatus) ALIGNMENT
  ++ rsvBlock (cfg.noPartitions * sizes.logStream) ALIGNMENT
  ++ rsvBlock (cfg.noCommChannels * sizes.channel) ALIGNMENT
  ++ rsvBlock (cfg.noCommPorts * sizes.port) ALIGNMENT
  ++ cfg.xmcCommChannelTab.flatMap (XmcCommChannel.rsvMessages sizes)

-----------------------------------------------------------------------------------------
-- The requests of the kernel

/-- The request of `GET_MEMA`, `GET_MEMAZ`, `GET_MEM` or `GET_MEMZ`. -/
def getMem (size align : XmU32) : List Block :=
  if size = 0 then [] else [⟨size, align⟩]

def setupVmMap (hpvArea : XmcMemoryArea) : List Block :=
  let st := hpvArea.startAddr
  let last := st + hpvArea.size - 1
  let stFrameArea := ROUNDUP (_PHYS2VIRT (last + 1)) LPAGE_SIZE
  let noPages := (XM_VMAPEND - stFrameArea + 1) >>> 22
  getMem (PTDL2SIZE * noPages) PTDL2SIZE

def setupPhysMM (sizes : Sizes) (cfg : Configuration) : List Block :=
  getMem (wordSize * cfg.noRegions) ALIGNMENT
  ++ cfg.xmcMemRegTab.flatMap fun region =>
      if region.flags &&& XMC_REG_FLAG_PGTAB ≠ 0 then
        getMem (sizes.physPage * (region.size / PAGE_SIZE)) ALIGNMENT
      else []

def initMemBlock (sizes : Sizes) (cfg : Configuration) : List Block :=
  getMem (sizes.kDevice * cfg.noMemBlocks) ALIGNMENT
  ++ getMem (sizes.memBlockData * cfg.noMemBlocks) ALIGNMENT

def setupConsole (sizes : Sizes) (cfg : Configuration) : List Block :=
  getMem (sizes.console * cfg.noPartitions) ALIGNMENT

def setupTrace (sizes : Sizes) (cfg : Configuration) : List Block :=
  getMem (sizes.logStream * cfg.noPartitions) ALIGNMENT

def setupStatus (sizes : Sizes) (cfg : Configuration) : List Block :=
  getMem (sizes.xmPartitionStatus * cfg.noPartitions) ALIGNMENT

/-- The requests of `SetupComm` for one channel. -/
def XmcCommChannel.setup (sizes : Sizes) : XmcCommChannel → List Block
  | .sampling maxLength noReceivers =>
      getMem maxLength ALIGNMENT ++ getMem (noReceivers * wordSize) ALIGNMENT
      ++ getMem (noReceivers * wordSize) ALIGNMENT
  | .queuing maxLength maxNoMsgs =>
      getMem (sizes.msg * maxNoMsgs) ALIGNMENT
      ++ (List.range maxNoMsgs.toInt.toNat).flatMap fun _ => getMem maxLength ALIGNMENT

def setupComm (sizes : Sizes) (cfg : Configuration) : List Block :=
  getMem (sizes.channel * cfg.noCommChannels) ALIGNMENT
  ++ getMem (sizes.port * cfg.noCommPorts) ALIGNMENT
  ++ cfg.xmcCommChannelTab.flatMap (XmcCommChannel.setup sizes)

def initSched (sizes : Sizes) (cfg : Configuration) : List Block :=
  getMem (sizes.partition * cfg.noPartitions) ALIGNMENT
  ++ getMem (sizes.schedData * cfg.noCpus) ALIGNMENT

def allocKThread (sizes : Sizes) : List Block :=
  getMem sizes.kThread ALIGNMENT ++ getMem sizes.guest ALIGNMENT

/-- `pctSize` of `CreatePartition`. -/
def pctSize (sizes : Sizes) (cfg : XmcPartition) : XmU32 :=
  let size := sizes.partitionControlTable + sizes.xmPhysicalMemMap * cfg.noPhysicalMemoryAreas
    + cfg.noPorts.sshiftRight 5
  if cfg.noPorts &&& ((1 <<< 5) - 1) ≠ 0 then size + wordSize else size

def createPartition (sizes : Sizes) (cfg : XmcPartition) : List Block :=
  getMem (cfg.noVCpus * wordSize) ALIGNMENT
  ++ getMem (pctSize sizes cfg * cfg.noVCpus) PAGE_SIZE
  ++ (List.range cfg.noVCpus.toNat).flatMap fun _ => allocKThread sizes

/-- The request of `SetupLdr` for the stack of the partition loader. -/
def loaderStack : Block := ⟨18 * PAGE_SIZE, PAGE_SIZE⟩

/-- What happens to the reserved memory after `InitRsvMem`: a request, or `SetupLdr` for one of `n`
partitions.
-/
inductive Step (n : Nat)
  | ask (request : Block)
  | setupLdr (p : Fin n)

/-- The requests of a run. `SetupLdr` asks for a stack only while `vLdrStack` of its partition is
0; the argument is the set of those for which it is not.
-/
def requests {n : Nat} : List (Step n) → Finset (Fin n) → List Block
  | [], _ => []
  | .ask request :: later, vLdrStack => request :: requests later vLdrStack
  | .setupLdr p :: later, vLdrStack =>
      if p ∈ vLdrStack then
        requests later vLdrStack
      else
        loaderStack :: requests later (insert p vLdrStack)

/-- `Setup` up to `SetupPartitions`. -/
def setup (sizes : Sizes) (cfg : Configuration) : List Block :=
  setupVmMap cfg.hpvArea ++ setupPhysMM sizes cfg ++ initMemBlock sizes cfg
  ++ setupConsole sizes cfg ++ setupTrace sizes cfg ++ setupComm sizes cfg ++ setupStatus sizes cfg
  ++ initSched sizes cfg

/-- `SetupPartitions`. `boots p` says that partition `p` is one of those to boot and that its
`ResetPartition` comes as far as `SetupLdr`.
-/
def setupPartitions (sizes : Sizes) (cfg : Configuration)
    (boots : Fin cfg.xmcPartitionTab.length → Bool) : List (Step cfg.xmcPartitionTab.length) :=
  (List.finRange cfg.xmcPartitionTab.length).flatMap fun p =>
    (createPartition sizes cfg.xmcPartitionTab[p]).map .ask ++ if boots p then [.setupLdr p] else []

/-- The boot and the resets of partitions that come after it. -/
def run (sizes : Sizes) (cfg : Configuration) (boots : Fin cfg.xmcPartitionTab.length → Bool)
    (resets : List (Fin cfg.xmcPartitionTab.length)) : List (Step cfg.xmcPartitionTab.length) :=
  (setup sizes cfg).map .ask ++ setupPartitions sizes cfg boots ++ resets.map .setupLdr

-----------------------------------------------------------------------------------------
-- The table of reserved blocks

/-- `struct xmcRsvMem`; `xmcRsvMemTab` is the list of the entries before the one without `obj`. -/
structure XmcRsvMem where
  obj : XmU32
  usedAlign : XmU32
  size : XmU32
  deriving DecidableEq, Repr

/-- The block that an entry is of, whether it is in use or not. -/
def XmcRsvMem.block (entry : XmcRsvMem) : Block :=
  ⟨entry.size, entry.usedAlign &&& ~~~RSV_MEM_USED⟩

def initRsvMem (xmcRsvMemTab : List XmcRsvMem) : List XmcRsvMem :=
  xmcRsvMemTab.map fun entry => { entry with usedAlign := entry.usedAlign &&& ~~~RSV_MEM_USED }

/-- `AllocRsvMem`, with the block as its offset from `xmcTab`. -/
def allocRsvMem (request : Block) : List XmcRsvMem → Option (XmU32 × List XmcRsvMem)
  | [] => none
  | entry :: later =>
      if entry.usedAlign &&& RSV_MEM_USED = 0
          ∧ entry.usedAlign &&& ~~~RSV_MEM_USED = request.align ∧ entry.size = request.size then
        some (entry.obj, { entry with usedAlign := entry.usedAlign ||| RSV_MEM_USED } :: later)
      else
        (allocRsvMem request later).map fun (obj, later) => (obj, entry :: later)

/-- Calls of `AllocRsvMem`, whatever becomes of those that return 0. -/
def allocRsvMems : List Block → List XmcRsvMem → List (Option XmU32) × List XmcRsvMem
  | [], tab => ([], tab)
  | request :: later, tab =>
      match allocRsvMem request tab with
      | none =>
          let (objs, tab) := allocRsvMems later tab
          (none :: objs, tab)
      | some (obj, tab) =>
          let (objs, tab) := allocRsvMems later tab
          (some obj :: objs, tab)

/-- The requests of a run, up to the first that panics. -/
def getMems : List Block → List XmcRsvMem → Except Stop (List XmU32 × List XmcRsvMem)
  | [], tab => .ok ([], tab)
  | request :: later, tab =>
      match allocRsvMem request tab with
      | none => .error .systemPanic
      | some (obj, tab) => (getMems later tab).map fun (objs, tab) => (obj :: objs, tab)

/-- A table that the parser generated: its blocks are those reserved, in the order in which `qsort`
leaves them, and they lie at different places. The kernel may have used it before.
-/
structure Generated (sizes : Sizes) (cfg : Configuration) (tab : List XmcRsvMem) : Prop where
  blocks : (tab.map XmcRsvMem.block).Perm (generateRsvMem sizes cfg)
  apart : (tab.map XmcRsvMem.obj).Nodup

-----------------------------------------------------------------------------------------
-- Both sides agree on the sizes

theorem rsvBlock_eq_getMem {size align : XmU32} (aligned : align ≠ 0)
    : rsvBlock size align = getMem size align := by
  simp only [rsvBlock, getMem, aligned, or_false]

@[simp] theorem rsvBlock_ALIGNMENT (size : XmU32)
    : rsvBlock size ALIGNMENT = getMem size ALIGNMENT :=
  rsvBlock_eq_getMem (by decide)

@[simp] theorem rsvBlock_PAGE_SIZE (size : XmU32)
    : rsvBlock size PAGE_SIZE = getMem size PAGE_SIZE :=
  rsvBlock_eq_getMem (by decide)

theorem archMmuRsvMem_eq (hpvArea : XmcMemoryArea)
    : archMmuRsvMem hpvArea = setupVmMap hpvArea := by
  have same : _PHYS2VIRT (hpvArea.startAddr + hpvArea.size - 1 + 1)
      = _PHYS2VIRT hpvArea.startAddr + hpvArea.size := by
    rw [BitVec.sub_add_cancel]
    simp only [_PHYS2VIRT, BitVec.sub_eq_add_neg]
    ac_rfl
  unfold archMmuRsvMem setupVmMap
  simp only [same]
  rw [rsvBlock_eq_getMem (by decide), BitVec.mul_comm]

theorem rsvControlTables_eq (sizes : Sizes) (partition : XmcPartition)
    : rsvControlTables sizes partition = pctSize sizes partition * partition.noVCpus := by
  unfold rsvControlTables pctSize
  rw [BitVec.mul_comm]
  split <;> simp only [BitVec.add_assoc]

theorem archLdrRsvMem_eq (cfg : Configuration)
    : archLdrRsvMem cfg = List.replicate cfg.xmcPartitionTab.length loaderStack := by
  have block : rsvBlock (18 * PAGE_SIZE) PAGE_SIZE = [loaderStack] := rfl
  unfold archLdrRsvMem
  simp only [block]
  induction cfg.xmcPartitionTab with
  | nil => rfl
  | cons partition rest ih => simp [ih, List.replicate_succ]

/-- The receivers of a sampling channel ask for memory only when there are any. -/
theorem XmcCommChannel.setup_perm (sizes : Sizes) (channel : XmcCommChannel)
    : (channel.setup sizes).Perm (channel.rsvReceivers ++ channel.rsvMessages sizes) := by
  cases channel with
  | sampling maxLength noReceivers =>
      by_cases none : noReceivers = 0
      · simp [setup, rsvReceivers, rsvMessages, getMem, none]
      · simp only [setup, rsvReceivers, rsvMessages, rsvBlock_ALIGNMENT, ne_eq, none,
          not_false_eq_true, ↓reduceIte, List.append_assoc]
        rw [← List.append_assoc (getMem (noReceivers * wordSize) ALIGNMENT)]
        exact List.perm_append_comm
  | queuing maxLength maxNoMsgs =>
      simp [setup, rsvReceivers, rsvMessages, BitVec.mul_comm]

/-- The control tables, which `CreatePartition` asks for before its kthreads, come later in
`GenerateRsvMem`.
-/
theorem createPartition_perm (sizes : Sizes) (cfg : XmcPartition)
    : (createPartition sizes cfg).Perm
        ((getMem (cfg.noVCpus * wordSize) ALIGNMENT
            ++ (List.range cfg.noVCpus.toNat).flatMap fun _ => allocKThread sizes)
          ++ getMem (pctSize sizes cfg * cfg.noVCpus) PAGE_SIZE) := by
  unfold createPartition
  rw [List.append_assoc, List.append_assoc]
  exact List.perm_append_comm.append_left _

/-- `GenerateRsvMem` reserves what the set-up functions ask for, and the stacks of the loader. -/
theorem generateRsvMem_perm (sizes : Sizes) (cfg : Configuration)
    : (generateRsvMem sizes cfg).Perm (setup sizes cfg
        ++ cfg.xmcPartitionTab.flatMap (createPartition sizes)
        ++ List.replicate cfg.xmcPartitionTab.length loaderStack) := by
  have partitions := (List.Perm.flatMap_left cfg.xmcPartitionTab fun partition _ =>
    createPartition_perm sizes partition).trans (List.flatMap_append_perm _ _ _).symm
  have channels := (List.Perm.flatMap_left cfg.xmcCommChannelTab fun channel _ =>
    XmcCommChannel.setup_perm sizes channel).trans (List.flatMap_append_perm _ _ _).symm
  apply List.perm_iff_count.mpr
  intro block
  have partitionCount := partitions.count_eq block
  have channelCount := channels.count_eq block
  simp only [generateRsvMem, setup, setupPhysMM, initMemBlock, setupConsole, setupTrace,
    setupStatus, setupComm, initSched, archMmuRsvMem_eq, archLdrRsvMem_eq, rsvControlTables_eq,
    rsvBlock_ALIGNMENT, rsvBlock_PAGE_SIZE, allocKThread, List.count_append, BitVec.mul_comm]
      at partitionCount channelCount ⊢
  omega

-----------------------------------------------------------------------------------------
-- The requests of a run

/-- The requests of the set-up functions alone. -/
def asked {n : Nat} (steps : List (Step n)) : List Block :=
  steps.filterMap fun
    | .ask request => some request
    | .setupLdr _ => none

/-- `SetupLdr` asks for one stack a partition at most, by induction on the steps. -/
theorem requests_perm {n : Nat} (steps : List (Step n)) (vLdrStack : Finset (Fin n))
    : ∃ k, k + vLdrStack.card ≤ n
      ∧ (requests steps vLdrStack).Perm (asked steps ++ List.replicate k loaderStack) := by
  induction steps generalizing vLdrStack with
  | nil =>
      have bound : vLdrStack.card ≤ n := by simpa using Finset.card_le_univ vLdrStack
      exact ⟨0, by omega, by simp [requests, asked]⟩
  | cons step later ih =>
      cases step with
      | ask request =>
          obtain ⟨k, bound, perm⟩ := ih vLdrStack
          exact ⟨k, bound, by simpa [requests, asked] using perm⟩
      | setupLdr p =>
          by_cases has : p ∈ vLdrStack
          · obtain ⟨k, bound, perm⟩ := ih vLdrStack
            exact ⟨k, bound, by simpa [requests, asked, has] using perm⟩
          · obtain ⟨k, bound, perm⟩ := ih (insert p vLdrStack)
            rw [Finset.card_insert_of_notMem has] at bound
            refine ⟨k + 1, by omega, ?_⟩
            rw [List.replicate_succ]
            simp only [requests, has, ↓reduceIte]
            exact (perm.cons loaderStack).trans List.perm_middle.symm

theorem asked_append {n : Nat} (steps later : List (Step n))
    : asked (steps ++ later) = asked steps ++ asked later := by
  simp [asked]

@[simp] theorem asked_map_ask {n : Nat} (blocks : List Block)
    : asked (blocks.map (Step.ask : Block → Step n)) = blocks := by
  simp [asked, List.filterMap_map]

@[simp] theorem asked_map_setupLdr {n : Nat} (partitions : List (Fin n))
    : asked (partitions.map Step.setupLdr) = [] := by
  simp [asked, List.filterMap_map]

theorem asked_setupPartitions (sizes : Sizes) (cfg : Configuration)
    (boots : Fin cfg.xmcPartitionTab.length → Bool)
    : asked (setupPartitions sizes cfg boots)
      = cfg.xmcPartitionTab.flatMap (createPartition sizes) := by
  have one (p : Fin cfg.xmcPartitionTab.length)
      : asked ((createPartition sizes cfg.xmcPartitionTab[p]).map .ask
          ++ if boots p then [.setupLdr p] else [])
        = createPartition sizes cfg.xmcPartitionTab[p] := by
    rw [asked_append, asked_map_ask]
    split <;> simp [asked]
  calc asked (setupPartitions sizes cfg boots)
      = (List.finRange cfg.xmcPartitionTab.length).flatMap fun p =>
          createPartition sizes cfg.xmcPartitionTab[p] := by
        unfold setupPartitions asked
        rw [List.filterMap_flatMap]
        exact congrArg (List.flatMap · _) (funext one)
    _ = ((List.finRange cfg.xmcPartitionTab.length).map (cfg.xmcPartitionTab[·])).flatMap
          (createPartition sizes) := (List.flatMap_map ..).symm
    _ = cfg.xmcPartitionTab.flatMap (createPartition sizes) := by
        exact congrArg _ (List.map_getElem_finRange _)

/-- No run asks for more blocks of a size and alignment than `xmcparser` reserves. -/
theorem requests_subperm (sizes : Sizes) (cfg : Configuration)
    (boots : Fin cfg.xmcPartitionTab.length → Bool)
    (resets : List (Fin cfg.xmcPartitionTab.length))
    : (requests (run sizes cfg boots resets) ∅).Subperm (generateRsvMem sizes cfg) := by
  obtain ⟨k, bound, perm⟩ := requests_perm (run sizes cfg boots resets) ∅
  have setUp : asked (run sizes cfg boots resets)
      = setup sizes cfg ++ cfg.xmcPartitionTab.flatMap (createPartition sizes) := by
    simp [run, asked_append, asked_setupPartitions]
  have loaders : (List.replicate k loaderStack).Sublist
      (List.replicate cfg.xmcPartitionTab.length loaderStack) :=
    (List.replicate_sublist_replicate loaderStack).mpr (by simpa using bound)
  rw [setUp] at perm
  have room := (List.Sublist.refl (setup sizes cfg
    ++ cfg.xmcPartitionTab.flatMap (createPartition sizes))).append loaders
  exact (perm.subperm.trans room.subperm).trans (generateRsvMem_perm sizes cfg).symm.subperm

-----------------------------------------------------------------------------------------
-- The table as a pool

/-- What is free of an entry. -/
def XmcRsvMem.free (entry : XmcRsvMem) : Option Block :=
  if entry.usedAlign &&& RSV_MEM_USED = 0 then some entry.block else none

theorem XmcRsvMem.free_used (entry : XmcRsvMem)
    : XmcRsvMem.free { entry with usedAlign := entry.usedAlign ||| RSV_MEM_USED } = none := by
  have used : (entry.usedAlign ||| RSV_MEM_USED) &&& RSV_MEM_USED ≠ 0 := by
    intro same
    have bit := congrArg (·.getLsbD 31) same
    simp [RSV_MEM_USED] at bit
  simp only [free, used, ↓reduceIte]

theorem XmcRsvMem.block_used (entry : XmcRsvMem)
    : XmcRsvMem.block { entry with usedAlign := entry.usedAlign ||| RSV_MEM_USED }
      = entry.block := by
  simp only [block, Block.mk.injEq, true_and]
  ext i
  cases used : RSV_MEM_USED.getLsbD i <;> simp [← BitVec.getLsbD_eq_getElem, used]

/-- The test of `AllocRsvMem` asks whether the block is free and the one requested. -/
theorem XmcRsvMem.free_eq_some {entry : XmcRsvMem} {request : Block}
    : entry.free = some request
      ↔ entry.usedAlign &&& RSV_MEM_USED = 0
        ∧ entry.usedAlign &&& ~~~RSV_MEM_USED = request.align ∧ entry.size = request.size := by
  obtain ⟨size, align⟩ := request
  unfold free
  split
  · next unused =>
      simp only [block, Option.some.injEq, Block.mk.injEq, unused, true_and]
      exact and_comm
  · next used => simp only [used, false_and, reduceCtorEq]

/-- What a request that is met leaves of the table. -/
structure Taken (request : Block) (tab : List XmcRsvMem) (obj : XmU32) (tab' : List XmcRsvMem)
    (e : Nat) : Prop where
  take : Pools.take request (tab.map XmcRsvMem.free) = some (e, tab'.map XmcRsvMem.free)
  here : (tab.map XmcRsvMem.obj)[e]? = some obj
  objs : tab'.map XmcRsvMem.obj = tab.map XmcRsvMem.obj
  blocks : tab'.map XmcRsvMem.block = tab.map XmcRsvMem.block

/-- `AllocRsvMem` takes the first free block that is the one requested, by induction on the
table.
-/
theorem allocRsvMem_taken {request : Block} {tab tab' : List XmcRsvMem} {obj : XmU32}
    (alloc : allocRsvMem request tab = some (obj, tab'))
    : ∃ e, Taken request tab obj tab' e := by
  induction tab generalizing tab' with
  | nil => cases alloc
  | cons entry later ih =>
      unfold allocRsvMem at alloc
      simp only [← XmcRsvMem.free_eq_some] at alloc
      split at alloc
      · next same =>
          cases alloc
          exact ⟨0, by simp [Pools.take, same, XmcRsvMem.free_used], rfl, rfl,
            by simp [XmcRsvMem.block_used]⟩
      · next other =>
          obtain ⟨⟨_, later'⟩, rest, same⟩ := Option.map_eq_some_iff.mp alloc
          cases same
          obtain ⟨e, taken⟩ := ih rest
          exact ⟨e + 1, by simp [Pools.take, other, taken.take], by simpa using taken.here,
            by simp [taken.objs], by simp [taken.blocks]⟩

/-- `AllocRsvMem` returns 0 only when no such block is free. -/
theorem take_of_allocRsvMem_eq_none {request : Block} {tab : List XmcRsvMem}
    (alloc : allocRsvMem request tab = none)
    : Pools.take request (tab.map XmcRsvMem.free) = none := by
  induction tab with
  | nil => rfl
  | cons entry later ih =>
      unfold allocRsvMem at alloc
      simp only [← XmcRsvMem.free_eq_some] at alloc
      split at alloc
      · cases alloc
      · next other =>
          simp [Pools.take, other, ih (Option.map_eq_none_iff.mp alloc)]

/-- The calls take from the pool the blocks that they return. -/
theorem allocRsvMems_takes (calls : List Block) (tab : List XmcRsvMem)
    : (allocRsvMems calls tab).1
      = (Pools.takes calls (tab.map XmcRsvMem.free)).1.map
          (Option.bind · ((tab.map XmcRsvMem.obj)[·]?)) := by
  induction calls generalizing tab with
  | nil => rfl
  | cons request later ih =>
      unfold allocRsvMems Pools.takes
      cases alloc : allocRsvMem request tab with
      | none =>
          rw [take_of_allocRsvMem_eq_none alloc]
          simp only [ih, List.map_cons, Option.bind_none]
      | some result =>
          obtain ⟨obj, tab'⟩ := result
          obtain ⟨e, taken⟩ := allocRsvMem_taken alloc
          rw [taken.take]
          simp only [ih, taken.objs, List.map_cons, Option.bind_some, taken.here]

/-- No call returns a block that an earlier one returned. -/
theorem allocRsvMems_nodup {tab : List XmcRsvMem} (apart : (tab.map XmcRsvMem.obj).Nodup)
    (calls : List Block)
    : (allocRsvMems calls tab).1.reduceOption.Nodup := by
  have distinct := Pools.takes_nodup calls (tab.map XmcRsvMem.free)
  rw [allocRsvMems_takes]
  have returned : ((Pools.takes calls (tab.map XmcRsvMem.free)).1.map
        (Option.bind · ((tab.map XmcRsvMem.obj)[·]?))).reduceOption
      = (Pools.takes calls (tab.map XmcRsvMem.free)).1.reduceOption.filterMap
          ((tab.map XmcRsvMem.obj)[·]?) := by
    unfold List.reduceOption
    rw [List.filterMap_map, List.filterMap_filterMap]
    rfl
  rw [returned]
  refine distinct.filterMap fun e e' obj here here' => ?_
  exact (List.getElem?_inj (List.getElem?_eq_some_iff.mp here).1 apart).mp (here.trans here'.symm)

/-- Calls for no more blocks than are free all return one. -/
theorem allocRsvMems_isSome {calls : List Block} {tab : List XmcRsvMem}
    (enough : calls.Subperm (tab.map XmcRsvMem.free).reduceOption)
    : ∀ obj ∈ (allocRsvMems calls tab).1, obj.isSome := by
  rw [allocRsvMems_takes]
  intro obj member
  obtain ⟨taken, here, rfl⟩ := List.mem_map.mp member
  obtain ⟨e, rfl⟩ := Option.isSome_iff_exists.mp (Pools.takes_isSome enough taken here)
  obtain ⟨key, entry⟩ := Pools.free_of_takes here
  have bound := (List.getElem?_eq_some_iff.mp entry).1
  simpa using bound

theorem allocRsvMems_keeps (calls : List Block) (tab : List XmcRsvMem)
    : (allocRsvMems calls tab).2.map XmcRsvMem.obj = tab.map XmcRsvMem.obj
      ∧ (allocRsvMems calls tab).2.map XmcRsvMem.block = tab.map XmcRsvMem.block := by
  induction calls generalizing tab with
  | nil => exact ⟨rfl, rfl⟩
  | cons request later ih =>
      unfold allocRsvMems
      cases alloc : allocRsvMem request tab with
      | none => exact ih tab
      | some result =>
          obtain ⟨obj, tab'⟩ := result
          obtain ⟨e, taken⟩ := allocRsvMem_taken alloc
          obtain ⟨objs, blocks⟩ := ih tab'
          exact ⟨objs.trans taken.objs, blocks.trans taken.blocks⟩

/-- `InitRsvMem` frees every block. -/
theorem free_initRsvMem (tab : List XmcRsvMem)
    : ((initRsvMem tab).map XmcRsvMem.free).reduceOption = tab.map XmcRsvMem.block := by
  induction tab with
  | nil => rfl
  | cons entry later ih =>
      have unused : XmcRsvMem.free { entry with usedAlign := entry.usedAlign &&& ~~~RSV_MEM_USED }
          = some entry.block := by
        simp [XmcRsvMem.free, XmcRsvMem.block, BitVec.and_assoc]
      simp only [initRsvMem, List.map_cons] at ih ⊢
      rw [unused, List.reduceOption_cons_of_some, ih]

/-- Requests panic only when a call of `AllocRsvMem` returns 0. -/
theorem getMems_of_isSome {calls : List Block} {tab : List XmcRsvMem}
    (all : ∀ obj ∈ (allocRsvMems calls tab).1, obj.isSome)
    : getMems calls tab
      = .ok ((allocRsvMems calls tab).1.reduceOption, (allocRsvMems calls tab).2) := by
  induction calls generalizing tab with
  | nil => rfl
  | cons request later ih =>
      unfold getMems
      unfold allocRsvMems at all ⊢
      cases alloc : allocRsvMem request tab with
      | none => simp [alloc] at all
      | some result =>
          simp only [alloc] at all
          simp only [ih fun obj member => all obj (List.mem_cons_of_mem _ member)]
          rfl

theorem Generated.initRsvMem {sizes : Sizes} {cfg : Configuration} {tab : List XmcRsvMem}
    (generated : Generated sizes cfg tab)
    : Generated sizes cfg (initRsvMem tab) where
  blocks := by
    have same : (Boot.initRsvMem tab).map XmcRsvMem.block = tab.map XmcRsvMem.block := by
      simp [Boot.initRsvMem, XmcRsvMem.block, BitVec.and_assoc]
    rw [same]
    exact generated.blocks
  apart := by
    have same : (Boot.initRsvMem tab).map XmcRsvMem.obj = tab.map XmcRsvMem.obj := by
      simp [Boot.initRsvMem]
    rw [same]
    exact generated.apart

theorem Generated.allocRsvMems {sizes : Sizes} {cfg : Configuration} {tab : List XmcRsvMem}
    (generated : Generated sizes cfg tab) (calls : List Block)
    : Generated sizes cfg (allocRsvMems calls tab).2 := by
  obtain ⟨objs, blocks⟩ := allocRsvMems_keeps calls tab
  exact ⟨blocks ▸ generated.blocks, objs ▸ generated.apart⟩

/-- Booting and resetting partitions never runs out of reserved memory, and `AllocRsvMem` gives no
block twice. The table that a run leaves serves for the next boot.
-/
theorem reservedMemory_suffices (sizes : Sizes) (cfg : Configuration)
    (boots : Fin cfg.xmcPartitionTab.length → Bool)
    (resets : List (Fin cfg.xmcPartitionTab.length)) (tab : List XmcRsvMem)
    (generated : Generated sizes cfg tab)
    : (requests (run sizes cfg boots resets) ∅).Subperm (generateRsvMem sizes cfg)
      ∧ (∃ objs tab', getMems (requests (run sizes cfg boots resets) ∅) (initRsvMem tab)
            = .ok (objs, tab')
          ∧ Generated sizes cfg tab')
      ∧ ∀ calls, (allocRsvMems calls (initRsvMem tab)).1.reduceOption.Nodup := by
  have enough := requests_subperm sizes cfg boots resets
  have free : (requests (run sizes cfg boots resets) ∅).Subperm
      ((initRsvMem tab).map XmcRsvMem.free).reduceOption := by
    rw [free_initRsvMem]
    exact enough.trans generated.blocks.symm.subperm
  exact ⟨enough, ⟨_, _, getMems_of_isSome (allocRsvMems_isSome free),
      generated.initRsvMem.allocRsvMems _⟩,
    allocRsvMems_nodup generated.initRsvMem.apart⟩

/-- One partition with a vCPU, a page table region and a queue of two messages. -/
def onePartition : Configuration where
  xmcPartitionTab := [⟨1, 1, 1⟩]
  xmcCommChannelTab := [.queuing 16 2]
  noCommPorts := 2
  xmcMemRegTab := [⟨0, 0x8000, XMC_REG_FLAG_PGTAB⟩]
  hpvArea := ⟨CONFIG_XM_LOAD_ADDR, CONFIG_XM_LOAD_ADDR, 0x400000, 0, 0⟩
  noMemBlocks := 0
  noCpus := 1

def someSizes : Sizes where
  kThread := 64
  guest := 512
  partition := 48
  partitionControlTable := 256
  xmPhysicalMemMap := 24
  physPage := 20
  kDevice := 24
  memBlockData := 16
  schedData := 64
  console := 8
  xmPartitionStatus := 32
  logStream := 40
  channel := 60
  port := 28
  msg := 24

/-- The table of `onePartition`, with the blocks in the order of `GenerateRsvMem`. -/
def onePartitionTab : List XmcRsvMem :=
  (generateRsvMem someSizes onePartition).zipIdx.map fun (block, e) =>
    ⟨.ofNat 32 (0x1000 * (e + 1)), block.align, block.size⟩

theorem reservedMemory_suffices_onePartition
    : (requests (run someSizes onePartition (fun _ => true) (List.finRange _)) ∅).Subperm
        (generateRsvMem someSizes onePartition)
      ∧ (∃ objs tab',
        getMems (requests (run someSizes onePartition (fun _ => true) (List.finRange _)) ∅)
            (initRsvMem onePartitionTab) = .ok (objs, tab')
          ∧ Generated someSizes onePartition tab')
      ∧ ∀ calls, (allocRsvMems calls (initRsvMem onePartitionTab)).1.reduceOption.Nodup :=
  reservedMemory_suffices someSizes onePartition (fun _ => true) (List.finRange _) onePartitionTab
    ⟨.of_eq (by decide), by decide⟩

end XtratuM.Boot
