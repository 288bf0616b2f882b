import XtratuM.Guest.CheckedRanges
import XtratuM.Hypercalls.Confinement
import XtratuM.Kernel.UserPages
import XtratuM.Mmu.AddressSearches
import XtratuM.Objects.AreaCopies
import XtratuM.Objects.TraceWriting

/-! The operations of the memory and status objects, with the checks they make and every guest
address that they dereference.
-/

namespace XtratuM.Objects

open Control (XM_HYPERVISOR_ID opModeOf)
open Guest
open GuardedUses
open Mmu
open Tracked
open UserPages (PPagType PhysPage)

namespace Checking

-----------------------------------------------------------------------------------------
-- Memory

def XM_OBJ_MEM_CPY_AREA : XmU32 := 0x1

/-- `sizeof(union memCmd)`. -/
def sizeofMemCmd : XmU32 := 20

/-- The word that contains a byte. -/
def wordOf (addr : XmU32) : XmU32 := addr &&& ~~~3

/-- The page of a word, for `VCacheMapPage`. -/
def anonymousPage (tables : MemoryTables) (addr : XmU32) : Except Stop (Nat × XmU32) := do
  let page ← pmmFindAnonymousPage tables addr
  match page with
  | none => .error .badAccess
  | some page => pure page

/-- `ReadByPassMmuWord` and `WriteByPassMmuWord`: above the offset the address itself is
dereferenced, elsewhere the page that is found for it is mapped.
-/
def byPassMmuWord (tables : MemoryTables) (addr : XmU32) : Dereferencing Unit :=
  if CONFIG_XM_OFFSET < addr then
    dereference addr 4
  else
    lift ((anonymousPage tables addr).map fun _ => ())

/-- The words that `UnalignMemCpy` reads and writes, from byte `e` on. -/
def unalignMemCpyWords (tables : MemoryTables) (dst src : XmU32) : Nat → Nat → Dereferencing Unit
  | 0, _ => pure ()
  | left + 1, e => do
      byPassMmuWord tables (wordOf (src + BitVec.ofNat 32 e))
      byPassMmuWord tables (wordOf (dst + BitVec.ofNat 32 e))
      byPassMmuWord tables (wordOf (dst + BitVec.ofNat 32 e))
      unalignMemCpyWords tables dst src left (e + 1)

/-- `args->cpyArea`. -/
def readCpyArea (space : AddressSpace) (args : XmU32) : Except Stop CpyArea := do
  let dstId ← space.read args
  let dstAddr ← space.read (args + 4)
  let srcId ← space.read (args + 8)
  let srcAddr ← space.read (args + 12)
  let size ← space.read (args + 16)
  pure { dstId, dstAddr, srcId, srcAddr, size }

/-- What `CopyArea` returns. -/
def copyCode (size : XmU32) : CopyAnswer → Int
  | .empty => 0
  | .refused ret => ret.code
  | .copied => size.toInt

/-- `CopyArea`, called by a vCPU of the partition `caller`. -/
def copyArea (cfg : CopyConfig) (caller : XmU32) (args : CpyArea) (memory : Memory)
    : Dereferencing (Int × Memory) := do
  let copy ← lift (Objects.copyArea cfg caller args memory)
  if copy.1 = .copied then do
    unalignMemCpyWords cfg.tables args.dstAddr args.srcAddr args.size.toNat 0
    pure (copyCode args.size copy.1, copy.2)
  else
    pure (copyCode args.size copy.1, copy.2)

/-- `CtrlMem`. -/
def ctrlMem (cfg : CopyConfig) (space : AddressSpace) (caller cmd args : XmU32) (memory : Memory)
    : Dereferencing (Int × Memory) :=
  if args = 0 then
    pure (XmRet.invalidParam.code, memory)
  else
    whenChecked space args sizeofMemCmd readFlags (XmRet.invalidParam.code, memory)
      (if cmd = XM_OBJ_MEM_CPY_AREA then do
        dereference args sizeofMemCmd.toNat
        let cpyArea ← lift (readCpyArea space args)
        copyArea cfg caller cpyArea memory
      else
        pure (XmRet.invalidParam.code, memory))

-----------------------------------------------------------------------------------------
-- Status

def XM_GET_SYSTEM_STATUS : XmU32 := 0x0
def XM_GET_SCHED_PLAN_STATUS : XmU32 := 0x1
def XM_SET_PARTITION_OPMODE : XmU32 := 0x2
def XM_GET_PHYSPAGE_STATUS : XmU32 := 0x3
def XM_GET_VCPU_STATUS : XmU32 := 0x4

/-- The states `XM_STATUS_*`. -/
inductive RunState
  | idle
  | ready
  | suspended
  | halted
  deriving DecidableEq, Repr

/-- The counts of messages in a status. -/
structure MessageCounters where
  noSamplingPortMsgsRead : BitVec 64
  noSamplingPortMsgsWritten : BitVec 64
  noQueuingPortMsgsSent : BitVec 64
  noQueuingPortMsgsReceived : BitVec 64

/-- `xmSystemStatus_t`. -/
structure SystemStatus where
  resetCounter : XmU32
  noHmEvents : BitVec 64
  noIrqs : BitVec 64
  currentMaf : BitVec 64
  messages : MessageCounters

/-- `xmPartitionStatus_t`. -/
structure PartitionStatus where
  state : RunState
  opMode : OpMode
  noVIrqs : BitVec 64
  resetCounter : XmU32
  resetStatus : XmU32
  execClock : Int
  messages : MessageCounters

/-- `xmVirtualCpuStatus_t`. -/
structure VCpuStatus where
  state : RunState
  opMode : OpMode

/-- What `CtrlStatus` leaves in the guest's memory. -/
inductive Status
  | system (status : SystemStatus)
  | partition (status : PartitionStatus)
  | vCpu (status : VCpuStatus)
  | plan (switchTime next current prev : Int)
  | physPage (type : PPagType) (counter : BitVec 27)

/-- The kernel with `sysResetCounter`, the tables of statuses, the counts of resets in the control
tables of the partitions and `physPageTab`.
-/
structure StatusState where
  kernel : Control.Kernel
  sysResetCounter : XmU32
  systemStatus : SystemStatus
  partitionStatus : XmU32 → PartitionStatus
  resets : XmU32 → XmU32 × XmU32
  physPageTab : Nat → XmU32 → PhysPage

/-- The configuration of the calls and that of the areas. -/
structure StatusConfig where
  control : Control.ControlConfig
  areas : CopyConfig

/-- The order in which the flags of a kthread are looked at. -/
def runState (k : KThread) : RunState :=
  if areKThreadFlagsSet k KTHREAD_HALTED_F then .halted
  else if areKThreadFlagsSet k KTHREAD_SUSPENDED_F then .suspended
  else if areKThreadFlagsSet k KTHREAD_READY_F then .ready
  else .idle

/-- `kThread[vCpuId]` of a partition, of which it has so many. -/
def kThreadOf (cfg : StatusConfig) (s : StatusState) (partId vCpuId : XmU32)
    : Except Stop KThread :=
  match s.kernel.kThreadTab cfg.control partId vCpuId with
  | some k => .ok k
  | none => .error .badAccess

/-- The states of the vCPUs, counted. -/
def partitionState (states : List RunState) : RunState :=
  if 0 < states.count .ready then .ready
  else if 0 < states.count .suspended then .suspended
  else if 0 < states.count .halted then .halted
  else .idle

/-- The status of a partition, as the table has it afterwards. -/
def partitionStatus (cfg : StatusConfig) (s : StatusState) (partId : XmU32)
    : Except Stop PartitionStatus := do
  let kThreads ←
    (List.range (cfg.control.calls.noVCpus partId).toNat).mapM fun e =>
      kThreadOf cfg s partId (BitVec.ofNat 32 e)
  let _ ← kThreadOf cfg s partId 0
  pure
    { s.partitionStatus partId with
      state := partitionState (kThreads.map runState)
      resetCounter := (s.resets partId).1
      resetStatus := (s.resets partId).2
      opMode := s.kernel.opMode partId }

/-- The status of a vCPU. -/
def vCpuStatus (cfg : StatusConfig) (s : StatusState) (partId vCpuId : XmU32)
    : Except Stop VCpuStatus := do
  let k ← kThreadOf cfg s partId vCpuId
  match k.g with
  | none => .error .badAccess
  | some g => pure { state := runState k, opMode := g.opMode }

/-- `sizeof` of the members of `union statusCmd`. -/
def sizeofSystemStatus : Nat := 60
def sizeofPartitionStatus : Nat := 64
def sizeofVCpuStatus : Nat := 8

/-- What a command leaves: the code, a status if there is one, and the state. -/
abbrev StatusReply : Type := (XmRet × Option Status) × StatusState

/-- `XM_SET_PARTITION_OPMODE`. -/
def setPartitionOpMode (cfg : StatusConfig) (space : AddressSpace) (partId args : XmU32)
    (s : StatusState) : Dereferencing StatusReply :=
  if partId = XM_HYPERVISOR_ID then
    pure ((.invalidParam, none), s)
  else if cfg.control.calls.noPartitions ≤ partId then
    pure ((.invalidParam, none), s)
  else do
    dereference args 4
    let code ← lift (space.read args)
    match opModeOf code with
    | none => pure ((.invalidParam, none), s)
    | some opMode => pure ((.ok, none), { s with kernel := s.kernel.setOpMode partId opMode })

/-- `XM_GET_SYSTEM_STATUS`. -/
def getSystemStatus (cfg : StatusConfig) (partId args : XmU32) (s : StatusState)
    : Dereferencing StatusReply :=
  if partId = XM_HYPERVISOR_ID then do
    let status := { s.systemStatus with resetCounter := s.sysResetCounter }
    dereference args sizeofSystemStatus
    pure ((.ok, some (.system status)), { s with systemStatus := status })
  else if cfg.control.calls.noPartitions ≤ partId then
    pure ((.invalidParam, none), s)
  else do
    let status ← lift (partitionStatus cfg s partId)
    dereference args sizeofPartitionStatus
    pure
      ((.ok, some (.partition status)),
        { s with partitionStatus := Function.update s.partitionStatus partId status })

/-- `XM_GET_VCPU_STATUS`; a partition has no vCPU that its number of vCPUs names, and this number is
let through.
-/
def getVCpuStatus (cfg : StatusConfig) (partId vCpuId args : XmU32) (s : StatusState)
    : Dereferencing StatusReply :=
  if cfg.control.calls.noPartitions ≤ partId then
    pure ((.invalidParam, none), s)
  else if cfg.control.calls.noVCpus partId < vCpuId then
    pure ((.invalidParam, none), s)
  else do
    let status ← lift (vCpuStatus cfg s partId vCpuId)
    dereference args sizeofVCpuStatus
    pure ((.ok, some (.vCpu status)), s)

/-- `XM_GET_SCHED_PLAN_STATUS`, member by member. -/
def getSchedPlanStatus (cfg : StatusConfig) (cpu : Nat) (args : XmU32) (s : StatusState)
    : Dereferencing StatusReply :=
  if cfg.control.fpSched cpu then
    pure ((.noAction, none), s)
  else do
    let cyclic := s.kernel.cyclic cpu
    dereference args 8
    let next ← lift ((cfg.control.cyclic cpu).plan cyclic.new)
    dereference (args + BitVec.ofNat 32 8) 4
    let current ← lift (Sched.currentPlan (cfg.control.cyclic cpu) cyclic)
    dereference (args + BitVec.ofNat 32 12) 4
    let prev ← lift
      (match cyclic.prev with
      | some prev => ((cfg.control.cyclic cpu).plan prev).map (·.id.toInt)
      | none => .ok (-1))
    dereference (args + BitVec.ofNat 32 16) 4
    pure ((.ok, some (.plan cyclic.planSwitchTime next.id.toInt current.id.toInt prev)), s)

/-- `XM_GET_PHYSPAGE_STATUS`: the page is found by its address in the structure. -/
def getPhysPageStatus (cfg : StatusConfig) (space : AddressSpace) (partId args : XmU32)
    (s : StatusState) : Dereferencing StatusReply :=
  if cfg.control.calls.noPartitions ≤ partId then
    pure ((.invalidParam, none), s)
  else do
    dereference args 4
    let pAddr ← lift (space.read args)
    let page ← lift
      (match cfg.areas.partitions[partId.toNat]? with
      | none => .error .badAccess
      | some areas => pmmFindPage cfg.areas.tables areas pAddr)
    match page with
    | none => pure ((.invalidParam, none), s)
    | some ref => do
        dereference (args + BitVec.ofNat 32 4) 4
        let page := s.physPageTab ref.region ref.page
        pure ((.ok, some (.physPage page.type page.counter)), s)

/-- `OBJDESC_GET_VCPUID`. -/
def objDescGetVCpuId (desc : XmU32) : XmU32 := desc >>> 20 &&& 0xf

/-- `CtrlStatus`, called by a vCPU of the partition `caller` on the processor `cpu`. Nothing checks
its parameter.
-/
def ctrlStatus (cfg : StatusConfig) (space : AddressSpace) (caller : XmU32) (cpu : Nat)
    (desc cmd args : XmU32) (s : StatusState) : Dereferencing StatusReply :=
  let partId := objDescGetPartitionId desc
  if partId ≠ caller ∧ !cfg.control.calls.system caller then
    pure ((.permError, none), s)
  else if cmd = XM_SET_PARTITION_OPMODE then
    setPartitionOpMode cfg space partId args s
  else if cmd = XM_GET_SYSTEM_STATUS then
    getSystemStatus cfg partId args s
  else if cmd = XM_GET_VCPU_STATUS then
    getVCpuStatus cfg partId (objDescGetVCpuId desc) args s
  else if cmd = XM_GET_SCHED_PLAN_STATUS then
    getSchedPlanStatus cfg cpu args s
  else if cmd = XM_GET_PHYSPAGE_STATUS then
    getPhysPageStatus cfg space partId args s
  else
    pure ((.invalidParam, none), s)

-----------------------------------------------------------------------------------------
-- Copies in checked ranges

section Copies

variable {tables : MemoryTables} {held : Set CheckedRange}

/-- A page is found for the word, and nothing is dereferenced. -/
def Paged (tables : MemoryTables) (addr : XmU32) : Prop :=
  ¬ CONFIG_XM_OFFSET < addr ∧ ∃ page, pmmFindAnonymousPage tables addr = .ok (some page)

/-- The words of a byte, by the order in which they are looked up: one of them lies above the
offset.
-/
def DirectAt (tables : MemoryTables) (dst src : XmU32) (e : Nat) : Prop :=
  CONFIG_XM_OFFSET < wordOf (src + BitVec.ofNat 32 e)
    ∨ Paged tables (wordOf (src + BitVec.ofNat 32 e))
      ∧ CONFIG_XM_OFFSET < wordOf (dst + BitVec.ofNat 32 e)

/-- The copy of the bytes `[first, first + left)` comes to a word above the offset. -/
def ReachesDirect (tables : MemoryTables) (dst src : XmU32) (left first : Nat) : Prop :=
  ∃ e, first ≤ e ∧ e < first + left ∧ DirectAt tables dst src e
    ∧ ∀ i, first ≤ i → i < e →
      Paged tables (wordOf (src + BitVec.ofNat 32 i))
        ∧ Paged tables (wordOf (dst + BitVec.ofNat 32 i))

/-- Nothing above the offset was checked. -/
def Beneath (held : Set CheckedRange) : Prop :=
  ∀ addr, CoveredBy held addr → ¬ CONFIG_XM_OFFSET < addr

theorem beneath_insert {space : AddressSpace} {param size : XmU32} {flags : PFlags}
    {probed : List XmU32} (accepts : Accepts space param size flags) (fits : ¬ Wraps param size)
    (beneath : Beneath held) : Beneath (insert { param, size, probed } held) := by
  intro addr covered above
  rcases coveredBy_insert.mp covered with ⟨_, inside⟩ | before
  · have ending := BitVec.lt_def.mp accepts.below
    have above := BitVec.lt_def.mp above
    unfold Wraps at fits
    rw [BitVec.toNat_add] at ending
    dsimp only at inside
    omega
  · exact beneath addr before above

theorem anonymousPage_ok {addr : XmU32}
    : (∃ page, anonymousPage tables addr = .ok page)
      ↔ ∃ page, pmmFindAnonymousPage tables addr = .ok (some page) := by
  refine exists_congr fun page => ?_
  unfold anonymousPage
  rw [bind_eq_ok]
  constructor
  · rintro ⟨found, search, returned⟩
    split at returned
    · cases returned
    · cases returned
      exact search
  · exact fun search => ⟨some page, search, rfl⟩

theorem unguarded_byPassMmuWord (addr : XmU32) : Unguarded (byPassMmuWord tables addr) := by
  unfold byPassMmuWord
  split
  · exact unguarded_uses _
  · exact within_lift _

/-- A word above the offset is dereferenced, whatever was checked. -/
theorem byPassMmuWord_checks (beneath : Beneath held) (addr : XmU32)
    {rest : Unit → Dereferencing Unit}
    : ChecksAfter held (byPassMmuWord tables addr >>= rest)
      ↔ ¬ CONFIG_XM_OFFSET < addr ∧ (Paged tables addr → ChecksAfter held (rest ())) := by
  refine (after_bind_unguarded (unguarded_byPassMmuWord addr)).trans ?_
  unfold byPassMmuWord
  split
  · next above =>
      refine iff_of_false ?_ fun both => both.1 above
      rintro ⟨checks, -⟩
      refine beneath addr (after_uses.mp checks addr ?_) above
      refine List.mem_map.mpr ⟨0, List.mem_range.mpr (by decide), ?_⟩
      exact BitVec.add_zero addr
  · next low =>
      rw [and_iff_right (after_lift _), and_iff_right low, result_lift]
      unfold Paged
      rw [and_iff_right low, ← anonymousPage_ok]
      constructor
      · rintro checks ⟨page, found⟩
        refine checks () ?_
        rw [found]
        rfl
      · intro checks done returned
        refine checks ?_
        cases found : anonymousPage tables addr with
        | error stop =>
            rw [found] at returned
            cases returned
        | ok page => exact ⟨page, rfl⟩

/-- Witness: induction on the bytes left. -/
theorem unalignMemCpyWords_checks (beneath : Beneath held) (dst src : XmU32) (left first : Nat)
    : ChecksAfter held (unalignMemCpyWords tables dst src left first)
      ↔ ¬ ReachesDirect tables dst src left first := by
  induction left generalizing first with
  | zero =>
      refine iff_of_true (after_pure _) ?_
      rintro ⟨e, low, high, -⟩
      omega
  | succ left ih =>
      have step : ReachesDirect tables dst src (left + 1) first
          ↔ DirectAt tables dst src first
            ∨ Paged tables (wordOf (src + BitVec.ofNat 32 first))
              ∧ Paged tables (wordOf (dst + BitVec.ofNat 32 first))
              ∧ ReachesDirect tables dst src left (first + 1) := by
        constructor
        · rintro ⟨e, low, high, direct, before⟩
          rcases Nat.eq_or_lt_of_le low with rfl | later
          · exact Or.inl direct
          · obtain ⟨source, destination⟩ := before first (Nat.le_refl _) later
            refine Or.inr ⟨source, destination, e, later, by omega, direct, ?_⟩
            exact fun i start => before i (by omega)
        · rintro (direct | ⟨source, destination, e, low, high, direct, before⟩)
          · exact ⟨first, Nat.le_refl _, by omega, direct, fun i start below => by omega⟩
          · refine ⟨e, by omega, by omega, direct, fun i start below => ?_⟩
            rcases Nat.eq_or_lt_of_le start with rfl | later
            · exact ⟨source, destination⟩
            · exact before i later below
      rw [step]
      unfold unalignMemCpyWords
      refine (byPassMmuWord_checks beneath _).trans ?_
      rw [byPassMmuWord_checks beneath, byPassMmuWord_checks beneath, ih]
      unfold DirectAt
      have apart (addr : XmU32) (paged : Paged tables addr) : ¬ CONFIG_XM_OFFSET < addr := paged.1
      have apart := apart (wordOf (dst + BitVec.ofNat 32 first))
      tauto

/-- The copy that `CtrlMem` makes comes to a word above the offset. -/
def CopiesDirect (cfg : CopyConfig) (space : AddressSpace) (caller args : XmU32)
    (memory : Memory) : Prop :=
  ∃ cpyArea copied, readCpyArea space args = .ok cpyArea
    ∧ Objects.copyArea cfg caller cpyArea memory = .ok (.copied, copied)
    ∧ ReachesDirect cfg.tables cpyArea.dstAddr cpyArea.srcAddr cpyArea.size.toNat 0

theorem copyArea_checks {cfg : CopyConfig} {caller : XmU32} {args : CpyArea} {memory : Memory}
    (beneath : Beneath held)
    : ChecksAfter held (copyArea cfg caller args memory)
      ↔ ∀ copied, Objects.copyArea cfg caller args memory = .ok (.copied, copied) →
        ¬ ReachesDirect cfg.tables args.dstAddr args.srcAddr args.size.toNat 0 := by
  unfold copyArea
  refine after_lift_bind.trans ?_
  constructor
  · intro checks copied returned
    have checks := checks _ returned
    rw [if_pos rfl] at checks
    exact (unalignMemCpyWords_checks beneath _ _ _ _).mp (after_bind.mp checks).1
  · rintro apart ⟨answer, copied⟩ returned
    split
    · next here =>
        change answer = .copied at here
        subst here
        refine after_bind.mpr ⟨?_, fun _ _ => after_pure _⟩
        exact (unalignMemCpyWords_checks beneath _ _ _ _).mpr (apart copied returned)
    · exact after_pure _

theorem ctrlMem_checks {cfg : CopyConfig} {space : AddressSpace} {caller cmd args : XmU32}
    {memory : Memory}
    : ChecksAfter ∅ (ctrlMem cfg space caller cmd args memory)
      ↔ (args ≠ 0 → Accepts space args sizeofMemCmd readFlags → cmd = XM_OBJ_MEM_CPY_AREA →
        ¬ CopiesDirect cfg space caller args memory) := by
  unfold ctrlMem
  split
  · next null => exact iff_of_true (after_pure _) fun notNull => absurd null notNull
  · next notNull =>
      rw [imp_iff_right notNull]
      refine checksAfter_whenChecked_small (by decide) fun probed accepts fits => ?_
      split
      · next copies =>
          rw [imp_iff_right copies]
          refine (checksAfter_dereference_bind
            (passed_insert.covers_start fits (Nat.le_refl _))).trans ?_
          refine after_lift_bind.trans ?_
          have beneath : Beneath (insert { param := args, size := sizeofMemCmd, probed } ∅) := by
            refine beneath_insert accepts fits ?_
            exact fun addr covered => absurd covered (not_coveredBy_empty addr)
          unfold CopiesDirect
          push Not
          refine forall_congr' fun cpyArea => ?_
          rw [forall_comm]
          exact forall_congr' fun _ => copyArea_checks beneath
      · next other => exact iff_of_true (after_pure _) fun copies => absurd copies other

end Copies

-----------------------------------------------------------------------------------------
-- Status

section Status

variable {cfg : StatusConfig} {space : AddressSpace} {caller : XmU32} {cpu : Nat}
  {desc cmd args : XmU32} {s : StatusState}

/-- A known partition. -/
def Known (cfg : StatusConfig) (partId : XmU32) : Prop := partId < cfg.control.calls.noPartitions

/-- Before anything is checked, a status may be looked up but not copied. -/
theorem status_checks {α β : Type} {status : Except Stop α} {len : Nat} (some : 0 < len)
    {rest : α → Dereferencing β}
    : ChecksAfter ∅ (do
        let found ← lift status
        dereference args len
        rest found)
      ↔ ¬ ∃ found, status = .ok found := by
  refine after_lift_bind.trans ?_
  rw [not_exists]
  refine forall_congr' fun found => ?_
  exact imp_congr_right fun _ => iff_false_intro (not_checksAfter_empty some)

theorem setPartitionOpMode_checks {partId : XmU32}
    : ChecksAfter ∅ (setPartitionOpMode cfg space partId args s)
      ↔ ¬ (partId ≠ XM_HYPERVISOR_ID ∧ Known cfg partId) := by
  unfold setPartitionOpMode
  split
  · next hypervisor => exact iff_of_true (after_pure _) fun both => both.1 hypervisor
  · next own =>
      split
      · next unknown =>
          exact iff_of_true (after_pure _) fun both => absurd both.2 (BitVec.not_lt.mpr unknown)
      · next known =>
          refine iff_of_false (not_checksAfter_empty (by decide)) fun none => none ?_
          exact ⟨own, BitVec.not_le.mp known⟩

theorem getSystemStatus_checks {partId : XmU32}
    : ChecksAfter ∅ (getSystemStatus cfg partId args s)
      ↔ ¬ (partId = XM_HYPERVISOR_ID
        ∨ Known cfg partId ∧ ∃ status, partitionStatus cfg s partId = .ok status) := by
  unfold getSystemStatus
  split
  · next hypervisor =>
      refine iff_of_false (not_checksAfter_empty (by decide)) fun none => none ?_
      exact Or.inl hypervisor
  · next own =>
      rw [or_iff_right own]
      split
      · next unknown =>
          exact iff_of_true (after_pure _) fun both => absurd both.1 (BitVec.not_lt.mpr unknown)
      · next known =>
          refine (status_checks (by decide)).trans ?_
          have known : Known cfg partId := BitVec.not_le.mp known
          rw [and_iff_right known]

theorem getVCpuStatus_checks {partId vCpuId : XmU32}
    : ChecksAfter ∅ (getVCpuStatus cfg partId vCpuId args s)
      ↔ ¬ (Known cfg partId ∧ ∃ status, vCpuStatus cfg s partId vCpuId = .ok status) := by
  unfold getVCpuStatus
  split
  · next unknown =>
      exact iff_of_true (after_pure _) fun both => absurd both.1 (BitVec.not_lt.mpr unknown)
  · next known =>
      have known : Known cfg partId := BitVec.not_le.mp known
      rw [and_iff_right known]
      split
      · next above =>
          refine iff_of_true (after_pure _) ?_
          rintro ⟨status, found⟩
          unfold vCpuStatus kThreadOf Control.Kernel.kThreadTab at found
          rw [if_neg fun both => BitVec.lt_asymm both.2 above] at found
          cases found
      · exact status_checks (by decide)

theorem getSchedPlanStatus_checks
    : ChecksAfter ∅ (getSchedPlanStatus cfg cpu args s)
      ↔ ¬ cfg.control.fpSched cpu = false := by
  unfold getSchedPlanStatus
  split
  · next fp => exact iff_of_true (after_pure _) (by rw [fp]; decide)
  · next cyclic =>
      refine iff_of_false (not_checksAfter_empty (by decide)) fun none => none ?_
      exact Bool.not_eq_true _ ▸ cyclic

theorem getPhysPageStatus_checks {partId : XmU32}
    : ChecksAfter ∅ (getPhysPageStatus cfg space partId args s) ↔ ¬ Known cfg partId := by
  unfold getPhysPageStatus
  split
  · next unknown => exact iff_of_true (after_pure _) (BitVec.not_lt.mpr unknown)
  · next known =>
      exact iff_of_false (not_checksAfter_empty (by decide)) fun none =>
        none (BitVec.not_le.mp known)

/-- The caller may use the status object of the descriptor. -/
def MayStatus (cfg : StatusConfig) (caller desc : XmU32) : Prop :=
  objDescGetPartitionId desc = caller ∨ cfg.control.calls.system caller = true

/-- `CtrlStatus` comes to its parameter. -/
def ReachesStatus (cfg : StatusConfig) (cpu : Nat) (desc cmd : XmU32) (s : StatusState) : Prop :=
  let partId := objDescGetPartitionId desc
  if cmd = XM_SET_PARTITION_OPMODE then
    partId ≠ XM_HYPERVISOR_ID ∧ Known cfg partId
  else if cmd = XM_GET_SYSTEM_STATUS then
    partId = XM_HYPERVISOR_ID
      ∨ Known cfg partId ∧ ∃ status, partitionStatus cfg s partId = .ok status
  else if cmd = XM_GET_VCPU_STATUS then
    Known cfg partId ∧ ∃ status, vCpuStatus cfg s partId (objDescGetVCpuId desc) = .ok status
  else if cmd = XM_GET_SCHED_PLAN_STATUS then
    cfg.control.fpSched cpu = false
  else
    cmd = XM_GET_PHYSPAGE_STATUS ∧ Known cfg partId

/-- As nothing is checked, what is dereferenced at all is too much. -/
theorem ctrlStatus_checks
    : ChecksAfter ∅ (ctrlStatus cfg space caller cpu desc cmd args s)
      ↔ (MayStatus cfg caller desc → ¬ ReachesStatus cfg cpu desc cmd s) := by
  unfold ctrlStatus
  dsimp only
  split
  · next refused =>
      refine iff_of_true (after_pure _) fun may => ?_
      rcases may with own | system
      · exact absurd own refused.1
      · rw [system] at refused
        exact absurd refused.2 (by decide)
  · next allowed =>
      have may : MayStatus cfg caller desc := by
        unfold MayStatus
        by_contra neither
        rw [not_or, Bool.not_eq_true] at neither
        exact allowed ⟨neither.1, by rw [neither.2]; rfl⟩
      rw [imp_iff_right may]
      unfold ReachesStatus
      dsimp only
      split
      · exact setPartitionOpMode_checks
      · split
        · exact getSystemStatus_checks
        · split
          · exact getVCpuStatus_checks
          · split
            · exact getSchedPlanStatus_checks
            · split
              · next physPage =>
                  rw [and_iff_right physPage]
                  exact getPhysPageStatus_checks
              · next other => exact iff_of_true (after_pure _) fun both => other both.1

end Status

end Checking

end XtratuM.Objects
