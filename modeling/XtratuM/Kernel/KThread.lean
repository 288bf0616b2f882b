import XtratuM.Kernel.Base

/-! Guest kthreads: scheduling flags, the part of the control table the kernel writes, and
the virtual interrupts raised for a vCPU.
-/

namespace XtratuM

def KTHREAD_HALTED_F : XmU32 := 1 <<< 2
def KTHREAD_SUSPENDED_F : XmU32 := 1 <<< 3
def KTHREAD_READY_F : XmU32 := 1 <<< 4

def XM_VT_EXT_SAMPLING_PORT : Nat := 4
def XM_VT_EXT_QUEUING_PORT : Nat := 5
def XM_VT_EXT_CYCLIC_SLOT_START : Nat := 8

/-- `enum` of operating modes kept for every vCPU. -/
inductive OpMode
  | idle
  | coldReset
  | warmReset
  | normal
  deriving DecidableEq, Repr

/-- `struct schedInfo`: the slot a guest was last dispatched in. -/
structure SchedInfo where
  noSlot : Int
  id : XmU32
  slotDuration : XmU32
  deriving DecidableEq, Repr

/-- The fields of `partitionControlTable_t` that the modelled kernel code writes. -/
structure PartitionControlTable where
  flags : XmU32
  extIrqsPend : XmU32
  schedInfo : SchedInfo
  deriving DecidableEq, Repr

/-- `struct guest`. -/
structure Guest where
  opMode : OpMode
  partCtrlTab : PartitionControlTable
  deriving DecidableEq, Repr

/-- `kThread_t`; the idle kthread has no guest. -/
structure KThread where
  flags : XmU32
  g : Option Guest
  deriving DecidableEq, Repr

/-- `SetKThreadFlags` mirrors the flags in the guest's control table. -/
def setKThreadFlags (k : KThread) (f : XmU32) : KThread where
  flags := k.flags ||| f
  g := k.g.map fun g =>
    { g with partCtrlTab := { g.partCtrlTab with flags := g.partCtrlTab.flags ||| f } }

/-- `ClearKThreadFlags`. -/
def clearKThreadFlags (k : KThread) (f : XmU32) : KThread where
  flags := k.flags &&& ~~~f
  g := k.g.map fun g =>
    { g with partCtrlTab := { g.partCtrlTab with flags := g.partCtrlTab.flags &&& ~~~f } }

/-- `AreKThreadFlagsSet` holds when any of the flags is set. -/
def areKThreadFlagsSet (k : KThread) (f : XmU32) : Bool :=
  k.flags &&& f != 0

theorem areKThreadFlagsSet_or (k : KThread) (f g : XmU32)
    : areKThreadFlagsSet k (f ||| g) = (areKThreadFlagsSet k f || areKThreadFlagsSet k g) := by
  apply Bool.eq_iff_iff.mpr
  simp only [areKThreadFlagsSet, BitVec.and_or_distrib_left, bne_iff_ne, Bool.or_eq_true, ne_eq]
  exact (not_congr BitVec.or_eq_zero_iff).trans not_and_or

/-- Flags that are set, and those that were. -/
theorem setKThreadFlags_areSet (k : KThread) (f g : XmU32)
    : areKThreadFlagsSet (setKThreadFlags k f) g
      = (areKThreadFlagsSet k g || (f &&& g != 0)) := by
  apply Bool.eq_iff_iff.mpr
  simp only [areKThreadFlagsSet, setKThreadFlags, BitVec.and_or_distrib_right, bne_iff_ne,
    Bool.or_eq_true, ne_eq]
  exact (not_congr BitVec.or_eq_zero_iff).trans not_and_or

/-- Clearing flags leaves the others as they were. -/
theorem clearKThreadFlags_areSet (k : KThread) {f g : XmU32} (apart : ~~~f &&& g = g)
    : areKThreadFlagsSet (clearKThreadFlags k f) g = areKThreadFlagsSet k g := by
  simp only [areKThreadFlagsSet, clearKThreadFlags, BitVec.and_assoc, apart]

theorem clearKThreadFlags_cleared (k : KThread) (f : XmU32)
    : areKThreadFlagsSet (clearKThreadFlags k f) f = false := by
  simp [areKThreadFlagsSet, clearKThreadFlags, BitVec.and_assoc]

/-- The test the scheduler makes before it hands the processor to a kthread. -/
def KThread.isReady (k : KThread) : Bool :=
  !areKThreadFlagsSet k (KTHREAD_HALTED_F ||| KTHREAD_SUSPENDED_F)
    && areKThreadFlagsSet k KTHREAD_READY_F

/-- `SetExtIrqPending` on a guest kthread: a halted vCPU receives nothing. -/
def setExtIrqPending (k : KThread) (irq : Nat) : KThread :=
  if areKThreadFlagsSet k KTHREAD_HALTED_F then
    k
  else
    setKThreadFlags
      { k with
        g := k.g.map fun g =>
          { g with
            partCtrlTab :=
              { g.partCtrlTab with
                extIrqsPend := g.partCtrlTab.extIrqsPend ||| ((1 : XmU32) <<< irq) } } }
      KTHREAD_READY_F

/-- An interrupt neither halts a vCPU nor resumes it. -/
theorem setExtIrqPending_halted (k : KThread) (irq : Nat)
    : areKThreadFlagsSet (setExtIrqPending k irq) KTHREAD_HALTED_F
      = areKThreadFlagsSet k KTHREAD_HALTED_F := by
  have apart : KTHREAD_READY_F &&& KTHREAD_HALTED_F = 0 := by decide
  unfold setExtIrqPending
  split
  · rfl
  · rw [setKThreadFlags_areSet, apart]
    simp [areKThreadFlagsSet]

/-- An interrupt that is pending already. -/
theorem setExtIrqPending_twice (k : KThread) (irq : Nat)
    : setExtIrqPending (setExtIrqPending k irq) irq = setExtIrqPending k irq := by
  cases halted : areKThreadFlagsSet k KTHREAD_HALTED_F with
  | true => simp [setExtIrqPending, halted]
  | false =>
      have running := (setExtIrqPending_halted k irq).trans halted
      have again : setExtIrqPending (setExtIrqPending k irq) irq
          = setKThreadFlags
            { setExtIrqPending k irq with
              g := (setExtIrqPending k irq).g.map fun g =>
                { g with
                  partCtrlTab :=
                    { g.partCtrlTab with
                      extIrqsPend := g.partCtrlTab.extIrqsPend ||| ((1 : XmU32) <<< irq) } } }
            KTHREAD_READY_F := by
        rw [setExtIrqPending, running]
        rfl
      rw [again]
      cases guest : k.g with
      | none => simp [setExtIrqPending, halted, setKThreadFlags, guest, BitVec.or_assoc]
      | some g => simp [setExtIrqPending, halted, setKThreadFlags, guest, BitVec.or_assoc]

/-- `AreExtIrqPendingSet`. -/
def areExtIrqPendingSet (g : Guest) (irq : Nat) : Bool :=
  g.partCtrlTab.extIrqsPend &&& ((1 : XmU32) <<< irq) != 0

/-- A word against the mask of one bit. -/
theorem and_shiftLeft_ne_zero (word : XmU32) {i : Nat} (inside : i < 32)
    : (word &&& ((1 : XmU32) <<< i) != 0) = word.getLsbD i := by
  have mask : (1 : XmU32) <<< i = BitVec.twoPow 32 i := (BitVec.twoPow_eq 32 i).symm
  have nonzero : BitVec.twoPow 32 i ≠ 0 := by
    intro zero
    have bit := congrArg (fun word => BitVec.getLsbD word i) zero
    simp [inside] at bit
  rw [mask, BitVec.and_twoPow]
  cases word.getLsbD i with
  | false => simp
  | true => simpa using nonzero

/-- A kthread named by the place that holds it: `idleKThread` or an entry of
`partitionTab[partitionId].kThread[vCpuId]`.
-/
inductive KThreadRef
  | idle
  | vCpu (partitionId vCpuId : XmU32)
  deriving DecidableEq, Repr

/-- `partitionTab[partitionId].kThread[vCpuId]`, with `none` for a null entry. -/
abbrev KThreadTab := XmU32 → XmU32 → Option KThread

/-- Overwrites the kthread of one vCPU. -/
def KThreadTab.set (tab : KThreadTab) (partitionId vCpuId : XmU32) (k : KThread)
    : KThreadTab :=
  fun p v => if p = partitionId ∧ v = vCpuId then some k else tab p v

/-- Overwriting one vCPU's kthread leaves every other entry alone. -/
theorem KThreadTab.set_other {tab : KThreadTab} {partitionId vCpuId p v : XmU32}
    {k : KThread} (other : ¬ (p = partitionId ∧ v = vCpuId))
    : tab.set partitionId vCpuId k p v = tab p v :=
  if_neg other

end XtratuM
