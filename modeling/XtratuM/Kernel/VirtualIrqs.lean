import Mathlib.Logic.Function.Basic
import XtratuM.Kernel.KThread

/-! The virtual interrupts of a vCPU: pending and masked interrupts, the vectors its guest
routes them to, and their delivery on the way back to the guest.
-/

namespace XtratuM.Irqs

def KTHREAD_TRAP_PENDING_F : XmU32 := 1 <<< 31
def CPU_FLAG_IF : XmU32 := 0x200
def NO_TRAPS : Nat := 32
def XM_EXT_TRAPS : XmU32 := 1 <<< 16
def FIRST_EXTERNAL_VECTOR : Nat := 0x20

/-- The build's `CONFIG_NO_HWIRQS` and `CONFIG_HWIRQ_PRIO_FBS`, and the interrupt lines `hwIrqs`
that the configuration gives the partition.
-/
structure IrqConfig where
  noHwIrqs : Nat
  prioFbs : Bool
  hwIrqs : XmU32
  supported : noHwIrqs ≤ 32
  lines : ∀ irq, hwIrqs.getLsbD irq = true → irq < noHwIrqs

/-- The `type` argument of `RouteIrqSys`. -/
inductive IrqClass
  | trap
  | hwIrq
  | extIrq
  deriving DecidableEq, Repr

def IrqClass.ofType (type : XmU32) : Option IrqClass :=
  if type = 0 then
    some .trap
  else if type = 1 then
    some .hwIrq
  else if type = 2 then
    some .extIrq
  else
    none

/-- A kthread with the fields of its guest and of the control table that interrupts use;
`extIrqsPend` is in `k`. `vectors` holds the `trap2Vector`, `hwIrq2Vector` and `extIrq2Vector`
arrays as they lie in memory, one after the other.
-/
structure VCpu where
  k : KThread
  swTrap : XmU32
  iFlags : XmU32
  hwIrqsPend : XmU32
  hwIrqsMask : XmU32
  extIrqsMask : XmU32
  vectors : Nat → BitVec 16

/-- Index in `vectors` of an entry of the array of a class. -/
def IrqConfig.slot (cfg : IrqConfig) (cls : IrqClass) (number : Nat) : Nat :=
  match cls with
  | .trap => number
  | .hwIrq => NO_TRAPS + number
  | .extIrq => NO_TRAPS + cfg.noHwIrqs + number

def VCpu.extIrqsPend (s : VCpu) : XmU32 :=
  match s.k.g with
  | some g => g.partCtrlTab.extIrqsPend
  | none => 0

def VCpu.changeExtIrqsPend (s : VCpu) (change : XmU32 → XmU32) : VCpu :=
  { s with
    k.g := s.k.g.map fun g =>
      { g with
        partCtrlTab :=
          { g.partCtrlTab with extIrqsPend := change g.partCtrlTab.extIrqsPend } } }

-----------------------------------------------------------------------------------------
-- Hypercalls

/-- The vectors `SetupPctArch` starts with. -/
def defaultVector (cls : IrqClass) (number : Nat) : BitVec 16 :=
  match cls with
  | .trap => BitVec.ofNat 16 number
  | .hwIrq => BitVec.ofNat 16 (number + FIRST_EXTERNAL_VECTOR)
  | .extIrq => BitVec.ofNat 16 (0x90 + number)

/-- `SetupPctArch` over the three arrays. -/
def IrqConfig.defaultVectors (cfg : IrqConfig) (i : Nat) : BitVec 16 :=
  if i < NO_TRAPS then
    defaultVector .trap i
  else if i < NO_TRAPS + cfg.noHwIrqs then
    defaultVector .hwIrq (i - NO_TRAPS)
  else
    defaultVector .extIrq (i - NO_TRAPS - cfg.noHwIrqs)

/-- `SetupPct`. -/
def setupPct (cfg : IrqConfig) (k : KThread) : VCpu :=
  VCpu.changeExtIrqsPend
    { k
      swTrap := 0
      iFlags := 0
      hwIrqsPend := 0
      hwIrqsMask := ~~~0
      extIrqsMask := ~~~0
      vectors := cfg.defaultVectors }
    fun _ => 0

/-- `ClearIrqMaskSys`. -/
def clearIrqMaskSys (s : VCpu) (hwIrqsMask extIrqsPend : XmU32) : VCpu :=
  { s with
    hwIrqsMask := s.hwIrqsMask &&& ~~~hwIrqsMask
    extIrqsMask := s.extIrqsMask &&& ~~~extIrqsPend }

/-- `SetIrqMaskSys`. -/
def setIrqMaskSys (s : VCpu) (hwIrqsMask extIrqsPend : XmU32) : VCpu :=
  { s with
    hwIrqsMask := s.hwIrqsMask ||| hwIrqsMask
    extIrqsMask := s.extIrqsMask ||| extIrqsPend }

/-- `ForceIrqsSys`; the lines of the partition are forced in the interrupt controller. -/
def forceIrqsSys (cfg : IrqConfig) (s : VCpu) (hwIrqMask extIrqMask : XmU32) : VCpu :=
  let s := s.changeExtIrqsPend (· ||| extIrqMask)
  { s with hwIrqsPend := s.hwIrqsPend ||| (hwIrqMask &&& ~~~(hwIrqMask &&& cfg.hwIrqs)) }

/-- `ClearIrqsSys`. -/
def clearIrqsSys (s : VCpu) (hwIrqMask extIrqMask : XmU32) : VCpu :=
  let s := s.changeExtIrqsPend (· &&& ~~~extIrqMask)
  { s with hwIrqsPend := s.hwIrqsPend &&& ~~~hwIrqMask }

/-- `RouteIrqSys`. -/
def routeIrqSys (cfg : IrqConfig) (s : VCpu) (type irq : XmU32) (vector : BitVec 16)
    : XmRet × VCpu :=
  if 32 ≤ irq.toNat then
    (.invalidParam, s)
  else
    match IrqClass.ofType type with
    | none => (.invalidParam, s)
    | some cls =>
        (.ok, { s with vectors := Function.update s.vectors (cfg.slot cls irq.toNat) vector })

-----------------------------------------------------------------------------------------
-- Interrupts raised by the kernel

/-- `SetHwIrqPending`. -/
def setHwIrqPending (s : VCpu) (irq : Nat) : VCpu :=
  if areKThreadFlagsSet s.k KTHREAD_HALTED_F then
    s
  else
    { s with
      k := setKThreadFlags s.k KTHREAD_READY_F
      hwIrqsPend := s.hwIrqsPend ||| ((1 : XmU32) <<< irq) }

/-- `SetExtIrqPending`. -/
def raiseExtIrq (s : VCpu) (irq : Nat) : VCpu := { s with k := setExtIrqPending s.k irq }

/-- `SetTrapPending`. -/
def setTrapPending (s : VCpu) : Except Stop VCpu := do
  assert (areKThreadFlagsSet s.k KTHREAD_TRAP_PENDING_F = false)
  pure { s with k := setKThreadFlags s.k KTHREAD_TRAP_PENDING_F }

-----------------------------------------------------------------------------------------
-- Delivery

/-- What `RaisePendIrqs` reads of the interrupted context and of the memory of the guest. -/
structure CpuCtxt where
  /-- `IsSvIrqCtxt`. -/
  supervisor : Bool
  /-- Both `DoTrap` and `DoIrq` are entered with a number below 32. -/
  irqNr : Fin 32
  /-- The access byte of the guest's gate for a vector; `none` where `FixStack` finds no gate or
  no stack it can use, and gives the partition up.
  -/
  gate : BitVec 16 → Option (BitVec 8)

inductive Delivery
  | swTrap (emul : XmU32)
  | irq (cls : IrqClass) (number : Nat) (vector : BitVec 16)
  deriving DecidableEq, Repr

/-- `_Ffs` or `_Fls`: the first bit set in the order of priorities. -/
def firstBit (prioFbs : Bool) (word : XmU32) : Option Nat :=
  (if prioFbs then List.range 32 else (List.range 32).reverse).find? fun bit => word.getLsbD bit

/-- `AreHwIrqsPending`. -/
def areHwIrqsPending (cfg : IrqConfig) (s : VCpu) : Except Stop (Option Nat) :=
  match firstBit cfg.prioFbs (s.hwIrqsPend &&& ~~~s.hwIrqsMask) with
  | none => .ok none
  | some eIrq => (assert (eIrq < cfg.noHwIrqs)).map fun _ => some eIrq

/-- `AreExtIrqsPending`. -/
def areExtIrqsPending (cfg : IrqConfig) (s : VCpu) : Option Nat :=
  firstBit cfg.prioFbs (s.extIrqsPend &&& ~~~s.extIrqsMask)

/-- `AreExtTrapsPending`. -/
def areExtTrapsPending (cfg : IrqConfig) (s : VCpu) : Option Nat :=
  firstBit cfg.prioFbs (s.extIrqsPend &&& XM_EXT_TRAPS)

/-- What `FixStack` changes of the control table. -/
def fixStack (ctxt : CpuCtxt) (s : VCpu) (vector : BitVec 16) : Except Stop VCpu :=
  match ctxt.gate vector with
  | none => .error .partitionPanic
  | some access =>
      if access &&& 1 = 0 then .ok { s with iFlags := s.iFlags &&& ~~~CPU_FLAG_IF } else .ok s

/-- `ArchEmulTrapIrq`, `ArchEmulHwIrq` and `ArchEmulExtIrq`. -/
def archEmul (cfg : IrqConfig) (ctxt : CpuCtxt) (cls : IrqClass) (number : Nat) (s : VCpu)
    : Except Stop (Option Delivery × VCpu) := do
  let vector := s.vectors (cfg.slot cls number)
  let s ← fixStack ctxt s vector
  pure (some (.irq cls number vector), s)

/-- The part of `RaisePendIrqs` that the guest's interrupt flag guards. The control table masks
nothing on delivery on this architecture.
-/
def raiseMaskable (cfg : IrqConfig) (ctxt : CpuCtxt) (s : VCpu)
    : Except Stop (Option Delivery × VCpu) := do
  match ← areHwIrqsPending cfg s with
  | some eIrq =>
      archEmul cfg ctxt .hwIrq eIrq
        { s with hwIrqsPend := s.hwIrqsPend &&& ~~~((1 : XmU32) <<< eIrq) }
  | none =>
      match areExtIrqsPending cfg s with
      | some eIrq =>
          archEmul cfg ctxt .extIrq eIrq
            (s.changeExtIrqsPend (· &&& ~~~((1 : XmU32) <<< eIrq)))
      | none => pure (none, s)

/-- `RaisePendIrqs`. -/
def raisePendIrqs (cfg : IrqConfig) (ctxt : CpuCtxt) (s : VCpu)
    : Except Stop (Option Delivery × VCpu) :=
  if ctxt.supervisor then
    .ok (none, s)
  else if s.swTrap &&& 1 ≠ 0 then
    .ok (some (.swTrap (s.swTrap >>> 1)), { s with swTrap := 0 })
  else if areKThreadFlagsSet s.k KTHREAD_TRAP_PENDING_F then
    archEmul cfg ctxt .trap ctxt.irqNr { s with k := clearKThreadFlags s.k KTHREAD_TRAP_PENDING_F }
  else
    match areExtTrapsPending cfg s with
    | some eIrq =>
        archEmul cfg ctxt .extIrq eIrq (s.changeExtIrqsPend (· &&& ~~~((1 : XmU32) <<< eIrq)))
    | none =>
        if s.iFlags &&& CPU_FLAG_IF = 0 then .ok (none, s) else raiseMaskable cfg ctxt s

-----------------------------------------------------------------------------------------
-- Bits

theorem firstBit_some {prioFbs : Bool} {word : XmU32} {bit : Nat}
    (found : firstBit prioFbs word = some bit)
    : bit < 32 ∧ word.getLsbD bit = true := by
  have set := List.find?_some found
  exact ⟨BitVec.lt_of_getLsbD set, set⟩

@[simp] theorem changeExtIrqsPend_hwIrqsPend (s : VCpu) (change : XmU32 → XmU32)
    : (s.changeExtIrqsPend change).hwIrqsPend = s.hwIrqsPend :=
  rfl

@[simp] theorem changeExtIrqsPend_vectors (s : VCpu) (change : XmU32 → XmU32)
    : (s.changeExtIrqsPend change).vectors = s.vectors :=
  rfl

@[simp] theorem changeExtIrqsPend_swTrap (s : VCpu) (change : XmU32 → XmU32)
    : (s.changeExtIrqsPend change).swTrap = s.swTrap :=
  rfl

end XtratuM.Irqs
