import XtratuM.Faults.HealthMonitor
import XtratuM.Guest.Access
import XtratuM.Kernel.VirtualIrqs

/-! Where faults come from: the processor's exceptions, interrupts nobody handles, watchdogs that
expire, unrecoverable trace events and panics.
-/

namespace XtratuM.Faults

open XtratuM.Objects (XmHmLog partitionErrorLog HMLOG_OPCODE_SYS_MASK HMLOG_OPCODE_EVENT_MASK
  HMLOG_OPCODE_EVENT_BIT HMLOG_OPCODE_PARTID_MASK HMLOG_OPCODE_PARTID_BIT
  HMLOG_OPCODE_VCPUID_BIT)
open XtratuM.Parser (XM_HM_MAX_EVENTS)
open XtratuM.Hypercalls (Caller)
open XtratuM.Guest (CONFIG_XM_OFFSET)
open XtratuM.Irqs (KTHREAD_TRAP_PENDING_F NO_TRAPS)

def XM_HM_MAX_GENERIC_EVENTS : Nat := 7
def PAGE_FAULT : Nat := 14
def XM_HM_EV_WATCHDOG_TIMER : XmU32 := 3
def XM_HM_EV_MEM_PROTECTION : XmU32 := 5
def XM_HM_EV_UNEXPECTED_TRAP : XmU32 := 6
def HMLOG_OPCODE_VCPUID_MASK : XmU32 := 0xff <<< 8
def XM_VT_EXT_WATCHDOG_TIMER : Nat := 2

/-- An event, and the panic it may end in. -/
def panicDepth : Nat := 2

def raiseEvent (cfg : Config) (c : Circumstances) : Raise :=
  hmRaiseEvent cfg c panicDepth

/-- A `memset` log. -/
def zeroLog : XmHmLog where
  signature := 0
  checksum := 0
  opCodeH := 0
  opCodeL := 0
  timestamp := 0
  payload := fun _ => 0

-----------------------------------------------------------------------------------------
-- Exceptions

/-- An exception of the processor: its vector, whether `IsSvIrqCtxt` finds the hypervisor's own
context, the contents of CR2, and whether `FixStack` can push a frame for the guest.
-/
structure Trap where
  irqNr : Nat
  supervisor : Bool
  faultAddress : XmU32
  emulates : Bool
  deriving DecidableEq

/-- `IsInPartExTable`: the tables of fixed-up instructions, one after the other. -/
def isInPartExTable (exPTable : List (List (XmU32 × XmU32))) (addr : XmU32) : XmU32 :=
  match exPTable.flatten.find? fun entry => entry.1 == addr with
  | some entry => entry.2
  | none => 0

/-- `trapHandlerTab`: `X86TrapPageFault` tells the faults above `CONFIG_XM_OFFSET` apart, and no
handler keeps `DoTrap` from going on.
-/
def trapEvent (t : Trap) : XmU32 :=
  if t.irqNr = PAGE_FAULT ∧ CONFIG_XM_OFFSET ≤ t.faultAddress then
    XM_HM_EV_MEM_PROTECTION
  else
    BitVec.ofNat 32 (t.irqNr + XM_HM_MAX_GENERIC_EVENTS)

def changeCurrent (k : Caller) (change : KThread → KThread) (s : State) : State :=
  { s with parts := s.parts.change k.partitionId [k.vCpuId] change }

def isTrapPending (k : Caller) (s : State) : Bool :=
  areKThreadFlagsSet (s.parts.kThread k.partitionId k.vCpuId) KTHREAD_TRAP_PENDING_F

/-- `SetTrapPending`. -/
def setTrapPending (cfg : Config) (c : Circumstances) (k : Caller) (s : State)
    : Except Stop (Result Unit) :=
  if isTrapPending k s then
    systemPanic (raiseEvent cfg c) c s
  else
    .ok (some (), changeCurrent k (setKThreadFlags · KTHREAD_TRAP_PENDING_F) s)

/-- The log of `DoTrap`. -/
def trapLog (c : Circumstances) (system : Bool) (event : XmU32) : XmHmLog :=
  { zeroLog with
    opCodeH := (if system then HMLOG_OPCODE_SYS_MASK else 0) ||| HMLOG_OPCODE_VALID_CPUCTXT_MASK
    opCodeL := event <<< HMLOG_OPCODE_EVENT_BIT ||| opCodeKid c.current
    payload := cpuCtxt2HmCpuCtxt c zeroLog.payload }

/-- `DoTrap` for the hypervisor's own context, where `ArchTrapIsSysCtxt` always holds. The text of
the panic reads a vector of the guest's.
-/
def hypervisorTrap (cfg : Config) (c : Circumstances) (t : Trap) (s : State)
    : Except Stop (Result Unit) := do
  let raised ← raiseEvent cfg c (trapLog c true (trapEvent t)) s
  match raised.1 with
  | none => pure (none, raised.2)
  | some _ =>
      match c.current with
      | none => .error .badAccess
      | some _ => systemPanic (raiseEvent cfg c) c raised.2

/-- `DoTrap` for the context of a guest. -/
def guestTrap (cfg : Config) (c : Circumstances) (t : Trap) (k : Caller) (s : State)
    : Except Stop (Result Unit) :=
  if known : (trapEvent t).toNat < XM_HM_MAX_EVENTS then do
    let hmTab ← cfg.partTab k.partitionId
    let slot := hmTab ⟨(trapEvent t).toNat, known⟩
    if slot.action = .propagate ∧ slot.log = false then
      setTrapPending cfg c k s
    else
      let raised ← raiseEvent cfg c (trapLog c false (trapEvent t)) s
      match raised.1 with
      | none => pure (none, raised.2)
      | some false => pure (some (), raised.2)
      | some true => setTrapPending cfg c k raised.2
  else
    systemPanic (raiseEvent cfg c) c s

/-- `DoTrap`; on the x86 `ArePCtrlTabTrapsSet` always holds, so `DoUnrecovExcp` is not called. -/
def doTrap (cfg : Config) (exPTable : List (List (XmU32 × XmU32))) (c : Circumstances) (t : Trap)
    (s : State) : Except Stop (Result Unit) :=
  if NO_TRAPS ≤ t.irqNr then
    systemPanic (raiseEvent cfg c) c s
  else if isInPartExTable exPTable c.pc ≠ 0 then
    .ok (some (), s)
  else if t.supervisor then
    hypervisorTrap cfg c t s
  else
    match c.current with
    | none => .error .badAccess
    | some k => guestTrap cfg c t k s

/-- What `RaisePendIrqs` does with a pending trap; nothing ever sets the `swTrap` it asks for
first. `FixStack` panics when the guest's vector or stack are not fit for a frame; where it does so
for a pending interrupt, that is a fault of its own.
-/
def raisePendTrap (cfg : Config) (c : Circumstances) (t : Trap) (s : State)
    : Except Stop (Result Unit) :=
  match c.current with
  | none => .ok (some (), s)
  | some k =>
      if isTrapPending k s then
        let cleared := changeCurrent k (clearKThreadFlags · KTHREAD_TRAP_PENDING_F) s
        if t.emulates then .ok (some (), cleared) else partitionPanic (raiseEvent cfg c) c cleared
      else
        .ok (some (), s)

/-- `CommonTrapBody`: `DoTrap`, and the pending trap on the way back to a guest. -/
def commonTrapBody (cfg : Config) (exPTable : List (List (XmU32 × XmU32))) (c : Circumstances)
    (t : Trap) (s : State) : Except Stop (Result Unit) := do
  let done ← doTrap cfg exPTable c t s
  match done.1 with
  | none => pure (none, done.2)
  | some _ => if t.supervisor then pure (some (), done.2) else raisePendTrap cfg c t done.2

-----------------------------------------------------------------------------------------
-- Interrupts, watchdogs and trace events

/-- The bits of `opCodeL` that `DefaultIrqHandler` sets for the running kthread. For the idle one
the second mask lies in its place already, and is shifted on into the event.
-/
def irqKid : Option Caller → XmU32
  | none =>
      (~~~0 &&& HMLOG_OPCODE_PARTID_MASK) <<< HMLOG_OPCODE_PARTID_BIT
        ||| (~~~0 &&& HMLOG_OPCODE_VCPUID_MASK) <<< HMLOG_OPCODE_VCPUID_BIT
  | some k => opCodeKid (some k)

/-- The log of `DefaultIrqHandler`; the bits it takes of `irqNr` are none. -/
def irqLog (c : Circumstances) (irqNr : XmU32) : XmHmLog :=
  { zeroLog with
    opCodeH := HMLOG_OPCODE_SYS_MASK ||| HMLOG_OPCODE_VALID_CPUCTXT_MASK
    opCodeL :=
      XM_HM_EV_UNEXPECTED_TRAP <<< HMLOG_OPCODE_EVENT_BIT
        ||| (irqNr &&& HMLOG_OPCODE_EVENT_MASK) <<< (HMLOG_OPCODE_EVENT_BIT + 8)
        ||| irqKid c.current
    payload := cpuCtxt2HmCpuCtxt c zeroLog.payload }

/-- `DefaultIrqHandler`. -/
def defaultIrqHandler (cfg : Config) (c : Circumstances) (irqNr : XmU32) (s : State)
    : Except Stop (Result Unit) := do
  let raised ← raiseEvent cfg c (irqLog c irqNr) s
  pure (raised.1.map fun _ => (), raised.2)

/-- The log of `RaiseHmPartEvent`, for a partition. -/
def partEventLog (eventId : XmU32) (k : Caller) : XmHmLog :=
  { zeroLog with opCodeL := eventId <<< HMLOG_OPCODE_EVENT_BIT ||| opCodeKid (some k) }

/-- `KThrWatchdogTimerHndl`, for the watchdog of a vCPU that need not be running. -/
def kThrWatchdogTimerHndl (cfg : Config) (c : Circumstances) (k : Caller) (s : State)
    : Except Stop (Result Unit) := do
  let pending := changeCurrent k (setExtIrqPending · XM_VT_EXT_WATCHDOG_TIMER) s
  let raised ← raiseEvent cfg c (partEventLog XM_HM_EV_WATCHDOG_TIMER k) pending
  pure (raised.1.map fun _ => (), raised.2)

/-- The event `WriteTrace` raises for an unrecoverable one. -/
def raiseTraceEvent (cfg : Config) (c : Circumstances) (k : Caller)
    (payload : Fin 16 → BitVec 8) (s : State) : Except Stop (Result Unit) := do
  let raised ← raiseEvent cfg c (partitionErrorLog (kidOf k) c.stack payload) s
  pure (raised.1.map fun _ => (), raised.2)

-----------------------------------------------------------------------------------------
-- Faults

/-- What may go wrong. -/
inductive Fault
  | trap (t : Trap)
  | irq (irqNr : XmU32)
  | watchdog (k : Caller)
  | traceEvent (k : Caller) (payload : Fin 16 → BitVec 8)
  | partitionPanic
  | systemPanic

/-- What the hypervisor does about it. -/
def handle (cfg : Config) (exPTable : List (List (XmU32 × XmU32))) (c : Circumstances)
    (fault : Fault) (s : State) : Except Stop (Result Unit) :=
  match fault with
  | .trap t => commonTrapBody cfg exPTable c t s
  | .irq irqNr => defaultIrqHandler cfg c irqNr s
  | .watchdog k => kThrWatchdogTimerHndl cfg c k s
  | .traceEvent k payload => raiseTraceEvent cfg c k payload s
  | .partitionPanic => partitionPanic (raiseEvent cfg c) c s
  | .systemPanic => systemPanic (raiseEvent cfg c) c s

end XtratuM.Faults
