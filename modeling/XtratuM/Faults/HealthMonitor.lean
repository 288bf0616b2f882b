import XtratuM.Hypercalls.LifeCycle
import XtratuM.Objects.LogStream
import XtratuM.Objects.TraceWriting
import XtratuM.Parser.HealthMonitor
import XtratuM.Sched.Cyclic

/-! The health monitor of the kernel: `HmRaiseEvent`, which logs an event and acts on it as the
configuration says, and the panics, which raise events of their own.
-/

namespace XtratuM.Faults

open XtratuM.Objects (LogOp LogState XmHmLog hmEvent hmLogRecord kid2PartId kid2VCpuId
  HMLOG_OPCODE_SYS_MASK HMLOG_OPCODE_EVENT_BIT HMLOG_OPCODE_PARTID_BIT HMLOG_OPCODE_VCPUID_BIT)
open XtratuM.Parser (HmAction HmEventId HmSlot HmTab XM_HM_MAX_EVENTS)
open XtratuM.Hypercalls (Caller lifeOf haltPartition resetPartition suspend setOpMode)

def XM_HM_EV_INTERNAL_ERROR : XmU32 := 0
def HMLOG_OPCODE_VALID_CPUCTXT_MASK : XmU32 := 0x1 <<< 1
def XM_HM_RESET_STATUS_MODULE_RESTART : XmU32 := 2
def XM_HM_RESET_STATUS_USER_CODE_BIT : Nat := 16
def XM_HM_RESET_STATUS_EVENT_MASK : XmU32 := 0xffff
def XM_HYPERVISOR_ID : XmU32 := 0xff
def XM_VT_EXT_SHUTDOWN : Nat := 3

/-- What the handlers read of the configuration; the plans are those of this processor. -/
structure Config where
  calls : Hypercalls.Config
  sched : Sched.Config
  hpvHmTab : HmTab
  partHmTab : XmU32 → HmTab

/-- What the processor goes on to do. -/
inductive Power
  | running
  | halted
  | reset (resetMode : XmU32)
  deriving DecidableEq

structure State where
  parts : Hypercalls.State
  cyclic : Sched.CyclicData
  hmInit : Bool
  seq : XmU32
  hmLogStream : LogState XmHmLog
  resetStatusInit : XmU32
  power : Power

/-- What a handler meets: the running vCPU, or none for the idle kthread; whether an interrupt is
in progress or the scheduler is not enabled, so that `Schedule` puts off its decision, and
whether it would select the running kthread again; the clock; whether the image of a partition
to reset can be started; the program counter and the flags of the interrupted context; and what
the stack holds where a log is not initialised.
-/
structure Circumstances where
  current : Option Caller
  deferred : Bool
  selected : Bool
  now : BitVec 64
  valid : Bool
  pc : XmU32
  psr : XmU32
  stack : XmHmLog

/-- A result, or none when control does not come back, and the state left. -/
abbrev Result (α : Type) : Type := Option α × State

/-- A health monitor, as the panics call it. -/
abbrev Raise : Type := XmHmLog → State → Except Stop (Result Bool)

-----------------------------------------------------------------------------------------
-- Scheduling and the end of the system

/-- The scheduler may select the running kthread. -/
def currentReady (c : Circumstances) (s : State) : Bool :=
  match c.current with
  | none => true
  | some k => (s.parts.kThread k.partitionId k.vCpuId).isReady

/-- `Schedule` comes back to the kthread that calls it; one that is switched away from goes on
later with what is left of its handler.
-/
def schedule (c : Circumstances) (s : State) : Bool :=
  c.deferred || (c.selected && currentReady c s)

/-- `HaltSystem`. -/
def haltSystem (s : State) : State :=
  { s with power := .halted }

/-- `ResetSystem`, with what it leaves for the next start in `resetStatusInit`. -/
def resetSystem (resetMode eventId : XmU32) (s : State) : State :=
  { s with
    resetStatusInit :=
      XM_HM_RESET_STATUS_MODULE_RESTART <<< XM_HM_RESET_STATUS_USER_CODE_BIT
        ||| (eventId &&& XM_HM_RESET_STATUS_EVENT_MASK)
    power := .reset resetMode }

-----------------------------------------------------------------------------------------
-- Logs

/-- `PART_VCPU_ID2KID`. -/
def kidOf (k : Caller) : XmU32 :=
  k.vCpuId <<< 8 ||| (k.partitionId &&& 0xff)

/-- The bits of `opCodeL` that name the running kthread; the idle one has none. -/
def opCodeKid : Option Caller → XmU32
  | none => 0
  | some k =>
      kid2PartId (kidOf k) <<< HMLOG_OPCODE_PARTID_BIT
        ||| kid2VCpuId (kidOf k) <<< HMLOG_OPCODE_VCPUID_BIT

def byteOf (word : XmU32) (i : Nat) : BitVec 8 :=
  word.extractLsb' (8 * i) 8

/-- `CpuCtxt2HmCpuCtxt`: `pc` and `psr` of `struct hmCpuCtxt`, which is the payload. -/
def cpuCtxt2HmCpuCtxt (c : Circumstances) (payload : Fin 16 → BitVec 8) : Fin 16 → BitVec 8 :=
  fun i =>
    if i.val < 4 then byteOf c.pc i.val
    else if 8 ≤ i.val ∧ i.val < 12 then byteOf c.psr (i.val - 8)
    else payload i

/-- The log the panics raise; `system` is the bit of the hypervisor's own events. -/
def panicLog (c : Circumstances) (system : XmU32) : XmHmLog :=
  { c.stack with
    opCodeH := system ||| HMLOG_OPCODE_VALID_CPUCTXT_MASK
    opCodeL := opCodeKid c.current ||| XM_HM_EV_INTERNAL_ERROR <<< HMLOG_OPCODE_EVENT_BIT
    payload := cpuCtxt2HmCpuCtxt c c.stack.payload }

/-- A logged event: it takes the next number and goes into the stream. -/
def logEvent (now : BitVec 64) (log : XmHmLog) (s : State) : Except Stop State := do
  let record ← hmLogRecord s.seq now log
  let inserted ← (LogOp.insert record).run s.hmLogStream
  pure { s with seq := s.seq + 1, hmLogStream := inserted.2 }

def logIf (enabled : Bool) (now : BitVec 64) (log : XmHmLog) (s : State) : Except Stop State :=
  if enabled then logEvent now log s else .ok s

-----------------------------------------------------------------------------------------
-- Actions

/-- `SystemPanic`: an event of the hypervisor, and `HaltSystem` if control comes back. -/
def systemPanic (raise : Raise) (c : Circumstances) (s : State)
    {α : Type} : Except Stop (Result α) := do
  let raised ← raise (panicLog c HMLOG_OPCODE_SYS_MASK) s
  pure (none, if raised.1.isSome then haltSystem raised.2 else raised.2)

/-- An action that ends in `Schedule`. -/
def thenSchedule (c : Circumstances) (s : State) : Except Stop (Result Bool) :=
  .ok (if schedule c s then some false else none, s)

/-- `XM_HM_AC_SWITCH_TO_MAINTENANCE`. `MakePlanSwitch` does not come back from `IdleTask`, where it
goes once a plan without a major frame is in force.
-/
def switchToMaintenance (cfg : Config) (c : Circumstances) (s : State)
    : Except Stop (Result Bool) := do
  let requested ← Sched.switchSchedPlan cfg.sched 1 s.cyclic
  match Sched.makePlanSwitch cfg.sched c.now.toInt requested.2 with
  | .ok cyclic => thenSchedule c { s with cyclic }
  | .error .idleTask => .ok (none, { s with cyclic := Sched.installPlan c.now.toInt requested.2 })
  | .error stop => .error stop

/-- `SHUTDOWN_PARTITION`. -/
def shutdownPartition (cfg : Config) (partitionId : XmU32) (s : State) : State :=
  { s with
    parts :=
      s.parts.change partitionId (cfg.calls.vCpus partitionId)
        (setExtIrqPending · XM_VT_EXT_SHUTDOWN) }

/-- `SUSPEND_PARTITION`. -/
def suspendPartition (cfg : Config) (partitionId : XmU32) (s : State) : State :=
  { s with parts := s.parts.change partitionId (cfg.calls.vCpus partitionId) suspend }

/-- `HALT_PARTITION`. -/
def haltAll (cfg : Config) (partitionId : XmU32) (s : State) : State :=
  { s with parts := haltPartition cfg.calls partitionId s.parts }

/-- A reset of a partition: the one whose first vCPU runs goes on at its entry point. -/
def resetOrHalt (cfg : Config) (c : Circumstances) (partitionId : XmU32) (opMode : OpMode)
    (s : State) : Except Stop (Result Bool) :=
  let reset := resetPartition cfg.calls partitionId opMode c.valid s.parts
  if !reset.1 then
    thenSchedule c (haltAll cfg partitionId { s with parts := reset.2 })
  else if c.current = some { partitionId, vCpuId := 0 } then
    .ok (none, { s with parts := reset.2 })
  else
    thenSchedule c { s with parts := reset.2 }

/-- The `switch` for an event of the hypervisor. -/
def hpvAction (cfg : Config) (raise : Raise) (c : Circumstances)
    (eventId : XmU32) (action : HmAction) (s : State) : Except Stop (Result Bool) :=
  match action with
  | .ignore => .ok (some false, s)
  | .hypervisorColdReset => .ok (none, resetSystem Hypercalls.XM_COLD_RESET eventId s)
  | .hypervisorWarmReset => .ok (none, resetSystem Hypercalls.XM_WARM_RESET eventId s)
  | .switchToMaintenance => switchToMaintenance cfg c s
  | .hypervisorHalt => .ok (none, haltSystem s)
  | _ => systemPanic raise c s

/-- The `switch` for an event of a partition; it knows every action. -/
def partAction (cfg : Config) (raise : Raise) (c : Circumstances)
    (partitionId eventId : XmU32) (action : HmAction) (s : State) : Except Stop (Result Bool) :=
  match action with
  | .ignore => .ok (some false, s)
  | .shutdown => .ok (some false, shutdownPartition cfg partitionId s)
  | .partitionColdReset => resetOrHalt cfg c partitionId .coldReset s
  | .partitionWarmReset => resetOrHalt cfg c partitionId .warmReset s
  | .hypervisorColdReset => .ok (none, resetSystem Hypercalls.XM_COLD_RESET eventId s)
  | .hypervisorWarmReset => .ok (none, resetSystem Hypercalls.XM_WARM_RESET eventId s)
  | .suspend =>
      if partitionId = XM_HYPERVISOR_ID then
        systemPanic raise c s
      else
        thenSchedule c (suspendPartition cfg partitionId s)
  | .partitionHalt =>
      if partitionId = XM_HYPERVISOR_ID then
        systemPanic raise c s
      else
        thenSchedule c (haltAll cfg partitionId s)
  | .hypervisorHalt => .ok (none, haltSystem s)
  | .switchToMaintenance => switchToMaintenance cfg c s
  | .propagate => .ok (some true, s)

/-- `partitionTab[partitionId].cfg->hmTab`. -/
def Config.partTab (cfg : Config) (partitionId : XmU32) : Except Stop HmTab :=
  if partitionId < cfg.calls.noPartitions then
    .ok (cfg.partHmTab partitionId)
  else
    .error .badAccess

/-- `HmRaiseEvent`, with the depth of panics raised inside panics; it answers whether the event
is to be propagated to the guest.
-/
def hmRaiseEvent (cfg : Config) (c : Circumstances) : Nat → Raise
  | 0, _, _ => .error .diverges
  | depth + 1, log, s =>
      if !s.hmInit then
        .ok (some false, s)
      else if known : (hmEvent log).eventId.toNat < XM_HM_MAX_EVENTS then
        let event : HmEventId := ⟨(hmEvent log).eventId.toNat, known⟩
        if (hmEvent log).system then do
          let logged ← logIf (cfg.hpvHmTab event).log c.now log s
          hpvAction cfg (hmRaiseEvent cfg c depth) c (hmEvent log).eventId
            (cfg.hpvHmTab event).action logged
        else do
          -- The table is read before `partitionId<xmcTab.noPartitions` is asserted.
          let hmTab ← cfg.partTab (hmEvent log).partitionId
          let logged ← logIf (hmTab event).log c.now log s
          partAction cfg (hmRaiseEvent cfg c depth) c (hmEvent log).partitionId
            (hmEvent log).eventId (hmTab event).action logged
      else
        -- `ASSERT((eventId>=0)&&(eventId<XM_HM_MAX_EVENTS))`
        systemPanic (hmRaiseEvent cfg c depth) c s

/-- The kthread that runs is halted. -/
def haltCurrent (k : Caller) (s : State) : State :=
  { s with
    parts := s.parts.change k.partitionId [k.vCpuId] (setKThreadFlags · KTHREAD_HALTED_F) }

/-- `PartitionPanic`. -/
def partitionPanic (raise : Raise) (c : Circumstances) (s : State)
    {α : Type} : Except Stop (Result α) :=
  match c.current with
  | none => .ok (none, haltSystem s)
  | some k => do
      let raised ← raise (panicLog c 0) s
      match raised.1 with
      | none => pure (none, raised.2)
      | some _ =>
          let halted := haltCurrent k raised.2
          if schedule c halted then
            systemPanic raise c halted
          else
            pure (none, halted)

end XtratuM.Faults
