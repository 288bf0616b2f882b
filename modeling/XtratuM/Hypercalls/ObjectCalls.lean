import XtratuM.Objects.PortDereferences
import XtratuM.Objects.RecordDereferences
import XtratuM.Objects.SystemDereferences

/-! The hypercalls on objects: which handler serves a descriptor, and when everything that a call
dereferences has been checked before.
-/

namespace XtratuM.ObjectCalls

open Guest
open GuardedUses
open Objects
open Objects.Checking
open Tracked

-----------------------------------------------------------------------------------------
-- Classes

/-- `OBJ_CLASS_*`, by their numbers. -/
inductive ObjectClass
  | null
  | console
  | trace
  | samplingPort
  | queuingPort
  | mem
  | hm
  | status
  | ttnocPort
  deriving DecidableEq, Repr

def objectClasses : List ObjectClass :=
  [.null, .console, .trace, .samplingPort, .queuingPort, .mem, .hm, .status, .ttnocPort]

/-- The class of a descriptor, if it is one below `OBJ_NO_CLASSES`. -/
def objDescGetClass (desc : XmU32) : Option ObjectClass :=
  objectClasses[(desc >>> 24 &&& 0x7f).toNat]?

-----------------------------------------------------------------------------------------
-- Calls

structure ObjectConfig where
  ports : Objects.Config
  status : StatusConfig

def ObjectConfig.calls (cfg : ObjectConfig) : Hypercalls.Config := cfg.status.control.calls

/-- The vCPU that calls, and what the call meets: the processor and the clock, the bytes that the
console takes, and the rounds of `WriteTrace` with the events in the caller's memory.
-/
structure ObjectCaller where
  vCpuId : XmU32
  cpu : Nat
  now : Int
  console : Nat → Bool
  rounds : TraceRounds
  events : Nat → XmTraceEvent

/-- `KID2PARTID` of the running kthread. -/
def ObjectCaller.partitionId (caller : ObjectCaller) : XmU32 := kid2PartId caller.rounds.kid

structure ObjectState where
  ports : Objects.State
  traces : TraceLogs
  seq : XmU32
  hmLog : LogState XmHmLog
  status : StatusState
  memory : Memory

/-- What a call leaves with its caller. -/
inductive ObjectReply
  | code (ret : Int)
  | message (reply : Reply)
  | traces (reply : RecordReply XmTraceEvent)
  | written (writing : TraceWriting) (ret : Option Int)
  | hmLogs (reply : RecordReply XmHmLog)
  | stream (ret : XmRet) (status : Option LogStatus)
  | port (reply : CtrlReply)
  | status (ret : XmRet) (status : Option Status)

def refuse (ret : XmRet) (s : ObjectState) : Dereferencing (ObjectReply × ObjectState) :=
  pure (.code ret.code, s)

/-- The records that `WriteTrace` inserts, in their order. -/
def insertAll (events : List XmTraceEvent) (log : LogState XmTraceEvent)
    : Except Stop (LogState XmTraceEvent) :=
  events.foldlM (fun log event => ((LogOp.insert event).run log).map (·.2)) log

/-- `ReadObjectSys`. -/
def readObjectSys (cfg : ObjectConfig) (space : AddressSpace) (caller : ObjectCaller)
    (desc buffer size flags : XmU32) (s : ObjectState)
    : Dereferencing (ObjectReply × ObjectState) :=
  match objDescGetClass desc with
  | none => refuse .invalidParam s
  | some .trace => do
      let done ← readTrace cfg.calls space caller.partitionId desc buffer size s.traces
      pure (.traces done.1, { s with traces := done.2 })
  | some .samplingPort => do
      let done ← readSamplingPort cfg.ports space caller.partitionId caller.vCpuId desc buffer size
        flags caller.now s.ports
      pure (.message done.1, { s with ports := done.2 })
  | some .queuingPort => do
      let done ← receiveQueuingPort cfg.ports space caller.partitionId desc buffer size s.ports
      pure (.message done.1, { s with ports := done.2 })
  | some .hm => do
      let done ← readHmLog cfg.calls space caller.partitionId desc buffer size s.hmLog
      pure (.hmLogs done.1, { s with hmLog := done.2 })
  | _ => refuse .opNotAllowed s

/-- `WriteObjectSys`; `flags` is the bitmap of a trace. -/
def writeObjectSys (cfg : ObjectConfig) (space : AddressSpace) (caller : ObjectCaller)
    (desc buffer size flags : XmU32) (s : ObjectState)
    : Dereferencing (ObjectReply × ObjectState) :=
  match objDescGetClass desc with
  | none => refuse .invalidParam s
  | some .console => do
      let ret ← writeConsoleObj space caller.console caller.partitionId desc buffer size
      pure (.code ret, s)
  | some .trace => do
      let done ← writeTrace space caller.rounds desc buffer size flags caller.events s.seq
      let stream := TraceStream.traceLogStream caller.partitionId
      let log ← lift (insertAll done.1.inserted (s.traces stream))
      pure (.written done.1 done.2,
        { s with traces := Function.update s.traces stream log, seq := done.1.seq })
  | some .samplingPort => do
      let done ← writeSamplingPort cfg.ports space caller.partitionId desc buffer size caller.now
        s.ports
      pure (.message done.1, { s with ports := done.2 })
  | some .queuingPort => do
      let done ← sendQueuingPort cfg.ports space caller.partitionId desc buffer size s.ports
      pure (.message done.1, { s with ports := done.2 })
  | _ => refuse .opNotAllowed s

/-- `CtrlObjectSys`. -/
def ctrlObjectSys (cfg : ObjectConfig) (space : AddressSpace) (caller : ObjectCaller)
    (desc cmd args : XmU32) (s : ObjectState) : Dereferencing (ObjectReply × ObjectState) :=
  match objDescGetClass desc with
  | none => refuse .invalidParam s
  | some .trace => do
      let done ← ctrlTrace cfg.calls space caller.partitionId desc cmd args s.traces
      pure (.stream done.1.1 done.1.2, { s with traces := done.2 })
  | some .samplingPort => do
      let done ← ctrlSamplingPort cfg.ports space caller.partitionId desc cmd args caller.now
        s.ports
      pure (.port done.1, { s with ports := done.2 })
  | some .queuingPort => do
      let done ← ctrlQueuingPort cfg.ports space caller.partitionId desc cmd args s.ports
      pure (.port done.1, { s with ports := done.2 })
  | some .mem => do
      let done ← ctrlMem cfg.status.areas space caller.partitionId cmd args s.memory
      pure (.code done.1, { s with memory := done.2 })
  | some .hm => do
      let done ← ctrlHmLog cfg.calls space caller.partitionId desc cmd args s.hmLog
      pure (.stream done.1.1 done.1.2, { s with hmLog := done.2 })
  | some .status => do
      let done ← ctrlStatus cfg.status space caller.partitionId caller.cpu desc cmd args s.status
      pure (.status done.1.1 done.1.2, { s with status := done.2 })
  | _ => refuse .opNotAllowed s

inductive ObjectCall
  | read (desc buffer size flags : XmU32)
  | write (desc buffer size flags : XmU32)
  | ctrl (desc cmd args : XmU32)

def ObjectCall.run (cfg : ObjectConfig) (space : AddressSpace) (caller : ObjectCaller)
    (s : ObjectState) : ObjectCall → Dereferencing (ObjectReply × ObjectState)
  | .read desc buffer size flags => readObjectSys cfg space caller desc buffer size flags s
  | .write desc buffer size flags => writeObjectSys cfg space caller desc buffer size flags s
  | .ctrl desc cmd args => ctrlObjectSys cfg space caller desc cmd args s

-----------------------------------------------------------------------------------------
-- Where the checks are not enough

/-- A read comes to the check of its buffer. -/
def ReadReaches (cfg : ObjectConfig) (space : AddressSpace) (caller : ObjectCaller)
    (desc size flags : XmU32) (s : ObjectState) : Prop :=
  match objDescGetClass desc with
  | some .trace =>
      MayTrace cfg.calls caller.partitionId desc ∧ size.toNat / sizeofLogRecord ≠ 0
  | some .samplingPort =>
      Accepts space flags 4 flagsFlags
        ∧ ReachesMessage cfg.ports s.ports caller.partitionId desc .sampling .destination size
  | some .queuingPort =>
      ReachesMessage cfg.ports s.ports caller.partitionId desc .queuing .destination size
  | some .hm =>
      objDescGetPartitionId desc = Control.XM_HYPERVISOR_ID
        ∧ cfg.calls.system caller.partitionId = true
  | _ => False

/-- A write comes to the check of its buffer. -/
def WriteReaches (cfg : ObjectConfig) (caller : ObjectCaller) (desc size : XmU32)
    (s : ObjectState) : Prop :=
  match objDescGetClass desc with
  | some .console => objDescGetPartitionId desc = caller.partitionId
  | some .trace =>
      objDescGetPartitionId desc = caller.partitionId ∧ size.toNat / sizeofLogRecord ≠ 0
  | some .samplingPort =>
      ReachesMessage cfg.ports s.ports caller.partitionId desc .sampling .source size
  | some .queuingPort =>
      ReachesMessage cfg.ports s.ports caller.partitionId desc .queuing .source size
  | _ => False

/-- `XM_COMM_GET_PORT_INFO` comes to compare the name that its argument block, of so many bytes,
points at.
-/
structure AsksInfo (space : AddressSpace) (caller : ObjectCaller) (desc cmd args size : XmU32)
    : Prop where
  block : Accepts space args size argsFlags
  info : cmd = XM_COMM_GET_PORT_INFO
  permitted : objDescGetPartitionId desc = caller.partitionId
  name : Accepts space (space.word args) 16 nameFlags

/-- A control operation goes beyond what it has checked: the name of a port is compared beyond its
sixteen bytes, an area is copied from or to a word above the offset, or a status is asked for.
-/
def CtrlExceeds (cfg : ObjectConfig) (space : AddressSpace) (caller : ObjectCaller)
    (desc cmd args : XmU32) (s : ObjectState) : Prop :=
  match objDescGetClass desc with
  | some .samplingPort =>
      AsksInfo space caller desc cmd args sizeofSamplingPortCmd
        ∧ ¬ ComparesInside cfg.ports space caller.partitionId (space.word args) args
          sizeofSamplingPortCmd
  | some .queuingPort =>
      AsksInfo space caller desc cmd args sizeofQueuingPortCmd
        ∧ ¬ ComparesInside cfg.ports space caller.partitionId (space.word args) args
          sizeofQueuingPortCmd
  | some .mem =>
      args ≠ 0 ∧ Accepts space args sizeofMemCmd readFlags ∧ cmd = XM_OBJ_MEM_CPY_AREA
        ∧ CopiesDirect cfg.status.areas space caller.partitionId args s.memory
  | some .status =>
      MayStatus cfg.status caller.partitionId desc
        ∧ ReachesStatus cfg.status caller.cpu desc cmd s.status
  | _ => False

/-- A call relies on a check that accepts a wrapped sum, or goes beyond its checks. -/
def ObjectCall.Exceeds (cfg : ObjectConfig) (space : AddressSpace) (caller : ObjectCaller)
    (s : ObjectState) : ObjectCall → Prop
  | .read desc buffer size flags =>
      ReadReaches cfg space caller desc size flags s ∧ Slips buffer size
  | .write desc buffer size _ => WriteReaches cfg caller desc size s ∧ Slips buffer size
  | .ctrl desc cmd args => CtrlExceeds cfg space caller desc cmd args s

-----------------------------------------------------------------------------------------
-- Calls that check first

section Calls

variable {cfg : ObjectConfig} {space : AddressSpace} {caller : ObjectCaller} {s : ObjectState}
  {desc : XmU32}

/-- What is done with a reply dereferences nothing. -/
theorem checksAfter_reply {α β : Type} {held : Set CheckedRange} {c : Dereferencing α}
    {reply : α → Except Stop β}
    : ChecksAfter held (c >>= fun a => lift (reply a)) ↔ ChecksAfter held c :=
  after_bind.trans (and_iff_left fun _ _ => after_lift _)

theorem readObjectSys_checks (buffer size flags : XmU32)
    : ChecksAfter ∅ (readObjectSys cfg space caller desc buffer size flags s)
      ↔ ¬ (ReadReaches cfg space caller desc size flags s ∧ Slips buffer size) := by
  unfold readObjectSys ReadReaches
  cases objDescGetClass desc with
  | none => exact iff_of_true (after_pure _) fun both => both.1
  | some cls =>
      cases cls with
      | trace =>
          refine checksAfter_reply.trans (readTrace_checks buffer s.traces |>.trans ?_)
          tauto
      | samplingPort =>
          refine checksAfter_reply.trans (readSamplingPort_checks space _ flags _ |>.trans ?_)
          tauto
      | queuingPort =>
          refine checksAfter_reply.trans (receiveQueuingPort_checks space |>.trans ?_)
          tauto
      | hm =>
          refine checksAfter_reply.trans (readHmLog_checks buffer s.hmLog |>.trans ?_)
          tauto
      | null | console | mem | status | ttnocPort =>
          exact iff_of_true (after_pure _) fun both => both.1

theorem writeObjectSys_checks (buffer size flags : XmU32)
    : ChecksAfter ∅ (writeObjectSys cfg space caller desc buffer size flags s)
      ↔ ¬ (WriteReaches cfg caller desc size s ∧ Slips buffer size) := by
  unfold writeObjectSys WriteReaches
  cases objDescGetClass desc with
  | none => exact iff_of_true (after_pure _) fun both => both.1
  | some cls =>
      cases cls with
      | console =>
          refine checksAfter_reply.trans (writeConsoleObj_checks caller.console |>.trans ?_)
          exact not_and.symm
      | trace =>
          refine after_bind.trans ((and_iff_left fun done _ => ?_).trans ?_)
          · exact after_lift_bind.mpr fun _ _ => after_pure _
          · refine (writeTrace_checks desc caller.events s.seq).trans ?_
            unfold ObjectCaller.partitionId
            tauto
      | samplingPort =>
          refine checksAfter_reply.trans (writeSamplingPort_checks space _ |>.trans ?_)
          exact not_and.symm
      | queuingPort =>
          refine checksAfter_reply.trans (sendQueuingPort_checks space |>.trans ?_)
          exact not_and.symm
      | null | mem | hm | status | ttnocPort =>
          exact iff_of_true (after_pure _) fun both => both.1

/-- The comparison of a port's name. -/
theorem asksInfo_iff {cmd args size : XmU32} {inside : Prop}
    : (Accepts space args size argsFlags → cmd = XM_COMM_GET_PORT_INFO →
        objDescGetPartitionId desc = caller.partitionId →
        Accepts space (space.word args) 16 nameFlags → inside)
      ↔ ¬ (AsksInfo space caller desc cmd args size ∧ ¬ inside) := by
  rw [not_and_not_right]
  exact ⟨fun checks asks => checks asks.block asks.info asks.permitted asks.name,
    fun checks block info permitted name => checks { block, info, permitted, name }⟩

theorem ctrlObjectSys_checks (cmd args : XmU32)
    : ChecksAfter ∅ (ctrlObjectSys cfg space caller desc cmd args s)
      ↔ ¬ CtrlExceeds cfg space caller desc cmd args s := by
  unfold ctrlObjectSys CtrlExceeds
  cases objDescGetClass desc with
  | none => exact iff_of_true (after_pure _) id
  | some cls =>
      cases cls with
      | trace => exact iff_of_true (checksAfter_reply.mpr (ctrlTrace_checks cmd args _)) id
      | samplingPort =>
          refine checksAfter_reply.trans (ctrlSamplingPort_checks cmd caller.now |>.trans ?_)
          exact asksInfo_iff
      | queuingPort =>
          refine checksAfter_reply.trans (ctrlQueuingPort_checks cmd |>.trans ?_)
          exact asksInfo_iff
      | mem =>
          refine checksAfter_reply.trans (ctrlMem_checks.trans ?_)
          tauto
      | hm => exact iff_of_true (checksAfter_reply.mpr (ctrlHmLog_checks cmd args _)) id
      | status =>
          refine checksAfter_reply.trans (ctrlStatus_checks.trans ?_)
          exact not_and.symm
      | null | console | ttnocPort => exact iff_of_true (after_pure _) id

end Calls

end XtratuM.ObjectCalls
