import XtratuM.Guest.Access
import XtratuM.Objects.CommPorts
import XtratuM.Objects.Checksums

/-! `WriteTrace`: the records it puts into the trace of a partition, and the health-monitor events
it raises for the unrecoverable ones.
-/

namespace XtratuM.Objects

open XtratuM.Guest

def XM_TRACE_UNRECOVERABLE : XmU32 := 0x3
def XMTRACE_SIGNATURE : XmU16 := 0xc33c
def TRACE_OPCODE_SEQ_MASK : XmU32 := 0xfffffff0 <<< 4
def TRACE_OPCODE_SEQ_BIT : Nat := 4
def TRACE_OPCODE_CRIT_MASK : XmU32 := 0x7 <<< 1
def TRACE_OPCODE_CRIT_BIT : Nat := 1
def TRACE_OPCODE_VCPUID_MASK : XmU32 := 0xff <<< 8
def TRACE_OPCODE_VCPUID_BIT : Nat := 8
def TRACE_OPCODE_PARTID_MASK : XmU32 := 0xff <<< 0
def TRACE_OPCODE_PARTID_BIT : Nat := 0

def XM_HMLOG_SIGNATURE : XmU16 := 0xfecf
def XM_HM_EV_PARTITION_ERROR : XmU32 := 2
def HMLOG_OPCODE_SEQ_MASK : XmU32 := 0xfffffff0 <<< 4
def HMLOG_OPCODE_SEQ_BIT : Nat := 4
def HMLOG_OPCODE_SYS_MASK : XmU32 := 0x1 <<< 0
def HMLOG_OPCODE_EVENT_MASK : XmU32 := 0xffff <<< 16
def HMLOG_OPCODE_EVENT_BIT : Nat := 16
def HMLOG_OPCODE_VCPUID_BIT : Nat := 8
def HMLOG_OPCODE_PARTID_MASK : XmU32 := 0xff <<< 0
def HMLOG_OPCODE_PARTID_BIT : Nat := 0

/-- `KID2PARTID` and `KID2VCPUID`. -/
def kid2PartId (id : XmU32) : XmU32 := id &&& 0xff
def kid2VCpuId (id : XmU32) : XmU32 := id >>> 8

/-- `sizeof(xmWord_t)*XM_HMLOG_PAYLOAD_LENGTH-1`. -/
def copiedPayload : Nat := 4 * 4 - 1

-----------------------------------------------------------------------------------------
-- Health-monitor events

/-- A log as `HmRaiseEvent` reads it. -/
structure HmEvent where
  system : Bool
  partitionId : XmU32
  eventId : XmU32
  payload : Fin 16 → BitVec 8
  deriving DecidableEq

/-- What `HmRaiseEvent` takes the log to say, before it acts on it. -/
def hmEvent (log : XmHmLog) : HmEvent where
  system := decide (log.opCodeH &&& HMLOG_OPCODE_SYS_MASK ≠ 0)
  partitionId := (log.opCodeL &&& HMLOG_OPCODE_PARTID_MASK) >>> HMLOG_OPCODE_PARTID_BIT
  eventId := (log.opCodeL &&& HMLOG_OPCODE_EVENT_MASK) >>> HMLOG_OPCODE_EVENT_BIT
  payload := log.payload

/-- The record `HmRaiseEvent` inserts into its stream. -/
def hmLogRecord (seq : XmU32) (now : BitVec 64) (log : XmHmLog) : Except Stop XmHmLog :=
  { log with
    signature := XM_HMLOG_SIGNATURE
    timestamp := now
    opCodeH := log.opCodeH &&& ~~~HMLOG_OPCODE_SEQ_MASK ||| seq <<< HMLOG_OPCODE_SEQ_BIT }.sealed

/-- The record `TraceWriteSysEvent` inserts. -/
def sysEventRecord (seq : XmU32) (now : BitVec 64) (event : XmTraceEvent)
    : Except Stop XmTraceEvent :=
  { event with
    signature := XMTRACE_SIGNATURE
    timestamp := now
    opCodeH := event.opCodeH &&& ~~~TRACE_OPCODE_SEQ_MASK ||| seq <<< TRACE_OPCODE_SEQ_BIT }.sealed

/-- The records of `HmRaiseEvent` and `TraceWriteSysEvent` check themselves. -/
theorem hmLogRecord_checks {seq : XmU32} {now : BitVec 64} {log record : XmHmLog}
    (returned : hmLogRecord seq now log = .ok record)
    : isValidCheckSum record.halfWords sizeofLogRecord = .ok 1 :=
  (LogRecord.sealed_checks returned).1

theorem sysEventRecord_checks {seq : XmU32} {now : BitVec 64} {event record : XmTraceEvent}
    (returned : sysEventRecord seq now event = .ok record)
    : isValidCheckSum record.halfWords sizeofLogRecord = .ok 1 :=
  (LogRecord.sealed_checks returned).1

-----------------------------------------------------------------------------------------
-- `WriteTrace`

/-- What `WriteTrace` meets: the caller and its configured bitmap, and in each round the word that
`bitmap` points at, the clock, what the stack holds where `log` is and whether control comes back
from `HmRaiseEvent`.
-/
structure TraceRounds where
  kid : XmU32
  traceBitmap : XmU32
  bitmap : Nat → XmU32
  now : Nat → BitVec 64
  stack : Nat → XmHmLog
  comesBack : Nat → Bool

/-- The events in the caller's memory, `seq` and `written`, the records given to `LogStreamInsert`
and the logs given to `HmRaiseEvent`.
-/
structure TraceWriting where
  event : Nat → XmTraceEvent
  seq : XmU32
  written : Nat
  inserted : List XmTraceEvent
  raised : List XmHmLog

/-- The record an event is made before it is inserted. -/
def stampEvent (kid seq : XmU32) (now : BitVec 64) (event : XmTraceEvent)
    : Except Stop XmTraceEvent :=
  let opCodeL := event.opCodeL &&& ~~~TRACE_OPCODE_PARTID_MASK
    ||| kid2PartId kid <<< TRACE_OPCODE_PARTID_BIT &&& TRACE_OPCODE_PARTID_MASK
  { event with
    signature := XMTRACE_SIGNATURE
    opCodeL := opCodeL &&& ~~~TRACE_OPCODE_VCPUID_MASK
      ||| kid2VCpuId kid <<< TRACE_OPCODE_VCPUID_BIT &&& TRACE_OPCODE_VCPUID_MASK
    timestamp := now
    opCodeH := event.opCodeH &&& ~~~TRACE_OPCODE_SEQ_MASK ||| seq <<< TRACE_OPCODE_SEQ_BIT }.sealed

/-- The first half of a round. -/
def insertEvent (rounds : TraceRounds) (e : Nat) (s : TraceWriting) : Except Stop TraceWriting :=
  if rounds.traceBitmap &&& rounds.bitmap e ≠ 0 then
    (stampEvent rounds.kid s.seq (rounds.now e) (s.event e)).map fun event =>
      { s with
        event := Function.update s.event e event
        seq := s.seq + 1
        written := s.written + 1
        inserted := s.inserted ++ [event] }
  else
    .ok s

/-- The criticality of an event. -/
def criticality (event : XmTraceEvent) : XmU32 :=
  (event.opCodeH &&& TRACE_OPCODE_CRIT_MASK) >>> TRACE_OPCODE_CRIT_BIT

/-- The local `log` as `HmRaiseEvent` is given it: its `opCodeL`, all but a byte of its payload and
nothing else is set.
-/
def partitionErrorLog (kid : XmU32) (stack : XmHmLog) (payload : Fin 16 → BitVec 8)
    : XmHmLog :=
  { stack with
    opCodeL := kid2PartId kid <<< HMLOG_OPCODE_PARTID_BIT
      ||| kid2VCpuId kid <<< HMLOG_OPCODE_VCPUID_BIT
      ||| XM_HM_EV_PARTITION_ERROR <<< HMLOG_OPCODE_EVENT_BIT
    payload := fun i => if i.val < copiedPayload then payload i else stack.payload i }

/-- The loop of `WriteTrace`, for the rounds from `e` on; `false` when control is lost. The second
half of a round looks at `event`, which is the first of the array.
-/
def writeTraceLoop (rounds : TraceRounds)
    : Nat → Nat → TraceWriting → Except Stop (TraceWriting × Bool)
  | 0, _, s => .ok (s, true)
  | left + 1, e, s => do
      let s ← insertEvent rounds e s
      if criticality (s.event 0) = XM_TRACE_UNRECOVERABLE then
        let log := partitionErrorLog rounds.kid (rounds.stack e) (s.event 0).payload
        let s := { s with raised := s.raised ++ [log] }
        if rounds.comesBack e then
          writeTraceLoop rounds left (e + 1) s
        else
          pure (s, false)
      else
        writeTraceLoop rounds left (e + 1) s

def readFlags : PFlags where
  rw := false
  notNull := true

/-- `WriteTrace`, for a caller with the events at `event` and the bitmap at `bitmap`; there is no
result when control is lost.
-/
def writeTrace (space : AddressSpace) (rounds : TraceRounds) (desc event size bitmap : XmU32)
    (events : Nat → XmTraceEvent) (seq : XmU32) : Except Stop (TraceWriting × Option Int) :=
  let noTraces := size.toNat / sizeofLogRecord
  let start : TraceWriting :=
    { event := events, seq, written := 0, inserted := [], raised := [] }
  if objDescGetPartitionId desc ≠ kid2PartId rounds.kid then
    .ok (start, some XmRet.permError.code)
  else if noTraces = 0 then
    .ok (start, some XmRet.invalidParam.code)
  else
    ifChecked space event size readFlags (start, some XmRet.invalidParam.code)
      (ifChecked space bitmap 4 readFlags (start, some XmRet.invalidParam.code)
        ((writeTraceLoop rounds noTraces 0 start).map fun (s, back) =>
          (s, if back then some (BitVec.ofNat 32 (s.written * sizeofLogRecord)).toInt else none)))

-----------------------------------------------------------------------------------------
-- The events to raise

/-- The event that stands for an unrecoverable one of the caller. -/
def partitionErrorOf (kid : XmU32) (event : XmTraceEvent) : HmEvent where
  system := false
  partitionId := kid2PartId kid
  eventId := XM_HM_EV_PARTITION_ERROR
  payload := event.payload

/-- An event for each unrecoverable one of the batch from `e` on, while control comes back. -/
def eventsToRaise (rounds : TraceRounds) (events : Nat → XmTraceEvent) : Nat → Nat → List HmEvent
  | 0, _ => []
  | left + 1, e =>
      if criticality (events e) = XM_TRACE_UNRECOVERABLE then
        partitionErrorOf rounds.kid (events e)
          :: if rounds.comesBack e then eventsToRaise rounds events left (e + 1) else []
      else
        eventsToRaise rounds events left (e + 1)

/-- `WriteTrace` returns, and has raised these events and no others. -/
def RaisesEachOnce (space : AddressSpace) (rounds : TraceRounds) (desc event size bitmap : XmU32)
    (events : Nat → XmTraceEvent) (seq : XmU32) : Prop :=
  ∃ s result, writeTrace space rounds desc event size bitmap events seq = .ok (s, result)
    ∧ s.raised.map hmEvent
      = eventsToRaise rounds events (size.toNat / sizeofLogRecord) 0

theorem eventsToRaise_nil {rounds : TraceRounds} {events : Nat → XmTraceEvent} {left e : Nat}
    : eventsToRaise rounds events left e = []
      ↔ ∀ k < left, criticality (events (e + k)) ≠ XM_TRACE_UNRECOVERABLE := by
  induction left generalizing e with
  | zero => simp [eventsToRaise]
  | succ left ih =>
      unfold eventsToRaise
      split
      · next critical =>
          refine iff_of_false (List.cons_ne_nil _ _) ?_
          intro harmlessAll
          exact harmlessAll 0 (Nat.succ_pos left) critical
      · next harmless =>
          rw [ih]
          constructor
          · intro harmlessAll k inside
            cases k with
            | zero => exact harmless
            | succ k =>
                have later := harmlessAll k (by omega)
                rwa [Nat.add_right_comm] at later
          · intro harmlessAll k inside
            have later := harmlessAll (k + 1) (by omega)
            rwa [← Nat.add_assoc, Nat.add_right_comm] at later

-----------------------------------------------------------------------------------------
-- A round

/-- Counting the records leaves an event as critical as it was. -/
theorem criticality_seq (opCodeH seq : XmU32)
    : (opCodeH &&& ~~~TRACE_OPCODE_SEQ_MASK ||| seq <<< TRACE_OPCODE_SEQ_BIT)
        &&& TRACE_OPCODE_CRIT_MASK
      = opCodeH &&& TRACE_OPCODE_CRIT_MASK := by
  have critical : ∀ i < 32, TRACE_OPCODE_CRIT_MASK.getLsbD i = decide (1 ≤ i ∧ i < 4) := by
    decide
  have counted : ∀ i < 32, TRACE_OPCODE_SEQ_MASK.getLsbD i = decide (8 ≤ i) := by
    decide
  apply BitVec.eq_of_getLsbD_eq
  intro i inside
  rw [BitVec.getLsbD_and, BitVec.getLsbD_and, critical i inside]
  by_cases field : 1 ≤ i ∧ i < 4
  · have low : i < TRACE_OPCODE_SEQ_BIT := field.2
    have kept : TRACE_OPCODE_SEQ_MASK.getLsbD i = false := by
      rw [counted i inside, decide_eq_false_iff_not]
      omega
    rw [BitVec.getLsbD_or, BitVec.getLsbD_and, BitVec.getLsbD_not, kept,
      BitVec.getLsbD_shiftLeft]
    simp [inside, low]
  · simp [field]

/-- A round leaves what is raised for an event, and the records that were inserted. -/
structure Stamps (s s' : TraceWriting) : Prop where
  raised : s'.raised = s.raised
  critical : ∀ k, criticality (s'.event k) = criticality (s.event k)
  payload : ∀ k, (s'.event k).payload = (s.event k).payload
  checked : ∀ record ∈ s'.inserted, record ∈ s.inserted
    ∨ isValidCheckSum record.halfWords sizeofLogRecord = .ok 1

theorem stampEvent_returns (kid seq : XmU32) (now : BitVec 64) (event : XmTraceEvent)
    : ∃ stamped, stampEvent kid seq now event = .ok stamped
      ∧ criticality stamped = criticality event ∧ stamped.payload = event.payload
      ∧ isValidCheckSum stamped.halfWords sizeofLogRecord = .ok 1 := by
  unfold stampEvent
  dsimp only
  generalize written : LogRecord.mk _ _ _ _ _ _ = record
  obtain ⟨stamped, returned, same, -⟩ := record.sealed_halfWords
  have opCodeH : stamped.opCodeH = record.opCodeH := by rw [← same]
  have payload : stamped.payload = record.payload := by rw [← same]
  refine ⟨stamped, returned, ?_, ?_, (LogRecord.sealed_checks returned).1⟩
  · rw [criticality, opCodeH, ← written, criticality_seq]
    rfl
  · rw [payload, ← written]

theorem insertEvent_stamps (rounds : TraceRounds) (e : Nat) (s : TraceWriting)
    : ∃ s', insertEvent rounds e s = .ok s' ∧ Stamps s s' := by
  unfold insertEvent
  split
  · obtain ⟨stamped, returned, critical, payload, valid⟩ :=
      stampEvent_returns rounds.kid s.seq (rounds.now e) (s.event e)
    rw [returned]
    refine ⟨_, rfl, { raised := rfl, critical := ?_, payload := ?_, checked := ?_ }⟩
    · intro k
      by_cases here : k = e
      · subst here
        simp [critical]
      · simp [here]
    · intro k
      by_cases here : k = e
      · subst here
        simp [payload]
      · simp [here]
    · intro record member
      rcases List.mem_append.mp member with before | new
      · exact Or.inl before
      · rw [List.mem_singleton.mp new]
        exact Or.inr valid
  · refine ⟨s, rfl, { raised := rfl, critical := ?_, payload := ?_, checked := ?_ }⟩
    · exact fun _ => rfl
    · exact fun _ => rfl
    · exact fun _ member => Or.inl member

-----------------------------------------------------------------------------------------
-- The loop

/-- The logs of the rounds from `e` on when each of them raises one, while control comes back. -/
def raisedLogs (rounds : TraceRounds) (payload : Fin 16 → BitVec 8) : Nat → Nat → List XmHmLog
  | 0, _ => []
  | left + 1, e =>
      partitionErrorLog rounds.kid (rounds.stack e) payload
        :: if rounds.comesBack e then raisedLogs rounds payload left (e + 1) else []

/-- The first event decides for all: every round raises a log with its payload, or none does.
Witness: induction on the rounds left; no round changes what there is to decide on.
-/
theorem writeTraceLoop_raised (rounds : TraceRounds) (left e : Nat) (s : TraceWriting)
    : ∃ s' back, writeTraceLoop rounds left e s = .ok (s', back)
      ∧ s'.raised = s.raised ++
        (if criticality (s.event 0) = XM_TRACE_UNRECOVERABLE then
          raisedLogs rounds (s.event 0).payload left e
        else
          [])
      ∧ ∀ record ∈ s'.inserted, record ∈ s.inserted
        ∨ isValidCheckSum record.halfWords sizeofLogRecord = .ok 1 := by
  induction left generalizing e s with
  | zero =>
      refine ⟨s, true, rfl, ?_, fun _ member => Or.inl member⟩
      simp [raisedLogs]
  | succ left ih =>
      obtain ⟨t, inserted, stamps⟩ := insertEvent_stamps rounds e s
      have checked : ∀ records : List XmTraceEvent,
          (∀ record ∈ records, record ∈ t.inserted
            ∨ isValidCheckSum record.halfWords sizeofLogRecord = .ok 1) →
          ∀ record ∈ records, record ∈ s.inserted
            ∨ isValidCheckSum record.halfWords sizeofLogRecord = .ok 1 := by
        intro records later record member
        rcases later record member with before | valid
        · exact stamps.checked record before
        · exact Or.inr valid
      unfold writeTraceLoop
      simp only [inserted, ok_bind, stamps.critical]
      by_cases critical : criticality (s.event 0) = XM_TRACE_UNRECOVERABLE
      · simp only [if_pos critical, raisedLogs]
        by_cases back : rounds.comesBack e = true
        · obtain ⟨s', again, returned, raised, valid⟩ := ih (e + 1)
            { t with raised := t.raised
                ++ [partitionErrorLog rounds.kid (rounds.stack e) (t.event 0).payload] }
          simp only [if_pos back]
          refine ⟨s', again, returned, ?_, checked _ valid⟩
          rw [raised]
          simp only [stamps.critical, if_pos critical, stamps.payload, stamps.raised,
            List.append_assoc, List.singleton_append]
        · simp only [if_neg back]
          refine ⟨_, _, rfl, ?_, checked _ fun _ member => Or.inl member⟩
          simp only [stamps.payload, stamps.raised]
      · obtain ⟨s', again, returned, raised, valid⟩ := ih (e + 1) t
        simp only [if_neg critical]
        refine ⟨s', again, returned, ?_, checked _ valid⟩
        rw [raised]
        simp only [stamps.critical, if_neg critical, stamps.raised]

/-- What an accepted call has raised, and that the records it inserted check themselves. -/
theorem writeTrace_raised {space : AddressSpace} (rounds : TraceRounds)
    {desc event size bitmap : XmU32} (own : objDescGetPartitionId desc = kid2PartId rounds.kid)
    (batch : size.toNat / sizeofLogRecord ≠ 0) (readable : Accepts space event size readFlags)
    (bitmapReadable : Accepts space bitmap 4 readFlags) (events : Nat → XmTraceEvent) (seq : XmU32)
    : ∃ s result, writeTrace space rounds desc event size bitmap events seq = .ok (s, result)
      ∧ s.raised = (if criticality (events 0) = XM_TRACE_UNRECOVERABLE then
          raisedLogs rounds (events 0).payload (size.toNat / sizeofLogRecord) 0
        else
          [])
      ∧ ∀ record ∈ s.inserted, isValidCheckSum record.halfWords sizeofLogRecord = .ok 1 := by
  obtain ⟨s, back, returned, raised, checked⟩ :=
    writeTraceLoop_raised rounds (size.toNat / sizeofLogRecord) 0
      { event := events, seq, written := 0, inserted := [], raised := [] }
  refine ⟨s, if back then some (BitVec.ofNat 32 (s.written * sizeofLogRecord)).toInt else none,
    ?_, raised, ?_⟩
  · have permitted : ¬ objDescGetPartitionId desc ≠ kid2PartId rounds.kid := not_not_intro own
    unfold writeTrace
    simp only [if_neg permitted, if_neg batch, ifChecked_accepted readable,
      ifChecked_accepted bitmapReadable, returned]
    rfl
  · intro record member
    rcases checked record member with harmlessAll | valid
    · cases harmlessAll
    · exact valid

/-- A stack that makes each log one of the hypervisor. -/
def systemStack : XmHmLog where
  signature := 0
  checksum := 0
  opCodeH := HMLOG_OPCODE_SYS_MASK
  opCodeL := 0
  timestamp := 0
  payload _ := 0

theorem system_of_stack (kid : XmU32) (payload : Fin 16 → BitVec 8)
    : (hmEvent (partitionErrorLog kid systemStack payload)).system = true := by
  have ofSystem : HMLOG_OPCODE_SYS_MASK &&& HMLOG_OPCODE_SYS_MASK ≠ 0 := by decide
  exact decide_eq_true ofSystem

/-- Whatever else it meets, an accepted `WriteTrace` raises the events of a batch once each for
every content of its stack when none of them is unrecoverable, and only then.
-/
theorem writeTrace_raises_each_iff {space : AddressSpace} {rounds : TraceRounds}
    {desc event size bitmap : XmU32} (own : objDescGetPartitionId desc = kid2PartId rounds.kid)
    (batch : size.toNat / sizeofLogRecord ≠ 0) (readable : Accepts space event size readFlags)
    (bitmapReadable : Accepts space bitmap 4 readFlags) (events : Nat → XmTraceEvent) (seq : XmU32)
    : (∀ stack, RaisesEachOnce space { rounds with stack } desc event size bitmap events seq)
      ↔ ∀ e < size.toNat / sizeofLogRecord,
        criticality (events e) ≠ XM_TRACE_UNRECOVERABLE := by
  constructor
  · intro raises
    obtain ⟨s, result, returned, expected⟩ := raises fun _ => systemStack
    obtain ⟨t, result', returned', raised, -⟩ :=
      writeTrace_raised { rounds with stack := fun _ => systemStack } own batch
        readable bitmapReadable events seq
    cases returned.symm.trans returned'
    rw [raised] at expected
    obtain ⟨n, count⟩ := Nat.exists_eq_succ_of_ne_zero batch
    by_cases first : criticality (events 0) = XM_TRACE_UNRECOVERABLE
    · rw [if_pos first, count, raisedLogs, eventsToRaise, if_pos first] at expected
      have event := (List.cons.inj expected).1
      have system := congrArg HmEvent.system event
      exact absurd (system_of_stack _ _) (Bool.eq_false_iff.mp system)
    · rw [if_neg first] at expected
      have harmlessAll := eventsToRaise_nil.mp expected.symm
      simpa using harmlessAll
  · intro harmlessAll stack
    obtain ⟨s, result, returned, raised, -⟩ :=
      writeTrace_raised { rounds with stack } own batch readable bitmapReadable
        events seq
    refine ⟨s, result, returned, ?_⟩
    have nothing : eventsToRaise { rounds with stack } events (size.toNat / sizeofLogRecord) 0
        = [] := by
      refine eventsToRaise_nil.mpr ?_
      simpa using harmlessAll
    rw [raised, if_neg (harmlessAll 0 (Nat.pos_of_ne_zero batch)), nothing]
    rfl

-----------------------------------------------------------------------------------------
-- Batches of two

/-- Memory that a partition may read everywhere. -/
def readableSpace : AddressSpace where
  byte _ := 0
  readable _ := true
  writable _ := true

/-- Rounds of vCPU 0 of partition 1, which traces nothing, with the stack cleared. -/
def quietRounds : TraceRounds where
  kid := 1
  traceBitmap := 0
  bitmap _ := 0
  now _ := 0
  stack _ := { systemStack with opCodeH := 0 }
  comesBack _ := true

def eventOf (criticality : XmU32) : XmTraceEvent :=
  { systemStack with opCodeH := criticality <<< TRACE_OPCODE_CRIT_BIT }

theorem writeTrace_raises_each_harmless
    : RaisesEachOnce readableSpace quietRounds 0x2000400 0x1000 72 0x2000 (fun _ => eventOf 2) 0 :=
  (@writeTrace_raises_each_iff readableSpace quietRounds 0x2000400 0x1000 72 0x2000 rfl
    (by decide) ⟨_, rfl, by decide⟩ ⟨_, rfl, by decide⟩ (fun _ => eventOf 2) 0).mpr
    (fun _ _ => by decide) quietRounds.stack

/-- An unrecoverable event after a harmless one is not raised, and a harmless one after an
unrecoverable one is, even with a cleared stack.
-/
theorem first_event_decides
    : ¬ RaisesEachOnce readableSpace quietRounds 0x2000400 0x1000 72 0x2000
        (fun e => if e = 1 then eventOf 3 else eventOf 0) 0
      ∧ ¬ RaisesEachOnce readableSpace quietRounds 0x2000400 0x1000 72 0x2000
        (fun e => if e = 1 then eventOf 0 else eventOf 3) 0 := by
  constructor
  · rintro ⟨s, result, returned, expected⟩
    cases returned
    revert expected
    decide
  · rintro ⟨s, result, returned, expected⟩
    cases returned
    have count := congrArg List.length expected
    revert count
    decide

end XtratuM.Objects
