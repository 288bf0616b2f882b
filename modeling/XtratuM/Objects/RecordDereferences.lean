import XtratuM.Guest.CheckedRanges
import XtratuM.Hypercalls.Confinement
import XtratuM.Objects.LogStream
import XtratuM.Objects.TraceWriting

/-! The operations of the trace, health-monitor and console objects, with the checks they make and
every guest address that they dereference.
-/

namespace XtratuM.Objects

open Control (XM_HYPERVISOR_ID)
open Guest
open GuardedUses
open Tracked

namespace Checking

/-- A buffer for records is a non-null pointer that is read and written. -/
def recordFlags : PFlags where
  rw := true
  notNull := true

variable {ρ : Type}

/-- Takes records off a stream into a buffer, from entry `e` on. -/
def getRecords (buffer : XmU32) : Nat → Nat → LogState ρ → Dereferencing (List ρ × LogState ρ)
  | 0, _, s => pure ([], s)
  | left + 1, e, s => do
      let got ← lift (LogOp.get.run s)
      match got.1.log with
      | none => pure ([], got.2)
      | some log => do
          dereference (buffer + BitVec.ofNat 32 (sizeofLogRecord * e)) sizeofLogRecord
          let rest ← getRecords buffer left (e + 1) got.2
          pure (log :: rest.1, rest.2)

/-- The bytes that were read, and the records in them. -/
structure RecordReply (ρ : Type) where
  ret : Int
  records : List ρ

def RecordReply.code (ret : XmRet) : RecordReply ρ where
  ret := ret.code
  records := []

def RecordReply.read (records : List ρ) : RecordReply ρ where
  ret := (BitVec.ofNat 32 (records.length * sizeofLogRecord)).toInt
  records := records

-----------------------------------------------------------------------------------------
-- Control of streams

def LOG_GET_STATUS : XmU32 := 0x0
def LOG_LOCK : XmU32 := 0x1
def LOG_UNLOCK : XmU32 := 0x2
def LOG_RESET : XmU32 := 0x3

/-- `xmTraceStatus_t` and `xmHmStatus_t`. -/
structure LogStatus where
  noEvents : Int
  maxEvents : Int
  currentEvent : Int

/-- The commands of `CtrlTrace` and `CtrlHmLog` on a stream. -/
def ctrlStream (cmd args : XmU32) (s : LogState ρ)
    : Dereferencing ((XmRet × Option LogStatus) × LogState ρ) :=
  if cmd = LOG_GET_STATUS then do
    dereference args 12
    pure
      ((.ok, some
        { noEvents := s.stream.ctrl.elem
          maxEvents := s.stream.info.maxNoElem
          currentEvent := s.stream.ctrl.d }), s)
  else if cmd = LOG_LOCK then
    pure ((.ok, none), { s with stream := logStreamLock s.stream })
  else if cmd = LOG_UNLOCK then
    pure ((.ok, none), { s with stream := logStreamUnlock s.stream })
  else if cmd = LOG_RESET then do
    let opened ← lift (logOpen s.dev sizeofLogRecord)
    pure ((.ok, none), opened)
  else
    pure ((.invalidParam, none), s)

-----------------------------------------------------------------------------------------
-- Traces

/-- `xmTraceLogStream`, and the streams of the partitions. -/
inductive TraceStream
  | xmTraceLogStream
  | traceLogStream (partId : XmU32)
  deriving DecidableEq

abbrev TraceLogs : Type := TraceStream → LogState XmTraceEvent

/-- The stream that a descriptor names. -/
def traceStream (cfg : Hypercalls.Config) (partId : XmU32) : Option TraceStream :=
  if partId = XM_HYPERVISOR_ID then some .xmTraceLogStream
  else if cfg.noPartitions ≤ partId then none
  else some (.traceLogStream partId)

/-- `ReadTrace`. -/
def readTrace (cfg : Hypercalls.Config) (space : AddressSpace) (caller desc event size : XmU32)
    (s : TraceLogs) : Dereferencing (RecordReply XmTraceEvent × TraceLogs) :=
  if objDescGetPartitionId desc ≠ caller ∧ !cfg.system caller then
    pure (.code .permError, s)
  else if size.toNat / sizeofLogRecord = 0 then
    pure (.code .invalidParam, s)
  else
    whenChecked space event size recordFlags (.code .invalidParam, s)
      (match traceStream cfg (objDescGetPartitionId desc) with
      | none => pure (.code .invalidParam, s)
      | some stream => do
          let got ← getRecords event (size.toNat / sizeofLogRecord) 0 (s stream)
          pure (.read got.1, Function.update s stream got.2))

/-- `CtrlTrace`. -/
def ctrlTrace (cfg : Hypercalls.Config) (space : AddressSpace) (caller desc cmd args : XmU32)
    (s : TraceLogs) : Dereferencing ((XmRet × Option LogStatus) × TraceLogs) :=
  if objDescGetPartitionId desc ≠ caller ∧ !cfg.system caller then
    pure ((.permError, none), s)
  else
    whenChecked space args 12 recordFlags ((.invalidParam, none), s)
      (match traceStream cfg (objDescGetPartitionId desc) with
      | none => pure ((.invalidParam, none), s)
      | some stream => do
          let done ← ctrlStream cmd args (s stream)
          pure (done.1, Function.update s stream done.2))

/-- `offsetof(struct xmTraceEvent, opCodeH)` and `offsetof(struct xmTraceEvent, payload)`. -/
def offsetofOpCodeH : Nat := 4
def offsetofPayload : Nat := 20

/-- The loop of `WriteTrace`; the second half of a round looks at the first event. -/
def writeTraceLoop (rounds : TraceRounds) (event bitmap : XmU32)
    : Nat → Nat → TraceWriting → Dereferencing (TraceWriting × Bool)
  | 0, _, s => pure (s, true)
  | left + 1, e, s => do
      dereference bitmap 4
      dereference (event + BitVec.ofNat 32 (sizeofLogRecord * e))
        (if rounds.traceBitmap &&& rounds.bitmap e ≠ 0 then sizeofLogRecord else 0)
      let s ← lift (insertEvent rounds e s)
      dereference (event + BitVec.ofNat 32 offsetofOpCodeH) 4
      if criticality (s.event 0) = XM_TRACE_UNRECOVERABLE then do
        dereference (event + BitVec.ofNat 32 offsetofPayload) copiedPayload
        let log := partitionErrorLog rounds.kid (rounds.stack e) (s.event 0).payload
        let s := { s with raised := s.raised ++ [log] }
        if rounds.comesBack e then
          writeTraceLoop rounds event bitmap left (e + 1) s
        else
          pure (s, false)
      else
        writeTraceLoop rounds event bitmap left (e + 1) s

/-- `WriteTrace`. -/
def writeTrace (space : AddressSpace) (rounds : TraceRounds) (desc event size bitmap : XmU32)
    (events : Nat → XmTraceEvent) (seq : XmU32) : Dereferencing (TraceWriting × Option Int) :=
  let start : TraceWriting :=
    { event := events, seq, written := 0, inserted := [], raised := [] }
  if objDescGetPartitionId desc ≠ kid2PartId rounds.kid then
    pure (start, some XmRet.permError.code)
  else if size.toNat / sizeofLogRecord = 0 then
    pure (start, some XmRet.invalidParam.code)
  else
    whenChecked space event size readFlags (start, some XmRet.invalidParam.code)
      (whenChecked space bitmap 4 readFlags (start, some XmRet.invalidParam.code) do
        let done ← writeTraceLoop rounds event bitmap (size.toNat / sizeofLogRecord) 0 start
        pure
          (done.1,
            if done.2 then some (BitVec.ofNat 32 (done.1.written * sizeofLogRecord)).toInt
            else none))

-----------------------------------------------------------------------------------------
-- The health monitor

/-- `ReadHmLog`. -/
def readHmLog (cfg : Hypercalls.Config) (space : AddressSpace) (caller desc log size : XmU32)
    (s : LogState XmHmLog) : Dereferencing (RecordReply XmHmLog × LogState XmHmLog) :=
  if objDescGetPartitionId desc ≠ XM_HYPERVISOR_ID then
    pure (.code .invalidParam, s)
  else if !cfg.system caller then
    pure (.code .permError, s)
  else
    whenChecked space log size recordFlags (.code .invalidParam, s)
      (if log = 0 ∨ size.toNat / sizeofLogRecord = 0 then
        pure (.code .invalidParam, s)
      else do
        let got ← getRecords log (size.toNat / sizeofLogRecord) 0 s
        pure (.read got.1, got.2))

/-- `CtrlHmLog`. -/
def ctrlHmLog (cfg : Hypercalls.Config) (space : AddressSpace) (caller desc cmd args : XmU32)
    (s : LogState XmHmLog)
    : Dereferencing ((XmRet × Option LogStatus) × LogState XmHmLog) :=
  if objDescGetPartitionId desc ≠ XM_HYPERVISOR_ID then
    pure ((.invalidParam, none), s)
  else if !cfg.system caller then
    pure ((.permError, none), s)
  else
    whenChecked space args 12 recordFlags ((.invalidParam, none), s) (ctrlStream cmd args s)

-----------------------------------------------------------------------------------------
-- The console

/-- The loop of `WriteConsoleObj`, from byte `e` on; the device takes a byte or does not. -/
def writeMods (device : Nat → Bool) (buffer : XmU32) : Nat → Nat → Dereferencing Nat
  | 0, e => pure e
  | left + 1, e => do
      dereference (buffer + BitVec.ofNat 32 e) 1
      if device e then writeMods device buffer left (e + 1) else pure e

/-- `WriteConsoleObj`. -/
def writeConsoleObj (space : AddressSpace) (device : Nat → Bool)
    (caller desc buffer length : XmU32) : Dereferencing Int :=
  if objDescGetPartitionId desc ≠ caller then
    pure XmRet.permError.code
  else
    whenChecked space buffer length readFlags XmRet.invalidParam.code
      (if 128 < length then
        pure XmRet.invalidParam.code
      else do
        let written ← writeMods device buffer length.toNat 0
        pure written)

-----------------------------------------------------------------------------------------
-- Records in checked ranges

section Records

variable {cfg : Hypercalls.Config} {space : AddressSpace} {caller desc : XmU32}
  {held : Set CheckedRange} {buffer size : XmU32}

/-- Witness: induction on the records left; the entries up to `e + left` fit into the buffer. -/
theorem getRecords_checks (passed : Passed held buffer size) (fits : ¬ Wraps buffer size)
    {left e : Nat} (inside : sizeofLogRecord * (e + left) ≤ size.toNat) (s : LogState ρ)
    : ChecksAfter held (getRecords buffer left e s) := by
  induction left generalizing e s with
  | zero => exact after_pure _
  | succ left ih =>
      have room : sizeofLogRecord * e + sizeofLogRecord ≤ size.toNat := by
        rw [Nat.mul_add, Nat.mul_succ] at inside
        omega
      refine after_lift_bind.mpr fun got _ => ?_
      split
      · exact after_pure _
      · refine (checksAfter_dereference_bind (passed.covers fits _ room)).mpr ?_
        refine after_bind.mpr ⟨ih ?_ got.2, fun _ _ => after_pure _⟩
        rwa [Nat.add_right_comm]

/-- The records of a buffer. -/
theorem records_inside (size : XmU32)
    : sizeofLogRecord * (0 + size.toNat / sizeofLogRecord) ≤ size.toNat := by
  rw [Nat.zero_add]
  exact Nat.mul_div_le _ _

theorem ctrlStream_checks {args : XmU32} (passed : Passed held args 12)
    (fits : ¬ Wraps args 12) (cmd : XmU32) (s : LogState ρ)
    : ChecksAfter held (ctrlStream cmd args s) := by
  unfold ctrlStream
  split
  · refine (checksAfter_dereference_bind ?_).mpr (after_pure _)
    exact passed.covers_start fits (by decide)
  · split
    · exact after_pure _
    · split
      · exact after_pure _
      · split
        · exact after_lift_bind.mpr fun _ _ => after_pure _
        · exact after_pure _

/-- The caller may use the trace object of the descriptor. -/
def MayTrace (cfg : Hypercalls.Config) (caller desc : XmU32) : Prop :=
  objDescGetPartitionId desc = caller ∨ cfg.system caller = true

theorem mayTrace_iff
    : MayTrace cfg caller desc
      ↔ ¬ (objDescGetPartitionId desc ≠ caller ∧ (!cfg.system caller) = true) := by
  unfold MayTrace
  rw [not_and_or, not_not, Bool.not_eq_true', Bool.not_eq_false]

theorem readTrace_checks (event : XmU32) (s : TraceLogs)
    : ChecksAfter ∅ (readTrace cfg space caller desc event size s)
      ↔ (MayTrace cfg caller desc → size.toNat / sizeofLogRecord ≠ 0 → ¬ Slips event size) := by
  unfold readTrace
  rw [mayTrace_iff]
  split
  · next refused => exact iff_of_true (after_pure _) fun may => absurd refused may
  · next may =>
      split
      · next none => exact iff_of_true (after_pure _) fun _ some => absurd none some
      · next some =>
          rw [checksAfter_whenChecked_of]
          · exact ⟨fun noSlip _ _ => noSlip, fun noSlip => noSlip may some⟩
          · intro probed fits
            split
            · exact after_pure _
            · refine after_bind.mpr ⟨?_, fun _ _ => after_pure _⟩
              exact getRecords_checks passed_insert fits (records_inside size) _

theorem ctrlTrace_checks (cmd args : XmU32) (s : TraceLogs)
    : ChecksAfter ∅ (ctrlTrace cfg space caller desc cmd args s) := by
  unfold ctrlTrace
  split
  · exact after_pure _
  · refine checksAfter_whenChecked_small_of (by decide) fun probed fits => ?_
    split
    · exact after_pure _
    · refine after_bind.mpr ⟨?_, fun _ _ => after_pure _⟩
      exact ctrlStream_checks passed_insert fits cmd _

theorem readHmLog_checks (log : XmU32) (s : LogState XmHmLog)
    : ChecksAfter ∅ (readHmLog cfg space caller desc log size s)
      ↔ (objDescGetPartitionId desc = XM_HYPERVISOR_ID → cfg.system caller = true →
        ¬ Slips log size) := by
  unfold readHmLog
  split
  · next other => exact iff_of_true (after_pure _) fun hypervisor => absurd hypervisor other
  · next hypervisor =>
      split
      · next refused =>
          refine iff_of_true (after_pure _) fun _ system => ?_
          rw [system] at refused
          cases refused
      · next may =>
          have system : cfg.system caller = true := by
            simpa using may
          rw [checksAfter_whenChecked_of]
          · exact ⟨fun noSlip _ _ => noSlip, fun noSlip => noSlip (not_not.mp hypervisor) system⟩
          · intro probed fits
            split
            · exact after_pure _
            · refine after_bind.mpr ⟨?_, fun _ _ => after_pure _⟩
              exact getRecords_checks passed_insert fits (records_inside size) _

theorem ctrlHmLog_checks (cmd args : XmU32) (s : LogState XmHmLog)
    : ChecksAfter ∅ (ctrlHmLog cfg space caller desc cmd args s) := by
  unfold ctrlHmLog
  split
  · exact after_pure _
  · split
    · exact after_pure _
    · refine checksAfter_whenChecked_small_of (by decide) fun probed fits => ?_
      exact ctrlStream_checks passed_insert fits cmd s

/-- Witness: induction on the bytes left. -/
theorem writeMods_checks (passed : Passed held buffer size) (fits : ¬ Wraps buffer size)
    (device : Nat → Bool) {left e : Nat} (inside : e + left ≤ size.toNat)
    : ChecksAfter held (writeMods device buffer left e) := by
  induction left generalizing e with
  | zero => exact after_pure _
  | succ left ih =>
      refine (checksAfter_dereference_bind (passed.covers fits e (by omega))).mpr ?_
      split
      · exact ih (by omega)
      · exact after_pure _

theorem writeConsoleObj_checks (device : Nat → Bool)
    : ChecksAfter ∅ (writeConsoleObj space device caller desc buffer size)
      ↔ (objDescGetPartitionId desc = caller → ¬ Slips buffer size) := by
  unfold writeConsoleObj
  split
  · next foreign => exact iff_of_true (after_pure _) fun own => absurd own foreign
  · next own =>
      rw [checksAfter_whenChecked_of]
      · exact ⟨fun noSlip _ => noSlip, fun noSlip => noSlip (not_not.mp own)⟩
      · intro probed fits
        split
        · exact after_pure _
        · refine after_bind.mpr ⟨?_, fun _ _ => after_pure _⟩
          exact writeMods_checks passed_insert fits device (by omega)

end Records

-----------------------------------------------------------------------------------------
-- `WriteTrace` in checked ranges

section WriteTrace

variable {space : AddressSpace} {rounds : TraceRounds} {event bitmap size : XmU32}
  {held : Set CheckedRange}

/-- Witness: induction on the rounds left. -/
theorem writeTraceLoop_checks (passed : Passed held event size) (fits : ¬ Wraps event size)
    (passed' : Passed held bitmap 4) (fits' : ¬ Wraps bitmap 4) {left e : Nat}
    (inside : sizeofLogRecord * (e + left) ≤ size.toNat) (s : TraceWriting)
    : ChecksAfter held (writeTraceLoop rounds event bitmap left e s) := by
  induction left generalizing e s with
  | zero => exact after_pure _
  | succ left ih =>
      have record : sizeofLogRecord = 36 := rfl
      have room : sizeofLogRecord * e + sizeofLogRecord ≤ size.toNat := by
        rw [Nat.mul_add, Nat.mul_succ] at inside
        omega
      have later : sizeofLogRecord * (e + 1 + left) ≤ size.toNat := by
        rwa [Nat.add_right_comm]
      have stamped : sizeofLogRecord * e
          + (if rounds.traceBitmap &&& rounds.bitmap e ≠ 0 then sizeofLogRecord else 0)
            ≤ size.toNat := by
        split
        · exact room
        · omega
      have opCode : offsetofOpCodeH + 4 ≤ size.toNat := by
        have offset : offsetofOpCodeH = 4 := rfl
        omega
      have payload : offsetofPayload + copiedPayload ≤ size.toNat := by
        have offset : offsetofPayload = 20 := rfl
        have copied : copiedPayload = 15 := rfl
        omega
      refine (checksAfter_dereference_bind (passed'.covers_start fits' (by decide))).mpr ?_
      refine (checksAfter_dereference_bind (passed.covers fits _ stamped)).mpr ?_
      refine after_lift_bind.mpr fun s _ => ?_
      refine (checksAfter_dereference_bind (passed.covers fits _ opCode)).mpr ?_
      split
      · refine (checksAfter_dereference_bind (passed.covers fits _ payload)).mpr ?_
        split
        · exact ih later _
        · exact after_pure _
      · exact ih later s

theorem writeTrace_checks (desc : XmU32) (events : Nat → XmTraceEvent) (seq : XmU32)
    : ChecksAfter ∅ (writeTrace space rounds desc event size bitmap events seq)
      ↔ (objDescGetPartitionId desc = kid2PartId rounds.kid →
        size.toNat / sizeofLogRecord ≠ 0 → ¬ Slips event size) := by
  unfold writeTrace
  split
  · next foreign => exact iff_of_true (after_pure _) fun own => absurd own foreign
  · next own =>
      split
      · next none => exact iff_of_true (after_pure _) fun _ some => absurd none some
      · next some =>
          rw [checksAfter_whenChecked_of]
          · exact ⟨fun noSlip _ _ => noSlip, fun noSlip => noSlip (not_not.mp own) some⟩
          · intro probed fits
            refine checksAfter_whenChecked_small_of (by decide) fun probed' fits' => ?_
            refine after_bind.mpr ⟨?_, fun _ _ => after_pure _⟩
            exact writeTraceLoop_checks (passed_insert.later _) fits passed_insert fits'
              (records_inside size) _

/-- What is written and raised is what `WriteTrace` writes and raises, by induction on the rounds
left.
-/
theorem result_writeTraceLoop (left e : Nat) (s : TraceWriting)
    : (writeTraceLoop rounds event bitmap left e s).result
      = Objects.writeTraceLoop rounds left e s := by
  induction left generalizing e s with
  | zero => rfl
  | succ left ih =>
      unfold writeTraceLoop Objects.writeTraceLoop
      simp only [dereference, result_bind, result_uses, ok_bind, result_lift]
      congr 1
      funext s
      split
      · simp only [result_bind, result_uses, ok_bind]
        split
        · exact ih _ _
        · rfl
      · exact ih _ _

theorem result_writeTrace (desc : XmU32) (events : Nat → XmTraceEvent) (seq : XmU32)
    : (writeTrace space rounds desc event size bitmap events seq).result
      = Objects.writeTrace space rounds desc event size bitmap events seq := by
  unfold writeTrace Objects.writeTrace
  dsimp only
  split <;> [rfl; skip]
  split <;> [rfl; skip]
  rw [result_whenChecked, result_whenChecked, result_bind, result_writeTraceLoop]
  congr 2

end WriteTrace

end Checking

end XtratuM.Objects
