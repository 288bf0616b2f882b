import XtratuM.Kernel.Base
import XtratuM.Library.BoundedLog
import XtratuM.Library.Reachability
import XtratuM.Library.Window

/-! Log streams: records in a circular store on a device, behind a header with two copies of
the stream's indices.
-/

namespace XtratuM.Objects

open Reachability Window BoundedLog

def LOGSTREAM_MAGIC1 : XmU32 := 0xF9E8D7C6
def LOGSTREAM_MAGIC2 : XmU32 := 0x1A2B3C4D

def XM_LOGSTREAM_CURRENT : XmU32 := 0
def XM_LOGSTREAM_START : XmU32 := 1
def XM_LOGSTREAM_END : XmU32 := 2

/-- `struct logStreamInfo`. -/
structure LogStreamInfo where
  elemSize : Int
  maxNoElem : Int
  lock : Int
  cHdr : Int
  deriving DecidableEq

/-- `struct logStreamCtrl`. -/
structure LogStreamCtrl where
  tail : Int
  elem : Int
  head : Int
  d : Int
  deriving DecidableEq

/-- `struct logStreamHdr`; `ctrl` is an array of two. -/
structure LogStreamHdr where
  magic1 : XmU32
  info : LogStreamInfo
  ctrl : Int → LogStreamCtrl
  magic2 : XmU32

def sizeofLogStreamHdr : Int := 56

/-- `struct logStream`; its device is passed along. -/
structure LogStream where
  info : LogStreamInfo
  ctrl : LogStreamCtrl
  deriving DecidableEq

/-- A device of `size` bytes that holds a header and then records. What is written to a device
without room for a record goes to its `output`.
-/
structure KDevice (ρ : Type) where
  size : Int
  hdr : LogStreamHdr
  record : Int → ρ
  output : List ρ

/-- A `KDevWrite`, with what the `KDevSeek` before it selects. -/
inductive DevWrite (ρ : Type)
  | hdr (hdr : LogStreamHdr)
  | ctrl (cHdr : Int) (ctrl : LogStreamCtrl)
  | cHdr (cHdr : Int)
  | record (ptr : Int) (log : ρ)
  | output (log : ρ)

variable {ρ : Type}

def KDevice.write (dev : KDevice ρ) : DevWrite ρ → KDevice ρ
  | .hdr hdr => { dev with hdr }
  | .ctrl cHdr ctrl =>
      { dev with hdr := { dev.hdr with ctrl := Function.update dev.hdr.ctrl cHdr ctrl } }
  | .cHdr cHdr => { dev with hdr := { dev.hdr with info := { dev.hdr.info with cHdr } } }
  | .record ptr log => { dev with record := Function.update dev.record ptr log }
  | .output log => { dev with output := dev.output ++ [log] }

/-- Writes one after the other. -/
def KDevice.writes (dev : KDevice ρ) (writes : List (DevWrite ρ)) : KDevice ρ :=
  writes.foldl KDevice.write dev

-----------------------------------------------------------------------------------------
-- The stream

/-- `(i+1<n) ? i+1 : 0`. -/
def nextIndex (i n : Int) : Int :=
  if i + 1 < n then i + 1 else 0

/-- `!(cHdr) ? 1 : 0`. -/
def otherHdr (cHdr : Int) : Int :=
  if cHdr = 0 then 1 else 0

/-- `LogStreamCommit`. -/
def logStreamCommit (lS : LogStream) : LogStream × List (DevWrite ρ) :=
  if lS.info.maxNoElem ≠ 0 then
    ({ lS with info := { lS.info with cHdr := otherHdr lS.info.cHdr } },
      [.ctrl lS.info.cHdr lS.ctrl, .cHdr lS.info.cHdr])
  else
    (lS, [])

/-- The number of records a device has room for. -/
def roomFor (size elemSize : Int) : Int :=
  if 0 < size - sizeofLogStreamHdr then (size - sizeofLogStreamHdr) / elemSize else 0

def zeroCtrl : LogStreamCtrl where
  tail := 0
  elem := 0
  head := 0
  d := 0

/-- The device holds the header of a stream of that shape. -/
def isStreamHdr (hdr : LogStreamHdr) (maxNoElem elemSize : Int) : Bool :=
  hdr.magic1 = LOGSTREAM_MAGIC1 && hdr.magic2 = LOGSTREAM_MAGIC2
    && hdr.info.maxNoElem = maxNoElem && hdr.info.elemSize = elemSize

/-- The header written at `INIT_HDR`. -/
def initHdr (maxNoElem elemSize : Int) : LogStreamHdr where
  magic1 := LOGSTREAM_MAGIC1
  info := { elemSize, maxNoElem, lock := 0, cHdr := 0 }
  ctrl _ := zeroCtrl
  magic2 := LOGSTREAM_MAGIC2

/-- `LogStreamInit`. -/
def logStreamInit (dev : KDevice ρ) (elemSize : Int)
    : Except Stop (LogStream × List (DevWrite ρ)) := do
  assert (0 < elemSize)
  let maxNoElem := roomFor dev.size elemSize
  let info : LogStreamInfo := { elemSize, maxNoElem, lock := 0, cHdr := 0 }
  if maxNoElem ≠ 0 then
    if isStreamHdr dev.hdr maxNoElem elemSize then
      pure
        ({ info := { info with lock := dev.hdr.info.lock, cHdr := otherHdr dev.hdr.info.cHdr }
           ctrl := dev.hdr.ctrl dev.hdr.info.cHdr }, [])
    else
      pure ({ info, ctrl := zeroCtrl }, [.hdr (initHdr maxNoElem elemSize)])
  else
    pure ({ info, ctrl := zeroCtrl }, [])

/-- What `LogStreamInsert` does with a full stream that is not locked. -/
def dropOldest (lS : LogStream) : LogStream :=
  { lS with
    ctrl :=
      { lS.ctrl with
        head := nextIndex lS.ctrl.head lS.info.maxNoElem
        d := if 0 < lS.ctrl.d then lS.ctrl.d - 1 else lS.ctrl.d
        elem := lS.ctrl.elem - 1 } }

/-- The end of `LogStreamInsert` on a device with room. -/
def storeRecord (lS : LogStream) (log : ρ) (smashed : Int)
    : Except Stop (Int × LogStream × List (DevWrite ρ)) := do
  assert (lS.ctrl.elem < lS.info.maxNoElem)
  let stored :=
    { lS with
      ctrl :=
        { lS.ctrl with
          tail := nextIndex lS.ctrl.tail lS.info.maxNoElem
          elem := lS.ctrl.elem + 1 } }
  let (committed, writes) := logStreamCommit stored
  pure (smashed, committed, .record lS.ctrl.tail log :: writes)

/-- `LogStreamInsert`. -/
def logStreamInsert (lS : LogStream) (log : ρ)
    : Except Stop (Int × LogStream × List (DevWrite ρ)) := do
  assert (0 ≤ lS.info.maxNoElem)
  if lS.info.maxNoElem ≠ 0 then
    if lS.info.maxNoElem ≤ lS.ctrl.elem then
      if lS.info.lock ≠ 0 then
        pure (-1, lS, [])
      else
        storeRecord (dropOldest lS) log 1
    else
      storeRecord lS log 0
  else
    let (committed, writes) := logStreamCommit lS
    pure (0, committed, .output log :: writes)

/-- `LogStreamGet`; the record is the one copied to the caller's buffer. -/
def logStreamGet (lS : LogStream) (dev : KDevice ρ)
    : Int × Option ρ × LogStream × List (DevWrite ρ) :=
  if 0 < lS.ctrl.elem ∧ lS.ctrl.d < lS.ctrl.elem then
    let ptr := (lS.ctrl.d + lS.ctrl.head).tmod lS.info.maxNoElem
    let (committed, writes) := logStreamCommit { lS with ctrl.d := lS.ctrl.d + 1 }
    (0, some (dev.record ptr), committed, writes)
  else
    (-1, none, lS, [])

/-- Where `LogStreamSeek` counts from. -/
def seekBase (ctrl : LogStreamCtrl) (whence : XmU32) : Option Int :=
  if whence = XM_LOGSTREAM_START then some 0
  else if whence = XM_LOGSTREAM_CURRENT then some ctrl.d
  else if whence = XM_LOGSTREAM_END then some ctrl.elem
  else none

/-- The offset kept between the ends of the stream. -/
def clampOffset (elem off : Int) : Int :=
  let off := if elem < off then elem else off
  if off < 0 then 0 else off

/-- `LogStreamSeek`. -/
def logStreamSeek (lS : LogStream) (offset : Int) (whence : XmU32)
    : Int × LogStream × List (DevWrite ρ) :=
  match seekBase lS.ctrl whence with
  | none => (-1, lS, [])
  | some base =>
      let off := clampOffset lS.ctrl.elem (offset + base)
      let (committed, writes) := logStreamCommit { lS with ctrl.d := off }
      (off, committed, writes)

/-- `LogStreamLock`. -/
def logStreamLock (lS : LogStream) : LogStream :=
  { lS with info.lock := 1 }

/-- `LogStreamUnlock`. -/
def logStreamUnlock (lS : LogStream) : LogStream :=
  { lS with info.lock := 0 }

-----------------------------------------------------------------------------------------
-- Operations

inductive LogOp (ρ : Type)
  | insert (log : ρ)
  | get
  | seek (offset : Int) (whence : XmU32)
  | lock
  | unlock

/-- What an operation returns, and the record it hands out. -/
structure LogReply (ρ : Type) where
  code : Int
  log : Option ρ

structure LogState (ρ : Type) where
  stream : LogStream
  dev : KDevice ρ

/-- The stream an operation leaves, and the device writes it makes on the way. -/
def LogOp.effect (op : LogOp ρ) (s : LogState ρ)
    : Except Stop (LogReply ρ × LogStream × List (DevWrite ρ)) :=
  match op with
  | .insert log => do
      let (code, stream, writes) ← logStreamInsert s.stream log
      pure ({ code, log := none }, stream, writes)
  | .get =>
      let (code, log, stream, writes) := logStreamGet s.stream s.dev
      .ok ({ code, log }, stream, writes)
  | .seek offset whence =>
      let (code, stream, writes) := logStreamSeek s.stream offset whence
      .ok ({ code, log := none }, stream, writes)
  | .lock => .ok ({ code := 0, log := none }, logStreamLock s.stream, [])
  | .unlock => .ok ({ code := 0, log := none }, logStreamUnlock s.stream, [])

def LogOp.run (op : LogOp ρ) (s : LogState ρ) : Except Stop (LogReply ρ × LogState ρ) := do
  let (reply, stream, writes) ← op.effect s
  pure (reply, { stream, dev := s.dev.writes writes })

/-- A stream opened on a device. -/
def logOpen (dev : KDevice ρ) (elemSize : Int) : Except Stop (LogState ρ) := do
  let (stream, writes) ← logStreamInit dev elemSize
  pure { stream, dev := dev.writes writes }

def LogNext (s : LogState ρ) (label : LogOp ρ × LogReply ρ) (s' : LogState ρ) : Prop :=
  label.1.run s = .ok (label.2, s')

/-- The record an insertion added to the stream. -/
def acceptedRecord : LogOp ρ × LogReply ρ → Option ρ
  | (.insert log, reply) => if reply.code = -1 then none else some log
  | _ => none

/-- The records accepted so far, oldest first. -/
def accepted (past : List (LogOp ρ × LogReply ρ)) : List ρ :=
  (past.filterMap acceptedRecord).reverse

/-- The slots `head..head+elem-1` of the device. -/
def LogState.retained (s : LogState ρ) : List ρ :=
  window s.dev.record s.stream.info.maxNoElem s.stream.ctrl.head s.stream.ctrl.elem.toNat

-----------------------------------------------------------------------------------------
-- What a stream stands for

/-- The bounded log a stream keeps on its device. -/
def LogState.log (s : LogState ρ) : Log ρ where
  kept := s.retained
  cursor := s.stream.ctrl.d.toNat
  locked := s.stream.info.lock ≠ 0

/-- What an operation does to that log. -/
def LogOp.spec (capacity : Nat) (op : LogOp ρ) (log : Log ρ) : LogReply ρ × Log ρ :=
  match op with
  | .insert record =>
      if log.kept.length < capacity then
        ({ code := 0, log := none }, log.push capacity record)
      else if log.locked then
        ({ code := -1, log := none }, log)
      else
        ({ code := 1, log := none }, log.push capacity record)
  | .get =>
      match log.kept[log.cursor]? with
      | some record => ({ code := 0, log := some record }, { log with cursor := log.cursor + 1 })
      | none => ({ code := -1, log := none }, log)
  | .seek offset whence =>
      let ctrl := { zeroCtrl with elem := log.kept.length, d := log.cursor }
      match seekBase ctrl whence with
      | some base =>
          let off := clampOffset log.kept.length (offset + base)
          ({ code := off, log := none }, { log with cursor := off.toNat })
      | none => ({ code := -1, log := none }, log)
  | .lock => ({ code := 0, log := none }, { log with locked := true })
  | .unlock => ({ code := 0, log := none }, { log with locked := false })

/-- The indices of a stream with room for `capacity` records that holds `len`. -/
structure Indices (capacity len : Nat) (ctrl : LogStreamCtrl) : Prop where
  elem : ctrl.elem = len
  fits : len ≤ capacity
  d : 0 ≤ ctrl.d ∧ ctrl.d ≤ len
  head : 0 ≤ ctrl.head ∧ ctrl.head < capacity
  tail : ctrl.tail = (ctrl.head + len) % capacity

/-- A stream with room for `capacity` records. -/
structure WellFormed (capacity : Nat) (s : LogState ρ) : Prop where
  positive : 0 < capacity
  maxNoElem : s.stream.info.maxNoElem = capacity
  indices : ∃ len, Indices capacity len s.stream.ctrl

theorem nextIndex_eq {i n : Int} (low : 0 ≤ i) (high : i < n) : nextIndex i n = (i + 1) % n := by
  unfold nextIndex
  split
  · next inside => rw [Int.emod_eq_of_lt (by omega) inside]
  · next wraps =>
      have last : i + 1 = n := by omega
      rw [last, Int.emod_self]

theorem clampOffset_inside {elem : Int} (nonneg : 0 ≤ elem) (off : Int)
    : 0 ≤ clampOffset elem off ∧ clampOffset elem off ≤ elem := by
  simp only [clampOffset]
  split <;> split <;> omega

theorem logStreamCommit_ctrl (lS : LogStream)
    : (logStreamCommit (ρ := ρ) lS).1.ctrl = lS.ctrl
      ∧ (logStreamCommit (ρ := ρ) lS).1.info.maxNoElem = lS.info.maxNoElem
      ∧ (logStreamCommit (ρ := ρ) lS).1.info.lock = lS.info.lock := by
  unfold logStreamCommit
  split <;> exact ⟨rfl, rfl, rfl⟩

/-- A commit writes the header only. -/
theorem logStreamCommit_record (lS : LogStream) (dev : KDevice ρ)
    : (dev.writes (logStreamCommit lS).2).record = dev.record := by
  unfold logStreamCommit
  split <;> rfl

/-- Committing changed indices gives a stream with those. -/
def LogState.commit (s : LogState ρ) (ctrl : LogStreamCtrl) : LogState ρ where
  stream := (logStreamCommit (ρ := ρ) { s.stream with ctrl }).1
  dev := s.dev.writes (logStreamCommit { s.stream with ctrl }).2

theorem LogState.commit_wellFormed {capacity len : Nat} {s : LogState ρ}
    (formed : WellFormed capacity s) {ctrl : LogStreamCtrl} (indices : Indices capacity len ctrl)
    : WellFormed capacity (s.commit ctrl) where
  positive := formed.positive
  maxNoElem := by rw [commit, (logStreamCommit_ctrl _).2.1, formed.maxNoElem]
  indices := ⟨len, by rwa [commit, (logStreamCommit_ctrl _).1]⟩

theorem LogState.commit_log (s : LogState ρ) (ctrl : LogStreamCtrl)
    : (s.commit ctrl).log
      = { kept := window s.dev.record s.stream.info.maxNoElem ctrl.head ctrl.elem.toNat
          cursor := ctrl.d.toNat
          locked := s.stream.info.lock ≠ 0 } := by
  obtain ⟨same, maxNoElem, lock⟩ := logStreamCommit_ctrl (ρ := ρ) { s.stream with ctrl }
  simp only [log, retained, commit, same, maxNoElem, lock, logStreamCommit_record]

theorem LogState.retained_eq {capacity len : Nat} {s : LogState ρ}
    (formed : WellFormed capacity s) (indices : Indices capacity len s.stream.ctrl)
    : s.retained = window s.dev.record capacity s.stream.ctrl.head len := by
  rw [retained, formed.maxNoElem, indices.elem, Int.toNat_natCast]

@[simp] theorem LogState.length_retained {capacity len : Nat} {s : LogState ρ}
    (formed : WellFormed capacity s) (indices : Indices capacity len s.stream.ctrl)
    : s.retained.length = len := by
  rw [s.retained_eq formed indices, length_window]

-----------------------------------------------------------------------------------------
-- Each operation does to the log what its specification says

theorem storeRecord_returns {lS : LogStream} (fits : lS.ctrl.elem < lS.info.maxNoElem) (log : ρ)
    (smashed : Int)
    : ∃ ctrl, storeRecord lS log smashed
        = .ok (smashed, (logStreamCommit (ρ := ρ) { lS with ctrl }).1,
          .record lS.ctrl.tail log :: (logStreamCommit { lS with ctrl }).2) := by
  rw [storeRecord, assert_of fits]
  exact ⟨_, rfl⟩

/-- The record is appended to a stream with room for it. -/
theorem storeRecord_refines {capacity len : Nat} {s : LogState ρ}
    (formed : WellFormed capacity s) (indices : Indices capacity len s.stream.ctrl)
    (room : len < capacity) (log : ρ) (smashed : Int)
    : ∃ stream writes, storeRecord s.stream log smashed = .ok (smashed, stream, writes)
        ∧ WellFormed capacity { stream, dev := s.dev.writes writes }
        ∧ LogState.log { stream, dev := s.dev.writes writes }
          = { s.log with kept := s.log.kept ++ [log] } := by
  have fits : s.stream.ctrl.elem < s.stream.info.maxNoElem := by
    rw [indices.elem, formed.maxNoElem]
    exact_mod_cast room
  have tail : 0 ≤ s.stream.ctrl.tail ∧ s.stream.ctrl.tail < capacity := by
    rw [indices.tail]
    exact ⟨Int.emod_nonneg _ (by omega), Int.emod_lt_of_pos _ (by omega)⟩
  let stored : LogState ρ := { s with dev := s.dev.write (.record s.stream.ctrl.tail log) }
  let ctrl : LogStreamCtrl :=
    { s.stream.ctrl with
      tail := nextIndex s.stream.ctrl.tail s.stream.info.maxNoElem
      elem := s.stream.ctrl.elem + 1 }
  have stillFormed : WellFormed capacity stored :=
    { positive := formed.positive
      maxNoElem := formed.maxNoElem
      indices := ⟨len, indices⟩ }
  have grown : Indices capacity (len + 1) ctrl :=
    { elem := by simp only [ctrl, indices.elem, Nat.cast_add, Nat.cast_one]
      fits := room
      d := ⟨indices.d.1, by have := indices.d.2; simp only [ctrl]; omega⟩
      head := indices.head
      tail := by
        simp only [ctrl]
        rw [formed.maxNoElem, nextIndex_eq tail.1 tail.2, indices.tail, Int.emod_add_emod,
          Int.add_assoc]
        rfl }
  refine ⟨_, _, by rw [storeRecord, assert_of fits]; rfl,
    LogState.commit_wellFormed stillFormed grown, ?_⟩
  refine (stored.commit_log ctrl).trans ?_
  have cells : window (Function.update s.dev.record s.stream.ctrl.tail log)
        s.stream.info.maxNoElem s.stream.ctrl.head ctrl.elem.toNat
      = s.retained ++ [log] := by
    rw [grown.elem, Int.toNat_natCast, formed.maxNoElem, indices.tail,
      window_append _ _ _ (by exact_mod_cast room), s.retained_eq formed indices]
  simp only [LogState.log, ← cells]
  rfl

/-- The oldest record is given up. -/
theorem dropOldest_refines {capacity len : Nat} {s : LogState ρ}
    (formed : WellFormed capacity s) (indices : Indices capacity (len + 1) s.stream.ctrl)
    : WellFormed capacity { s with stream := dropOldest s.stream }
      ∧ Indices capacity len (dropOldest s.stream).ctrl
      ∧ LogState.log { s with stream := dropOldest s.stream }
        = { s.log with kept := s.log.kept.tail, cursor := s.log.cursor - 1 } := by
  have head : (dropOldest s.stream).ctrl.head = (s.stream.ctrl.head + 1) % capacity := by
    simp only [dropOldest, formed.maxNoElem, nextIndex_eq indices.head.1 indices.head.2]
  have shrunk : Indices capacity len (dropOldest s.stream).ctrl := by
    have d := indices.d
    have fits := indices.fits
    have tail := indices.tail
    refine { elem := ?_, fits := by omega, d := ?_, head := ?_, tail := ?_ }
    · simp only [dropOldest, indices.elem]
      omega
    · simp only [dropOldest]
      split <;> omega
    · rw [head]
      exact ⟨Int.emod_nonneg _ (by omega), Int.emod_lt_of_pos _ (by omega)⟩
    · rw [head, Int.emod_add_emod]
      simp only [dropOldest, tail]
      congr 1
      omega
  have stillFormed : WellFormed capacity { s with stream := dropOldest s.stream } :=
    { positive := formed.positive
      maxNoElem := formed.maxNoElem
      indices := ⟨len, shrunk⟩ }
  refine ⟨stillFormed, shrunk, ?_⟩
  have cells := LogState.retained_eq stillFormed shrunk
  rw [head, window_mod] at cells
  simp only [LogState.log, Log.mk.injEq]
  refine ⟨?_, ?_, rfl⟩
  · rw [s.retained_eq formed indices, window_cons, List.tail_cons]
    exact cells
  · simp only [dropOldest]
    split <;> omega

theorem logStreamInsert_refines {capacity : Nat} {s : LogState ρ}
    (formed : WellFormed capacity s) (log : ρ)
    : ∃ s', (LogOp.insert log).run s
          = .ok (((LogOp.insert log).spec capacity s.log).1, s')
        ∧ WellFormed capacity s' ∧ s'.log = ((LogOp.insert log).spec capacity s.log).2 := by
  obtain ⟨len, indices⟩ := formed.indices
  have length : s.log.kept.length = len := LogState.length_retained formed indices
  have nonneg : 0 ≤ s.stream.info.maxNoElem := by rw [formed.maxNoElem]; omega
  have isStore : s.stream.info.maxNoElem ≠ 0 := by
    have := formed.positive
    rw [formed.maxNoElem]
    omega
  simp only [LogOp.run, LogOp.effect, logStreamInsert, assert_of nonneg, ok_bind, if_pos isStore,
    LogOp.spec, length, Log.push]
  by_cases room : len < capacity
  · obtain ⟨stream, writes, stored, formed', log'⟩ :=
      storeRecord_refines formed indices room log 0
    have notFull : ¬ s.stream.info.maxNoElem ≤ s.stream.ctrl.elem := by
      rw [formed.maxNoElem, indices.elem]
      omega
    simp only [if_neg notFull, stored, ok_bind, if_pos room]
    exact ⟨_, rfl, formed', log'⟩
  · have full : s.stream.info.maxNoElem ≤ s.stream.ctrl.elem := by
      rw [formed.maxNoElem, indices.elem]
      omega
    by_cases locked : s.stream.info.lock ≠ 0
    · have isLocked : s.log.locked = true := by simpa [LogState.log] using locked
      simp only [if_pos full, if_pos locked, if_neg room, isLocked, if_true]
      exact ⟨_, rfl, formed, rfl⟩
    · have isOpen : ¬ s.log.locked = true := by simpa [LogState.log] using locked
      have fits := indices.fits
      have positive := formed.positive
      obtain ⟨less, rfl⟩ : ∃ less, len = less + 1 := ⟨len - 1, by omega⟩
      obtain ⟨dropped, shrunk, dropLog⟩ := dropOldest_refines formed indices
      obtain ⟨stream, writes, stored, formed', log'⟩ :=
        storeRecord_refines dropped shrunk (by omega) log 1
      simp only [if_pos full, if_neg locked, if_neg room, if_neg isOpen, stored, ok_bind]
      refine ⟨_, rfl, formed', ?_⟩
      rw [log', dropLog]

/-- A new cursor inside the stream, committed. -/
theorem setCursor_refines {capacity len : Nat} {s : LogState ρ} (formed : WellFormed capacity s)
    (indices : Indices capacity len s.stream.ctrl) {d : Int} (inside : 0 ≤ d ∧ d ≤ len)
    : WellFormed capacity (s.commit { s.stream.ctrl with d })
      ∧ (s.commit { s.stream.ctrl with d }).log = { s.log with cursor := d.toNat } := by
  have moved : Indices capacity len { s.stream.ctrl with d } :=
    { elem := indices.elem
      fits := indices.fits
      d := inside
      head := indices.head
      tail := indices.tail }
  exact ⟨LogState.commit_wellFormed formed moved, s.commit_log _⟩

theorem logStreamGet_refines {capacity : Nat} {s : LogState ρ} (formed : WellFormed capacity s)
    : ∃ s', (LogOp.get : LogOp ρ).run s
          = .ok (((LogOp.get : LogOp ρ).spec capacity s.log).1, s')
        ∧ WellFormed capacity s' ∧ s'.log = ((LogOp.get : LogOp ρ).spec capacity s.log).2 := by
  obtain ⟨len, indices⟩ := formed.indices
  have length : s.log.kept.length = len := LogState.length_retained formed indices
  have d := indices.d
  simp only [LogOp.run, LogOp.effect, logStreamGet, LogOp.spec]
  by_cases unread : s.stream.ctrl.d < len
  · have found : s.log.kept[s.log.cursor]?
        = some (s.dev.record ((s.stream.ctrl.d + s.stream.ctrl.head).tmod
          s.stream.info.maxNoElem)) := by
      have head := indices.head
      simp only [LogState.log]
      rw [s.retained_eq formed indices, getElem?_window _ _ _ (by omega),
        Int.toNat_of_nonneg d.1, formed.maxNoElem, Int.tmod_eq_emod_of_nonneg (by omega),
        Int.add_comm]
    have readable : 0 < s.stream.ctrl.elem ∧ s.stream.ctrl.d < s.stream.ctrl.elem := by
      rw [indices.elem]
      omega
    obtain ⟨formed', log'⟩ :=
      setCursor_refines formed indices (d := s.stream.ctrl.d + 1) (by omega)
    simp only [if_pos readable, found, ok_bind]
    refine ⟨_, rfl, formed', log'.trans ?_⟩
    simp only [LogState.log, Log.mk.injEq, and_true, true_and]
    omega
  · have nothing : s.log.kept[s.log.cursor]? = none := by
      apply List.getElem?_eq_none
      rw [length]
      simp only [LogState.log]
      omega
    have unreadable : ¬ (0 < s.stream.ctrl.elem ∧ s.stream.ctrl.d < s.stream.ctrl.elem) := by
      rw [indices.elem]
      omega
    simp only [if_neg unreadable, nothing, ok_bind]
    exact ⟨_, rfl, formed, rfl⟩

theorem logStreamSeek_refines {capacity : Nat} {s : LogState ρ} (formed : WellFormed capacity s)
    (offset : Int) (whence : XmU32)
    : ∃ s', (LogOp.seek offset whence : LogOp ρ).run s
          = .ok (((LogOp.seek offset whence : LogOp ρ).spec capacity s.log).1, s')
        ∧ WellFormed capacity s'
        ∧ s'.log = ((LogOp.seek offset whence : LogOp ρ).spec capacity s.log).2 := by
  obtain ⟨len, indices⟩ := formed.indices
  have length : s.log.kept.length = len := LogState.length_retained formed indices
  have cursor : (s.log.cursor : Int) = s.stream.ctrl.d := Int.toNat_of_nonneg indices.d.1
  have base : seekBase { zeroCtrl with elem := s.log.kept.length, d := s.log.cursor } whence
      = seekBase s.stream.ctrl whence := by
    simp only [seekBase, length, cursor, indices.elem]
  simp only [LogOp.run, LogOp.effect, logStreamSeek, LogOp.spec, base]
  cases seekBase s.stream.ctrl whence with
  | none => exact ⟨_, rfl, formed, rfl⟩
  | some base =>
      have size : (s.log.kept.length : Int) = s.stream.ctrl.elem := by
        rw [length, indices.elem]
      have inside : 0 ≤ clampOffset s.stream.ctrl.elem (offset + base)
          ∧ clampOffset s.stream.ctrl.elem (offset + base) ≤ len := by
        rw [indices.elem]
        exact clampOffset_inside (Int.natCast_nonneg len) (offset + base)
      obtain ⟨formed', log'⟩ := setCursor_refines formed indices inside
      simp only [size, ok_bind]
      exact ⟨_, rfl, formed', log'⟩

/-- Every operation returns, and does to the stream's log what its specification says. -/
theorem LogOp.run_refines {capacity : Nat} {s : LogState ρ} (formed : WellFormed capacity s)
    (op : LogOp ρ)
    : ∃ s', op.run s = .ok ((op.spec capacity s.log).1, s') ∧ WellFormed capacity s'
        ∧ s'.log = (op.spec capacity s.log).2 := by
  cases op with
  | insert log => exact logStreamInsert_refines formed log
  | get => exact logStreamGet_refines formed
  | seek offset whence => exact logStreamSeek_refines formed offset whence
  | lock =>
      have formed' : WellFormed capacity { s with stream := logStreamLock s.stream } :=
        { positive := formed.positive
          maxNoElem := formed.maxNoElem
          indices := formed.indices }
      refine ⟨_, rfl, formed', ?_⟩
      simp [LogState.log, LogState.retained, logStreamLock, KDevice.writes, spec]
  | unlock =>
      have formed' : WellFormed capacity { s with stream := logStreamUnlock s.stream } :=
        { positive := formed.positive
          maxNoElem := formed.maxNoElem
          indices := formed.indices }
      refine ⟨_, rfl, formed', ?_⟩
      simp [LogState.log, LogState.retained, logStreamUnlock, KDevice.writes, spec]

/-- The specification is a bounded log's step: an accepted insertion adds its record, and
nothing else changes what is kept.
-/
theorem LogOp.spec_step (capacity : Nat) (op : LogOp ρ) {log : Log ρ}
    (inside : log.cursor ≤ log.kept.length)
    : Step capacity log (acceptedRecord (op, (op.spec capacity log).1))
        (op.spec capacity log).2 := by
  cases op with
  | insert record =>
      simp only [spec]
      split
      · exact .push
      · split
        · exact .move inside
        · exact .push
  | get =>
      simp only [spec]
      cases found : log.kept[log.cursor]? with
      | none => exact .move inside
      | some record =>
          have unread := (List.getElem?_eq_some_iff.mp found).1
          exact .move unread
  | seek offset whence =>
      simp only [spec]
      split
      · next base _ =>
          have clamped :=
            clampOffset_inside (Int.natCast_nonneg log.kept.length) (offset + base)
          refine .move ?_
          omega
      · exact .move inside
  | lock => exact .move inside
  | unlock => exact .move inside

-----------------------------------------------------------------------------------------
-- Runs

/-- The device holds no stream of the shape asked for. -/
def Blank (dev : KDevice ρ) (elemSize : Int) : Prop :=
  isStreamHdr dev.hdr (roomFor dev.size elemSize) elemSize = false

/-- A stream opened on a blank device is empty. -/
theorem logOpen_blank {dev : KDevice ρ} {elemSize : Int} {capacity : Nat} {start : LogState ρ}
    (blank : Blank dev elemSize) (positive : 0 < capacity)
    (room : roomFor dev.size elemSize = capacity) (opened : logOpen dev elemSize = .ok start)
    : WellFormed capacity start ∧ start.log = Log.empty := by
  obtain ⟨_, inits, returned⟩ := bind_eq_ok.mp opened
  cases returned
  obtain ⟨_, sized, inits⟩ := bind_eq_ok.mp inits
  have isStore : roomFor dev.size elemSize ≠ 0 := by omega
  rw [Blank] at blank
  simp only [if_pos isStore, blank, Bool.false_eq_true, if_false] at inits
  cases inits
  refine ⟨⟨positive, room, 0, ?_⟩, rfl⟩
  exact
    { elem := rfl
      fits := Nat.zero_le capacity
      d := ⟨Int.le_refl 0, Int.le_refl 0⟩
      head := ⟨Int.le_refl 0, Int.natCast_pos.mpr positive⟩
      tail := rfl }

/-- What holds of a stream with room for `capacity` records after a history: it keeps the records it
accepted last, as many of them as it has room for.
-/
structure KeepsNewest (capacity : Nat) (past : List (LogOp ρ × LogReply ρ)) (s : LogState ρ)
    : Prop where
  cursor : 0 ≤ s.stream.ctrl.d ∧ s.stream.ctrl.d ≤ s.stream.ctrl.elem
  fits : s.stream.ctrl.elem ≤ capacity
  head : 0 ≤ s.stream.ctrl.head ∧ s.stream.ctrl.head < capacity
  tail : 0 ≤ s.stream.ctrl.tail ∧ s.stream.ctrl.tail < capacity
  tail_eq : s.stream.ctrl.tail = (s.stream.ctrl.head + s.stream.ctrl.elem) % capacity
  newest : s.retained <:+ accepted past
  length : (s.retained.length : Int) = s.stream.ctrl.elem
  elem : s.stream.ctrl.elem = min capacity (accepted past).length

theorem LogNext.refines {capacity : Nat} {s s' : LogState ρ} {label : LogOp ρ × LogReply ρ}
    (formed : WellFormed capacity s) (taken : LogNext s label s')
    : WellFormed capacity s' ∧ label.2 = (label.1.spec capacity s.log).1
        ∧ s'.log = (label.1.spec capacity s.log).2 := by
  obtain ⟨_, ran, formed', log'⟩ := LogOp.run_refines formed label.1
  rw [LogNext, ran] at taken
  obtain ⟨reply, rfl⟩ := Prod.mk.inj (Except.ok.inj taken)
  exact ⟨formed', reply.symm, log'⟩

/-- The log behind a stream holds the newest records accepted, after any run. -/
theorem newest_of_run {capacity : Nat} {start s : LogState ρ}
    {past : List (LogOp ρ × LogReply ρ)} (formed : WellFormed capacity start)
    (empty : start.log = .empty) (run : Reach LogNext start past s)
    : WellFormed capacity s ∧ Newest capacity (past.map acceptedRecord) s.log := by
  refine run.preserves
    (P := fun past s => WellFormed capacity s ∧ Newest capacity (past.map acceptedRecord) s.log)
    ⟨formed, empty ▸ .empty capacity⟩ ?_
  intro past s label s' before taken
  obtain ⟨formed', reply, log'⟩ := LogNext.refines before.1 taken
  have step := LogOp.spec_step capacity label.1 before.2.cursor
  rw [← reply, ← log'] at step
  exact ⟨formed', before.2.step formed'.positive step⟩

theorem added_acceptedRecord (past : List (LogOp ρ × LogReply ρ))
    : added (past.map acceptedRecord) = accepted past := by
  simp [added, accepted, List.filterMap_map]

/-- A full stream that is locked is left as it is. -/
theorem insert_refused {capacity : Nat} {s : LogState ρ} (formed : WellFormed capacity s)
    (locked : s.stream.info.lock ≠ 0) (full : s.stream.ctrl.elem = capacity) (log : ρ)
    : (LogOp.insert log).run s = .ok ({ code := -1, log := none }, s) := by
  have nonneg : 0 ≤ s.stream.info.maxNoElem := by rw [formed.maxNoElem]; omega
  have isStore : s.stream.info.maxNoElem ≠ 0 := by
    have := formed.positive
    rw [formed.maxNoElem]
    omega
  have isFull : s.stream.info.maxNoElem ≤ s.stream.ctrl.elem := by rw [formed.maxNoElem, full]
  simp only [LogOp.run, LogOp.effect, logStreamInsert, assert_of nonneg, ok_bind, if_pos isStore,
    if_pos isFull, if_pos locked]
  rfl

theorem insert_code {capacity : Nat} {s s' : LogState ρ} {log : ρ} {reply : LogReply ρ}
    (formed : WellFormed capacity s) (ran : (LogOp.insert log).run s = .ok (reply, s'))
    : reply.code = -1 ↔ s.stream.info.lock ≠ 0 ∧ s.stream.ctrl.elem = capacity := by
  obtain ⟨len, indices⟩ := formed.indices
  have length : s.log.kept.length = len := LogState.length_retained formed indices
  have fits := indices.fits
  obtain ⟨_, reply, _⟩ := 
    LogNext.refines formed (show LogNext s (.insert log, reply) s' from ran)
  simp only at reply
  rw [reply, LogOp.spec, length, indices.elem]
  by_cases room : len < capacity
  · rw [if_pos room]
    refine iff_of_false (by simp) ?_
    omega
  · rw [if_neg room]
    have full : (len : Int) = capacity := by omega
    by_cases locked : s.stream.info.lock ≠ 0
    · have isLocked : s.log.locked = true := by simpa [LogState.log] using locked
      rw [if_pos isLocked]
      exact iff_of_true rfl ⟨locked, full⟩
    · have isOpen : ¬ s.log.locked = true := by simpa [LogState.log] using locked
      rw [if_neg isOpen]
      exact iff_of_false (by simp) fun refused => locked refused.1

theorem get_reply {capacity : Nat} {s s' : LogState ρ} {reply : LogReply ρ}
    (formed : WellFormed capacity s) (ran : LogOp.get.run s = .ok (reply, s'))
    : reply = if s.stream.ctrl.d < s.stream.ctrl.elem then
          { code := 0, log := s.retained[s.stream.ctrl.d.toNat]? }
        else
          { code := -1, log := none } := by
  obtain ⟨len, indices⟩ := formed.indices
  have length : s.retained.length = len := s.length_retained formed indices
  have d := indices.d
  obtain ⟨_, reply, _⟩ := 
    LogNext.refines formed (show LogNext s (.get, reply) s' from ran)
  simp only at reply
  rw [reply, LogOp.spec, indices.elem]
  by_cases unread : s.stream.ctrl.d < len
  · rw [if_pos unread]
    have found := List.getElem?_eq_getElem (l := s.retained) (i := s.stream.ctrl.d.toNat)
      (by omega)
    simp only [LogState.log, found]
  · rw [if_neg unread]
    have nothing : s.retained[s.stream.ctrl.d.toNat]? = none := by
      apply List.getElem?_eq_none
      omega
    simp only [LogState.log, nothing]

/-- After every run on a device with room for some records that held no stream, a log stream
keeps the newest of the records it accepted. It refuses a record exactly when it is locked and
full, and it reads the record at the cursor among those it keeps.
-/
theorem logStream_keeps_newest {dev : KDevice ρ} {elemSize : Int} {capacity : Nat}
    {start s : LogState ρ} {past : List (LogOp ρ × LogReply ρ)} (blank : Blank dev elemSize)
    (positive : 0 < capacity) (room : roomFor dev.size elemSize = capacity)
    (opened : logOpen dev elemSize = .ok start) (run : Reach LogNext start past s)
    : KeepsNewest capacity past s
      ∧ (∀ op : LogOp ρ, ∃ reply s', op.run s = .ok (reply, s'))
      ∧ (∀ log reply s', (LogOp.insert log).run s = .ok (reply, s') →
        (reply.code = -1 ↔ s.stream.info.lock ≠ 0 ∧ s.stream.ctrl.elem = capacity)
          ∧ (reply.code = -1 → s' = s))
      ∧ ∀ reply s', LogOp.get.run s = .ok (reply, s') →
        reply = if s.stream.ctrl.d < s.stream.ctrl.elem then
            { code := 0, log := s.retained[s.stream.ctrl.d.toNat]? }
          else
            { code := -1, log := none } := by
  obtain ⟨formedStart, empty⟩ := logOpen_blank blank positive room opened
  obtain ⟨formed, newest⟩ := newest_of_run formedStart empty run
  obtain ⟨len, indices⟩ := formed.indices
  have length : s.retained.length = len := s.length_retained formed indices
  have elem := indices.elem
  have fits := indices.fits
  have d := indices.d
  refine ⟨?_, ?_, ?_, ?_⟩
  · exact
      { cursor := by omega
        fits := by omega
        head := indices.head
        tail := by
          rw [indices.tail]
          exact ⟨Int.emod_nonneg _ (by omega), Int.emod_lt_of_pos _ (by omega)⟩
        tail_eq := by rw [indices.tail, elem]
        newest := added_acceptedRecord past ▸ newest.kept
        length := by rw [length, elem]
        elem := by
          have kept : s.retained.length = min capacity (accepted past).length :=
            added_acceptedRecord past ▸ newest.length
          rw [elem, ← length, kept] }
  · intro op
    obtain ⟨s', ran, _⟩ := op.run_refines formed
    exact ⟨_, s', ran⟩
  · intro log reply s' ran
    have refused := insert_code formed ran
    refine ⟨refused, ?_⟩
    intro code
    obtain ⟨locked, full⟩ := refused.mp code
    rw [insert_refused formed locked full] at ran
    exact (Prod.mk.inj (Except.ok.inj ran)).2.symm
  · exact fun reply s' ran => get_reply formed ran

/-- A zeroed device with room for one record of four bytes. -/
def oneRecord : KDevice Nat where
  size := 60
  hdr :=
    { magic1 := 0
      info := { elemSize := 0, maxNoElem := 0, lock := 0, cHdr := 0 }
      ctrl := fun _ => zeroCtrl
      magic2 := 0 }
  record _ := 0
  output := []

def oneRecordStream (cHdr : Int) (ctrl : LogStreamCtrl) (writes : List (DevWrite Nat))
    : LogState Nat where
  stream := { info := { elemSize := 4, maxNoElem := 1, lock := 0, cHdr }, ctrl }
  dev := oneRecord.writes (.hdr (initHdr 1 4) :: writes)

/-- One record in the one slot. -/
def fullCtrl : LogStreamCtrl where
  tail := 0
  elem := 1
  head := 0
  d := 0

theorem oneRecord_opened : logOpen oneRecord 4 = .ok (oneRecordStream 0 zeroCtrl []) :=
  rfl

theorem oneRecord_first
    : LogNext (oneRecordStream 0 zeroCtrl []) (.insert 7, { code := 0, log := none })
        (oneRecordStream 1 fullCtrl [.record 0 7, .ctrl 0 fullCtrl, .cHdr 0]) :=
  rfl

theorem oneRecord_second
    : LogNext (oneRecordStream 1 fullCtrl [.record 0 7, .ctrl 0 fullCtrl, .cHdr 0])
        (.insert 8, { code := 1, log := none })
        (oneRecordStream 0 fullCtrl
          [.record 0 7, .ctrl 0 fullCtrl, .cHdr 0, .record 0 8, .ctrl 1 fullCtrl, .cHdr 1]) :=
  rfl

/-- Of two records the newer one is kept. -/
theorem logStream_keeps_newest_oneRecord
    : KeepsNewest 1
        [(.insert 8, { code := 1, log := none }), (.insert 7, { code := 0, log := none })]
        (oneRecordStream 0 fullCtrl
          [.record 0 7, .ctrl 0 fullCtrl, .cHdr 0, .record 0 8, .ctrl 1 fullCtrl, .cHdr 1]) :=
  (logStream_keeps_newest (by rfl) (by decide) (by decide) oneRecord_opened
    (.step (.step .start oneRecord_first) oneRecord_second)).1

end XtratuM.Objects
