import XtratuM.Objects.LogStream

/-! Log streams on a device that keeps its contents over a reset: what `LogStreamInit` finds
when an operation was cut off between two device writes.
-/

namespace XtratuM.Objects

open Reachability Window BoundedLog

variable {ρ : Type}

/-- An operation cut off after `written` device writes, and the initialisation that follows. -/
def LogOp.crash (op : LogOp ρ) (written : Nat) (s : LogState ρ) : Except Stop (LogState ρ) := do
  let (_, _, writes) ← op.effect s
  logOpen (s.dev.writes (writes.take written)) s.stream.info.elemSize

/-- What happens to a stream on a persistent device. With no device write at all, the crash is a
plain new initialisation.
-/
inductive PersistentEvent (ρ : Type)
  | op (op : LogOp ρ)
  | crash (op : LogOp ρ) (written : Nat)

inductive PersistentNext : LogState ρ → PersistentEvent ρ → LogState ρ → Prop
  | op {s s' : LogState ρ} {op : LogOp ρ} {reply} (ran : op.run s = .ok (reply, s'))
    : PersistentNext s (.op op) s'
  | crash {s s' : LogState ρ} {op : LogOp ρ} {written} (recovered : op.crash written s = .ok s')
    : PersistentNext s (.crash op written) s'

/-- The streams retain the same records, in order, and have the same read cursor. -/
structure SameRecords (s s' : LogState ρ) : Prop where
  retained : s.retained = s'.retained
  d : s.stream.ctrl.d = s'.stream.ctrl.d

/-- The insertion overwrote the oldest record of a full stream and was cut off before the header
that gives the record up: the new record reads as the oldest one.
-/
def Torn (s : LogState ρ) (op : LogOp ρ) (written : Nat) : Prop :=
  ∃ log, op = .insert log ∧ s.stream.ctrl.elem = s.stream.info.maxNoElem
    ∧ s.stream.info.lock = 0 ∧ (written = 1 ∨ written = 2) ∧ s.retained.head? ≠ some log
    ∧ ¬ (s.stream.ctrl.d = 0 ∧ ∀ record ∈ s.retained.tail, record = log)

-----------------------------------------------------------------------------------------
-- The header on the device

/-- The copy of the indices the header names. -/
def KDevice.live (dev : KDevice ρ) : LogStreamCtrl :=
  dev.hdr.ctrl dev.hdr.info.cHdr

/-- A stream whose device describes it. A stream that has just been initialised overwrites the
copy that is live; it is empty.
-/
structure Persistent (capacity : Nat) (s : LogState ρ) : Prop where
  formed : WellFormed capacity s
  sized : 0 < s.stream.info.elemSize
  room : roomFor s.dev.size s.stream.info.elemSize = capacity
  header : isStreamHdr s.dev.hdr capacity s.stream.info.elemSize = true
  live : s.dev.live = s.stream.ctrl
  next : s.stream.info.cHdr = otherHdr s.dev.hdr.info.cHdr
    ∨ (s.stream.info.cHdr = s.dev.hdr.info.cHdr ∧ s.stream.ctrl.elem = 0)

theorem otherHdr_ne (cHdr : Int) : otherHdr cHdr ≠ cHdr := by
  unfold otherHdr
  split <;> omega

/-- The device is one on which the stream was left, but for records and indices. -/
structure SameShape (dev dev' : KDevice ρ) : Prop where
  size : dev'.size = dev.size
  header : ∀ maxNoElem elemSize,
    isStreamHdr dev'.hdr maxNoElem elemSize = isStreamHdr dev.hdr maxNoElem elemSize

theorem SameShape.write (dev : KDevice ρ) {write : DevWrite ρ} (notHdr : ∀ hdr, write ≠ .hdr hdr)
    : SameShape dev (dev.write write) := by
  cases write with
  | hdr hdr => exact absurd rfl (notHdr hdr)
  | ctrl | cHdr | record | output => exact ⟨rfl, fun _ _ => rfl⟩

theorem SameShape.trans {dev dev' dev'' : KDevice ρ} (first : SameShape dev dev')
    (second : SameShape dev' dev'')
    : SameShape dev dev'' where
  size := second.size.trans first.size
  header _ _ := (second.header _ _).trans (first.header _ _)

/-- Every prefix of a commit's two writes leaves the records alone, and the header describes the
indices from before, as it does until the second write when the copy written is not the live
one, or the new ones, as it does after both.
-/
structure CommitPrefix (dev dev' : KDevice ρ) (lS : LogStream) (written : Nat) : Prop where
  shape : SameShape dev dev'
  record : dev'.record = dev.record
  live : dev'.live = dev.live ∨ dev'.live = lS.ctrl
  before : written < 2 → lS.info.cHdr ≠ dev.hdr.info.cHdr → dev'.live = dev.live
  after : 2 ≤ written → dev'.live = lS.ctrl

theorem logStreamCommit_prefix (lS : LogStream) (isStore : lS.info.maxNoElem ≠ 0)
    (dev : KDevice ρ) (written : Nat)
    : CommitPrefix dev (dev.writes ((logStreamCommit lS).2.take written)) lS written := by
  have first : SameShape dev (dev.write (.ctrl lS.info.cHdr lS.ctrl)) := .write _ (by simp)
  have second
      : SameShape dev ((dev.write (.ctrl lS.info.cHdr lS.ctrl)).write (.cHdr lS.info.cHdr)) :=
    first.trans (.write _ (by simp))
  have written1 : (dev.write (.ctrl lS.info.cHdr lS.ctrl)).live
      = if dev.hdr.info.cHdr = lS.info.cHdr then lS.ctrl else dev.live := by
    simp only [KDevice.live, KDevice.write, Function.update_apply]
  have written2 : ((dev.write (.ctrl lS.info.cHdr lS.ctrl)).write (.cHdr lS.info.cHdr)).live
      = lS.ctrl := by
    simp only [KDevice.live, KDevice.write, Function.update_self]
  rw [logStreamCommit, if_pos isStore]
  match written with
  | 0 =>
      exact
        { shape := ⟨rfl, fun _ _ => rfl⟩
          record := rfl
          live := Or.inl rfl
          before := fun _ _ => rfl
          after := by omega }
  | 1 =>
      refine
        { shape := first
          record := rfl
          live := ?_
          before := ?_
          after := by omega }
      · by_cases same : dev.hdr.info.cHdr = lS.info.cHdr
        · exact Or.inr (written1.trans (if_pos same))
        · exact Or.inl (written1.trans (if_neg same))
      · intro _ other
        exact written1.trans (if_neg (Ne.symm other))
  | more + 2 =>
      have all : [DevWrite.ctrl (ρ := ρ) lS.info.cHdr lS.ctrl, .cHdr lS.info.cHdr].take (more + 2)
          = [.ctrl lS.info.cHdr lS.ctrl, .cHdr lS.info.cHdr] := by
        simp
      simp only [all]
      exact
        { shape := second
          record := rfl
          live := Or.inr written2
          before := by omega
          after := fun _ => written2 }

/-- What `LogStreamInit` makes of a device with a stream. -/
def recoveredStream (capacity : Nat) (elemSize : Int) (dev : KDevice ρ) : LogState ρ where
  stream :=
    { info :=
        { elemSize
          maxNoElem := capacity
          lock := dev.hdr.info.lock
          cHdr := otherHdr dev.hdr.info.cHdr }
      ctrl := dev.live }
  dev

theorem Persistent.reopens {capacity : Nat} {s : LogState ρ} (persistent : Persistent capacity s)
    {dev : KDevice ρ} (shape : SameShape s.dev dev)
    : logOpen dev s.stream.info.elemSize
      = .ok (recoveredStream capacity s.stream.info.elemSize dev) := by
  have isStore : (capacity : Int) ≠ 0 := by
    have := persistent.formed.positive
    omega
  have room : roomFor dev.size s.stream.info.elemSize = capacity := by
    rw [shape.size, persistent.room]
  have header : isStreamHdr dev.hdr capacity s.stream.info.elemSize = true := by
    rw [shape.header, persistent.header]
  simp only [logOpen, logStreamInit, assert_of persistent.sized, ok_bind, room, if_pos isStore,
    header, if_true]
  rfl

/-- A stream found on a device is one the device describes. -/
theorem Persistent.reopened {capacity len : Nat} {s : LogState ρ}
    (persistent : Persistent capacity s) {dev : KDevice ρ} (shape : SameShape s.dev dev)
    (indices : Indices capacity len dev.live)
    : Persistent capacity (recoveredStream capacity s.stream.info.elemSize dev) where
  formed :=
    { positive := persistent.formed.positive
      maxNoElem := rfl
      indices := ⟨len, indices⟩ }
  sized := persistent.sized
  room := by rw [recoveredStream, shape.size, persistent.room]
  header := by rw [recoveredStream, shape.header, persistent.header]
  live := rfl
  next := Or.inl rfl

-----------------------------------------------------------------------------------------
-- Operations

/-- The device writes of an operation: none, those of a commit of another cursor, or those of
a commit after a record was written at the tail.
-/
inductive Shape (s : LogState ρ) : LogOp ρ → LogStream → List (DevWrite ρ) → Prop
  | silent {op : LogOp ρ} {lock} (refused : ∀ log, op = .insert log → s.stream.info.lock ≠ 0)
    : Shape s op { s.stream with info.lock := lock } []
  | cursor {op : LogOp ρ} (d) (other : ∀ log, op ≠ .insert log)
    : Shape s op (s.commit { s.stream.ctrl with d }).stream
        (logStreamCommit { s.stream with ctrl.d := d }).2
  | insert {log} (ctrl)
      (accepted : s.stream.ctrl.elem < s.stream.info.maxNoElem ∨ s.stream.info.lock = 0)
    : Shape s (.insert log) (s.commit ctrl).stream
        (.record s.stream.ctrl.tail log :: (logStreamCommit { s.stream with ctrl }).2)

theorem storeRecord_shape {s : LogState ρ} {lS stream : LogStream} {log : ρ}
    {smashed code : Int} {writes : List (DevWrite ρ)}
    (accepted : s.stream.ctrl.elem < s.stream.info.maxNoElem ∨ s.stream.info.lock = 0)
    (info : lS.info = s.stream.info)
    (tail : lS.ctrl.tail = s.stream.ctrl.tail)
    (stored : storeRecord lS log smashed = .ok (code, stream, writes))
    : Shape s (.insert log) stream writes := by
  obtain ⟨_, fits, _⟩ := bind_eq_ok.mp stored
  obtain ⟨ctrl, returns⟩ := storeRecord_returns (assert_ok.mp fits) log smashed
  have parts := Except.ok.inj (stored.symm.trans returns)
  rw [Prod.mk.injEq, Prod.mk.injEq] at parts
  obtain ⟨_, rfl, rfl⟩ := parts
  rw [info, tail]
  exact .insert ctrl accepted

theorem LogOp.effect_shape {s : LogState ρ} {op : LogOp ρ} {reply : LogReply ρ}
    {stream : LogStream} {writes : List (DevWrite ρ)}
    (isStore : s.stream.info.maxNoElem ≠ 0) (effects : op.effect s = .ok (reply, stream, writes))
    : Shape s op stream writes := by
  cases op with
  | insert log =>
      obtain ⟨⟨code, stream', writes'⟩, inserted, returned⟩ := bind_eq_ok.mp effects
      cases returned
      obtain ⟨_, _, inserted⟩ := bind_eq_ok.mp inserted
      rw [if_pos isStore] at inserted
      split at inserted
      · split at inserted
        · next locked =>
            cases inserted
            exact .silent fun _ _ => locked
        · next unlocked =>
            exact storeRecord_shape (Or.inr (not_not.mp unlocked)) (by rfl) (by rfl) inserted
      · next room => exact storeRecord_shape (Or.inl (not_le.mp room)) rfl rfl inserted
  | get =>
      simp only [LogOp.effect, logStreamGet] at effects
      split at effects
      · cases effects
        exact .cursor _ (by simp)
      · cases effects
        exact .silent (by simp)
  | seek offset whence =>
      simp only [LogOp.effect, logStreamSeek] at effects
      split at effects
      · cases effects
        exact .silent (by simp)
      · cases effects
        exact .cursor _ (by simp)
  | lock =>
      cases effects
      exact .silent (by simp)
  | unlock =>
      cases effects
      exact .silent (by simp)

-----------------------------------------------------------------------------------------
-- Crashes

/-- The device describes a stream and holds its records. -/
theorem sameRecords_of_live {capacity : Nat} {s : LogState ρ} (formed : WellFormed capacity s)
    {dev : KDevice ρ} (elemSize : Int) (live : dev.live = s.stream.ctrl)
    (record : window dev.record capacity s.stream.ctrl.head s.stream.ctrl.elem.toNat
      = window s.dev.record capacity s.stream.ctrl.head s.stream.ctrl.elem.toNat)
    : SameRecords (recoveredStream capacity elemSize dev) s where
  retained := by
    simp only [LogState.retained, recoveredStream, live, formed.maxNoElem]
    exact record
  d := by rw [recoveredStream, live]

/-- The record at the tail is not one of a stream that is not full. -/
theorem window_update_tail {capacity len : Nat} {s : LogState ρ}
    (indices : Indices capacity len s.stream.ctrl) (room : len < capacity) (log : ρ)
    : window (Function.update s.dev.record s.stream.ctrl.tail log) capacity s.stream.ctrl.head
        s.stream.ctrl.elem.toNat
      = window s.dev.record capacity s.stream.ctrl.head s.stream.ctrl.elem.toNat := by
  apply window_update_outside
  intro i inside
  rw [indices.elem, Int.toNat_natCast] at inside
  rw [indices.tail]
  exact position_ne inside (by omega)

/-- In a full stream it replaces the oldest one. -/
theorem window_update_head {capacity len : Nat} {s : LogState ρ}
    (indices : Indices capacity (len + 1) s.stream.ctrl) (full : len + 1 = capacity) (log : ρ)
    : window (Function.update s.dev.record s.stream.ctrl.tail log) capacity s.stream.ctrl.head
        s.stream.ctrl.elem.toNat
      = log
        :: (window s.dev.record capacity s.stream.ctrl.head s.stream.ctrl.elem.toNat).tail := by
  have tail : s.stream.ctrl.tail = s.stream.ctrl.head % capacity := by
    rw [indices.tail, full, Int.add_emod_right]
  rw [indices.elem, Int.toNat_natCast, tail, window_overwrite _ _ _ (by omega), window_cons,
    List.tail_cons]

theorem cons_eq_concat {α : Type} {a : α} {l : List α} : a :: l = l ++ [a] ↔ ∀ b ∈ l, b = a := by
  induction l with
  | nil => simp
  | cons b l ih =>
      rw [List.cons_append, List.cons.injEq, List.forall_mem_cons]
      constructor
      · rintro ⟨rfl, rest⟩
        exact ⟨rfl, ih.mp rest⟩
      · rintro ⟨rfl, rest⟩
        exact ⟨rfl, ih.mpr rest⟩

/-- The new record in the place of the oldest one passes for the old stream when it equals it,
and for the new stream when all the others equal it and nothing had been read.
-/
theorem sameRecords_torn {capacity len : Nat} {s after : LogState ρ} {dev : KDevice ρ} {log : ρ}
    (formed : WellFormed capacity s) (indices : Indices capacity (len + 1) s.stream.ctrl)
    (full : len + 1 = capacity) (elemSize : Int) (live : dev.live = s.stream.ctrl)
    (record : dev.record = Function.update s.dev.record s.stream.ctrl.tail log)
    (retained : after.retained = s.retained.tail ++ [log])
    (d : after.stream.ctrl.d
      = if 0 < s.stream.ctrl.d then s.stream.ctrl.d - 1 else s.stream.ctrl.d)
    : (SameRecords (recoveredStream capacity elemSize dev) s
        ∨ SameRecords (recoveredStream capacity elemSize dev) after)
      ↔ s.retained.head? = some log
        ∨ (s.stream.ctrl.d = 0 ∧ ∀ record ∈ s.retained.tail, record = log) := by
  have found : (recoveredStream capacity elemSize dev).retained = log :: s.retained.tail := by
    simp only [LogState.retained, recoveredStream, live, record, formed.maxNoElem]
    exact window_update_head indices full log
  have cursor : (recoveredStream capacity elemSize dev).stream.ctrl.d = s.stream.ctrl.d := by
    rw [recoveredStream, live]
  have length := s.length_retained formed indices
  refine or_congr ?_ ?_
  · constructor
    · intro same
      rw [← same.retained, found, List.head?_cons]
    · intro head
      refine ⟨?_, cursor⟩
      rw [found]
      exact List.cons_head?_tail (by simpa using head)
  · constructor
    · intro same
      have stays := same.d
      rw [cursor, d] at stays
      have order := same.retained
      rw [found, retained, cons_eq_concat] at order
      refine ⟨?_, order⟩
      have nonneg := indices.d.1
      split at stays <;> omega
    · rintro ⟨zero, order⟩
      refine ⟨?_, ?_⟩
      · rw [found, retained, cons_eq_concat]
        exact order
      · rw [cursor, d, zero]
        rfl

/-- What an insertion leaves in a full stream that is not locked. -/
theorem insert_full {capacity len : Nat} {s after : LogState ρ} {log : ρ} {reply : LogReply ρ}
    (formed : WellFormed capacity s) (indices : Indices capacity len s.stream.ctrl)
    (full : len = capacity) (unlocked : s.stream.info.lock = 0)
    (ran : LogNext s (.insert log, reply) after)
    : after.retained = s.retained.tail ++ [log]
      ∧ after.stream.ctrl.d
        = if 0 < s.stream.ctrl.d then s.stream.ctrl.d - 1 else s.stream.ctrl.d := by
  obtain ⟨formed', _, log'⟩ := ran.refines formed
  obtain ⟨_, indices'⟩ := formed'.indices
  have length : s.log.kept.length = len := LogState.length_retained formed indices
  have notRoom : ¬ len < capacity := by omega
  have isOpen : ¬ s.log.locked = true := by simp [LogState.log, unlocked]
  simp only [LogOp.spec, Log.push, length, if_neg notRoom, if_neg isOpen] at log'
  have kept := congrArg Log.kept log'
  have cursor := congrArg Log.cursor log'
  refine ⟨kept, ?_⟩
  simp only [LogState.log] at cursor
  have nonneg := indices.d
  have nonneg' := indices'.d
  split <;> omega

/-- What a device left by an interrupted operation is recovered to. -/
def Recovers (capacity : Nat) (s after : LogState ρ) (op : LogOp ρ) (written : Nat)
    (dev : KDevice ρ)
    : Prop :=
  ∃ recovered, logOpen dev s.stream.info.elemSize = .ok recovered
    ∧ Persistent capacity recovered
    ∧ ((SameRecords recovered s ∨ SameRecords recovered after) ↔ ¬ Torn s op written)

section Crash

variable {capacity len : Nat} {s after : LogState ρ} {op : LogOp ρ} {written : Nat}
  {dev : KDevice ρ}

/-- A header that still describes the old stream, whose records are all there. -/
theorem recovers_old (persistent : Persistent capacity s)
    (indices : Indices capacity len s.stream.ctrl) (shape : SameShape s.dev dev)
    (live : dev.live = s.stream.ctrl)
    (record : window dev.record capacity s.stream.ctrl.head s.stream.ctrl.elem.toNat
      = window s.dev.record capacity s.stream.ctrl.head s.stream.ctrl.elem.toNat)
    (notTorn : ¬ Torn s op written)
    : Recovers capacity s after op written dev := by
  have reopened := persistent.reopened shape (live ▸ indices)
  have same := sameRecords_of_live persistent.formed s.stream.info.elemSize live record
  exact ⟨_, persistent.reopens shape, reopened, iff_of_true (Or.inl same) notTorn⟩

/-- A header that already describes the new one. -/
theorem recovers_new (persistent : Persistent capacity s) (formed : WellFormed capacity after)
    (shape : SameShape s.dev dev) (live : dev.live = after.stream.ctrl)
    (record : dev.record = after.dev.record) (notTorn : ¬ Torn s op written)
    : Recovers capacity s after op written dev := by
  obtain ⟨len, indices⟩ := formed.indices
  have reopened := persistent.reopened shape (live ▸ indices)
  have same := sameRecords_of_live formed s.stream.info.elemSize live (by rw [record])
  exact ⟨_, persistent.reopens shape, reopened, iff_of_true (Or.inr same) notTorn⟩

/-- A header that describes the old stream when its oldest record is gone. -/
theorem recovers_torn {log : ρ} (persistent : Persistent capacity s)
    (indices : Indices capacity (len + 1) s.stream.ctrl) (full : len + 1 = capacity)
    (unlocked : s.stream.info.lock = 0) (cut : written = 1 ∨ written = 2)
    (shape : SameShape s.dev dev) (live : dev.live = s.stream.ctrl)
    (record : dev.record = Function.update s.dev.record s.stream.ctrl.tail log)
    (retained : after.retained = s.retained.tail ++ [log])
    (d : after.stream.ctrl.d
      = if 0 < s.stream.ctrl.d then s.stream.ctrl.d - 1 else s.stream.ctrl.d)
    : Recovers capacity s after (.insert log) written dev := by
  have reopened := persistent.reopened shape (live ▸ indices)
  refine ⟨_, persistent.reopens shape, reopened, ?_⟩
  rw [sameRecords_torn persistent.formed indices full _ live record retained d]
  have elem : s.stream.ctrl.elem = s.stream.info.maxNoElem := by
    rw [indices.elem, persistent.formed.maxNoElem, full]
  constructor
  · rintro kept ⟨_, same, _, _, _, head, others⟩
    cases same
    exact kept.elim head others
  · intro notTorn
    by_contra lost
    rw [not_or] at lost
    exact notTorn ⟨log, rfl, elem, unlocked, cut, lost.1, lost.2⟩

end Crash

theorem not_torn_of_written {s : LogState ρ} {op : LogOp ρ} {written : Nat}
    (whole : written ≠ 1 ∧ written ≠ 2)
    : ¬ Torn s op written := by
  rintro ⟨_, _, _, _, cut, _⟩
  omega

/-- An insertion cut off after its record was written. -/
theorem Persistent.crash_insert {capacity : Nat} {s after : LogState ρ} {log : ρ}
    {reply : LogReply ρ} {ctrl : LogStreamCtrl} (persistent : Persistent capacity s)
    (ran : LogNext s (.insert log, reply) after)
    (accepted : s.stream.ctrl.elem < s.stream.info.maxNoElem ∨ s.stream.info.lock = 0)
    (committed : after.stream.ctrl = ctrl)
    (record : after.dev.record = Function.update s.dev.record s.stream.ctrl.tail log)
    {dev : KDevice ρ} {written : Nat}
    (commits : CommitPrefix (s.dev.write (.record s.stream.ctrl.tail log)) dev
      { s.stream with ctrl } written)
    : Recovers capacity s after (.insert log) (written + 1) dev := by
  have formed := persistent.formed
  have formed' := (ran.refines formed).1
  obtain ⟨len, indices⟩ := formed.indices
  have shape : SameShape s.dev dev := (SameShape.write _ (by simp)).trans commits.shape
  have stored : dev.record = Function.update s.dev.record s.stream.ctrl.tail log :=
    commits.record
  have storedAfter : dev.record = after.dev.record := stored.trans record.symm
  by_cases room : len < capacity
  · have notTorn : ¬ Torn s (.insert log) (written + 1) := by
      rintro ⟨_, _, full, _⟩
      rw [indices.elem, formed.maxNoElem] at full
      omega
    rcases commits.live with live | live
    · have old : dev.live = s.stream.ctrl := live.trans persistent.live
      refine recovers_old persistent indices shape old ?_ notTorn
      rw [stored]
      exact window_update_tail indices room log
    · exact recovers_new persistent formed' shape (live.trans committed.symm) storedAfter notTorn
  · by_cases whole : 2 ≤ written
    · have new : dev.live = after.stream.ctrl := (commits.after whole).trans committed.symm
      exact recovers_new persistent formed' shape new storedAfter
        (not_torn_of_written (by omega))
    · have fits := indices.fits
      have positive := formed.positive
      obtain ⟨less, rfl⟩ : ∃ less, len = less + 1 := ⟨len - 1, by omega⟩
      have full : less + 1 = capacity := by omega
      have elem := indices.elem
      have unlocked : s.stream.info.lock = 0 := by
        refine accepted.resolve_left ?_
        rw [elem, formed.maxNoElem]
        omega
      -- a full stream is not a fresh one, so the first header write is to the copy not in use
      have other : s.stream.info.cHdr ≠ s.dev.hdr.info.cHdr := by
        rcases persistent.next with next | ⟨_, empty⟩
        · rw [next]
          exact otherHdr_ne _
        · omega
      have old : dev.live = s.stream.ctrl :=
        (commits.before (by omega) other).trans persistent.live
      obtain ⟨retained, d⟩ := insert_full formed indices full unlocked ran
      exact recovers_torn persistent indices full unlocked (by omega) shape old stored retained d

/-- Whatever operation is cut off and wherever, a stream is recovered, and it is the one from
before or the one from after but for torn insertions.
-/
theorem Persistent.crash {capacity : Nat} {s : LogState ρ} (persistent : Persistent capacity s)
    {op : LogOp ρ} {reply : LogReply ρ} {stream : LogStream} {writes : List (DevWrite ρ)}
    (effects : op.effect s = .ok (reply, stream, writes)) (written : Nat)
    : Recovers capacity s { stream, dev := s.dev.writes writes } op written
        (s.dev.writes (writes.take written)) := by
  have formed := persistent.formed
  obtain ⟨len, indices⟩ := formed.indices
  have ran : LogNext s (op, reply) { stream, dev := s.dev.writes writes } := by
    rw [LogNext, LogOp.run, effects]
    rfl
  have formed' := (ran.refines formed).1
  have isStore : s.stream.info.maxNoElem ≠ 0 := by
    have := formed.positive
    rw [formed.maxNoElem]
    omega
  have untouched : SameShape s.dev s.dev := ⟨rfl, fun _ _ => rfl⟩
  cases LogOp.effect_shape isStore effects with
  | silent refused =>
      have notTorn : ¬ Torn s op written := by
        rintro ⟨log, same, _, unlocked, _⟩
        exact refused log same unlocked
      rw [List.take_nil]
      exact recovers_old persistent indices untouched persistent.live rfl notTorn
  | cursor d other =>
      have notTorn : ¬ Torn s op written := by
        rintro ⟨log, same, _⟩
        exact other log same
      have commits :=
        logStreamCommit_prefix { s.stream with ctrl.d := d } isStore s.dev written
      rcases commits.live with live | live
      · refine recovers_old persistent indices commits.shape (live.trans persistent.live) ?_ notTorn
        rw [commits.record]
      · refine recovers_new persistent formed' commits.shape ?_ ?_ notTorn
        · exact live.trans (logStreamCommit_ctrl (ρ := ρ) { s.stream with ctrl.d := d }).1.symm
        · rw [commits.record, logStreamCommit_record]
  | @insert log ctrl accepted =>
      cases written with
      | zero =>
          exact recovers_old persistent indices untouched persistent.live rfl
            (not_torn_of_written (by omega))
      | succ written =>
          have commits := logStreamCommit_prefix { s.stream with ctrl } isStore
            (s.dev.write (.record s.stream.ctrl.tail log)) written
          exact persistent.crash_insert ran accepted (logStreamCommit_ctrl _).1
            (logStreamCommit_record _ _) commits

-----------------------------------------------------------------------------------------
-- Runs

/-- A whole commit: the header names the copy it wrote, and the next commit writes the other. -/
theorem logStreamCommit_next (lS : LogStream) (isStore : lS.info.maxNoElem ≠ 0)
    (dev : KDevice ρ)
    : CommitPrefix dev (dev.writes (logStreamCommit lS).2) lS 2
      ∧ (logStreamCommit (ρ := ρ) lS).1.info.elemSize = lS.info.elemSize
      ∧ (logStreamCommit (ρ := ρ) lS).1.info.cHdr
        = otherHdr (dev.writes (logStreamCommit lS).2).hdr.info.cHdr := by
  have whole := logStreamCommit_prefix lS isStore dev 2
  rw [logStreamCommit, if_pos isStore] at whole ⊢
  exact ⟨whole, rfl, rfl⟩

theorem Persistent.commit {capacity : Nat} {s : LogState ρ} (persistent : Persistent capacity s)
    {dev : KDevice ρ} (shape : SameShape s.dev dev) {ctrl : LogStreamCtrl}
    (formed : WellFormed capacity
      { stream := (logStreamCommit (ρ := ρ) { s.stream with ctrl }).1
        dev := dev.writes (logStreamCommit { s.stream with ctrl }).2 })
    : Persistent capacity
        { stream := (logStreamCommit (ρ := ρ) { s.stream with ctrl }).1
          dev := dev.writes (logStreamCommit { s.stream with ctrl }).2 } := by
  have isStore : s.stream.info.maxNoElem ≠ 0 := by
    have := persistent.formed.positive
    rw [persistent.formed.maxNoElem]
    omega
  obtain ⟨commits, elemSize, next⟩ :=
    logStreamCommit_next { s.stream with ctrl } isStore dev
  exact
    { formed := formed
      sized := by rw [elemSize]; exact persistent.sized
      room := by rw [elemSize, commits.shape.size, shape.size]; exact persistent.room
      header := by rw [elemSize, commits.shape.header, shape.header]; exact persistent.header
      live := (commits.after (Nat.le_refl 2)).trans (logStreamCommit_ctrl _).1.symm
      next := Or.inl next }

/-- The device describes what a finished operation leaves. -/
theorem Persistent.run {capacity : Nat} {s s' : LogState ρ} {op : LogOp ρ} {reply : LogReply ρ}
    (persistent : Persistent capacity s) (ran : op.run s = .ok (reply, s'))
    : Persistent capacity s' := by
  have formed := persistent.formed
  have taken : LogNext s (op, reply) s' := ran
  have formed' := (taken.refines formed).1
  have isStore : s.stream.info.maxNoElem ≠ 0 := by
    have := formed.positive
    rw [formed.maxNoElem]
    omega
  obtain ⟨⟨_, stream, writes⟩, effects, returned⟩ := bind_eq_ok.mp ran
  obtain ⟨_, rfl⟩ := Prod.mk.inj (Except.ok.inj returned)
  cases LogOp.effect_shape isStore effects with
  | silent refused =>
      exact
        { formed := formed'
          sized := persistent.sized
          room := persistent.room
          header := persistent.header
          live := persistent.live
          next := persistent.next }
  | cursor d other => exact persistent.commit ⟨rfl, fun _ _ => rfl⟩ formed'
  | @insert log ctrl accepted => exact persistent.commit (SameShape.write _ (by simp)) formed'

/-- A stream opened on a blank device overwrites the copy that is live, and is empty. -/
theorem logOpen_persistent {dev : KDevice ρ} {elemSize : Int} {capacity : Nat}
    {start : LogState ρ} (blank : Blank dev elemSize) (positive : 0 < capacity)
    (room : roomFor dev.size elemSize = capacity) (opened : logOpen dev elemSize = .ok start)
    : Persistent capacity start := by
  have formed := (logOpen_blank blank positive room opened).1
  obtain ⟨_, inits, returned⟩ := bind_eq_ok.mp opened
  cases returned
  obtain ⟨_, sized, inits⟩ := bind_eq_ok.mp inits
  have isStore : roomFor dev.size elemSize ≠ 0 := by omega
  rw [Blank] at blank
  simp only [if_pos isStore, blank, Bool.false_eq_true, if_false] at inits
  cases inits
  exact
    { formed := formed
      sized := assert_ok.mp sized
      room := room
      header := by simp [KDevice.writes, KDevice.write, isStreamHdr, initHdr, room]
      live := rfl
      next := Or.inr ⟨rfl, rfl⟩ }

/-- Every stream reached on a persistent device is described by it, crashes included. -/
theorem persistent_of_run {capacity : Nat} {start s : LogState ρ}
    {past : List (PersistentEvent ρ)} (persistent : Persistent capacity start)
    (run : Reach PersistentNext start past s)
    : Persistent capacity s := by
  refine run.invariant persistent ?_
  intro s event s' before taken
  cases taken with
  | op ran => exact before.run ran
  | crash recovered =>
      obtain ⟨⟨_, stream, writes⟩, effects, opened⟩ := bind_eq_ok.mp recovered
      obtain ⟨recovered, reopened, persistent, _⟩ := before.crash effects _
      cases Except.ok.inj (opened.symm.trans reopened)
      exact persistent

/-- After every run on a persistent device, crashes and new initialisations included, an
operation cut off after any number of its device writes is recovered to the records and the
cursor from before it or from after it, unless it is a torn insertion.
-/
theorem logStream_survives_crash {dev : KDevice ρ} {elemSize : Int} {capacity : Nat}
    {start s s' : LogState ρ} {past : List (PersistentEvent ρ)} {op : LogOp ρ}
    {reply : LogReply ρ} (blank : Blank dev elemSize) (positive : 0 < capacity)
    (room : roomFor dev.size elemSize = capacity) (opened : logOpen dev elemSize = .ok start)
    (run : Reach PersistentNext start past s) (ran : op.run s = .ok (reply, s'))
    (written : Nat)
    : ∃ recovered, op.crash written s = .ok recovered
        ∧ ((SameRecords recovered s ∨ SameRecords recovered s') ↔ ¬ Torn s op written) := by
  have persistent := persistent_of_run (logOpen_persistent blank positive room opened) run
  obtain ⟨⟨_, stream, writes⟩, effects, returned⟩ := bind_eq_ok.mp ran
  obtain ⟨_, rfl⟩ := Prod.mk.inj (Except.ok.inj returned)
  obtain ⟨recovered, reopened, _, survives⟩ := persistent.crash effects written
  refine ⟨recovered, ?_, survives⟩
  rw [LogOp.crash, effects]
  exact reopened

/-- A zeroed device with room for two records, and the streams on it. -/
def twoRecords : KDevice Nat :=
  { oneRecord with size := 64 }

def twoRecordsStream (cHdr : Int) (ctrl : LogStreamCtrl) (writes : List (DevWrite Nat))
    : LogState Nat where
  stream := { info := { elemSize := 4, maxNoElem := 2, lock := 0, cHdr }, ctrl }
  dev := twoRecords.writes (.hdr (initHdr 2 4) :: writes)

theorem twoRecords_opened : logOpen twoRecords 4 = .ok (twoRecordsStream 0 zeroCtrl []) :=
  rfl

theorem twoRecords_blank : Blank twoRecords 4 :=
  rfl

def oneKept : LogStreamCtrl where
  tail := 1
  elem := 1
  head := 0
  d := 0

def twoKept : LogStreamCtrl where
  tail := 0
  elem := 2
  head := 0
  d := 0

/-- The stream that holds 7 and 8. -/
def fullStream : LogState Nat :=
  twoRecordsStream 0 twoKept
    [.record 0 7, .ctrl 0 oneKept, .cHdr 0, .record 1 8, .ctrl 1 twoKept, .cHdr 1]

theorem fullStream_run
    : Reach PersistentNext (twoRecordsStream 0 zeroCtrl [])
        [.op (.insert 8), .op (.insert 7)] fullStream := by
  have first : (LogOp.insert 7).run (twoRecordsStream 0 zeroCtrl [])
      = .ok ({ code := 0, log := none },
        twoRecordsStream 1 oneKept [.record 0 7, .ctrl 0 oneKept, .cHdr 0]) := rfl
  have second : (LogOp.insert 8).run
        (twoRecordsStream 1 oneKept [.record 0 7, .ctrl 0 oneKept, .cHdr 0])
      = .ok ({ code := 0, log := none }, fullStream) := rfl
  exact .step (.step .start (.op first)) (.op second)

/-- A read that is cut off is not torn. -/
theorem logStream_survives_crash_get
    : ∃ recovered s' reply, LogOp.get.run fullStream = .ok (reply, s')
        ∧ LogOp.get.crash 1 fullStream = .ok recovered
        ∧ (SameRecords recovered fullStream ∨ SameRecords recovered s') := by
  obtain ⟨⟨reply, s'⟩, ran⟩ : ∃ result, LogOp.get.run fullStream = .ok result := ⟨_, rfl⟩
  have room : roomFor twoRecords.size 4 = (2 : Nat) := by decide
  obtain ⟨recovered, crashed, survives⟩ :=
    logStream_survives_crash twoRecords_blank (by decide) room twoRecords_opened
      fullStream_run ran 1
  refine ⟨recovered, s', reply, ran, crashed, survives.mpr ?_⟩
  rintro ⟨_, isInsert, _⟩
  cases isInsert

/-- A third record, cut off before its header: the stream recovered holds 9 and 8, where the
one before holds 7 and 8 and the one after 8 and 9.
-/
theorem full_insert_torn
    : ¬ ∀ (dev : KDevice Nat) (elemSize : Int) (start s s' recovered : LogState Nat)
        (past : List (PersistentEvent Nat)) (op : LogOp Nat) (reply : LogReply Nat)
        (written : Nat),
        Blank dev elemSize → 0 < roomFor dev.size elemSize →
        logOpen dev elemSize = .ok start → Reach PersistentNext start past s →
        op.run s = .ok (reply, s') → op.crash written s = .ok recovered →
        SameRecords recovered s ∨ SameRecords recovered s' := by
  intro claimed
  obtain ⟨⟨reply, s'⟩, ran⟩ : ∃ result, (LogOp.insert 9).run fullStream = .ok result := ⟨_, rfl⟩
  have crashed : (LogOp.insert 9).crash 1 fullStream
      = .ok (recoveredStream 2 4 (fullStream.dev.write (.record 0 9))) := rfl
  have kept : s'.retained = [8, 9] := by
    cases ran
    rfl
  rcases claimed _ _ _ _ s' _ _ _ _ 1 twoRecords_blank (by decide) twoRecords_opened
    fullStream_run ran crashed with same | same
  · exact absurd same.retained (by decide)
  · have retained := same.retained
    rw [kept] at retained
    exact absurd retained (by decide)

end XtratuM.Objects
