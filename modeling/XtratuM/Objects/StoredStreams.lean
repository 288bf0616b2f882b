import XtratuM.Objects.LogRecovery
import XtratuM.Objects.MemBlocks

/-! Log streams on memory blocks: what a stream keeps in the bytes of an area, over operations and
resets between them.
-/

namespace XtratuM.Objects

open Boot (wordCodec)
open BoundedLog Window
open ByteFiles

variable {ρ : Type}

/-- A stream, and the block it is kept on. -/
structure StoredStream where
  stream : LogStream
  block : MemBlock

/-- The stream with what it finds in its block. -/
def StoredStream.state (codec : Codec ρ (BitVec 8)) (s : StoredStream) : LogState ρ where
  stream := s.stream
  dev := s.block.device codec

/-- An operation that reads and writes the bytes of the block. -/
def LogOp.runStored (codec : Codec ρ (BitVec 8)) (op : LogOp ρ) (s : StoredStream)
    : Except Stop (LogReply ρ × StoredStream) := do
  let done ← op.effect (s.state codec)
  pure (done.1, { stream := done.2.1, block := s.block.devWrites codec done.2.2 })

/-- `LogStreamInit` on a block. -/
def openStored (codec : Codec ρ (BitVec 8)) (block : MemBlock) : Except Stop StoredStream := do
  let inits ← logStreamInit ((resetMemBlock block).device codec) codec.size
  pure { stream := inits.1, block := (resetMemBlock block).devWrites codec inits.2 }

/-- What happens to a stream; after a reset it is initialised again. -/
inductive StoreEvent (ρ : Type)
  | op (op : LogOp ρ)
  | reset

def StoreEvent.run (codec : Codec ρ (BitVec 8)) (event : StoreEvent ρ) (s : StoredStream)
    : Except Stop (Option (LogReply ρ) × StoredStream) :=
  match event with
  | .op operation => do
      let done ← operation.runStored codec s
      pure (some done.1, done.2)
  | .reset => do
      let opened ← openStored codec s.block
      pure (none, opened)

/-- Events one after the other, with the replies. -/
def runEvents (codec : Codec ρ (BitVec 8))
    : List (StoreEvent ρ) → StoredStream → Except Stop (List (Option (LogReply ρ)) × StoredStream)
  | [], s => pure ([], s)
  | event :: events, s => do
      let done ← event.run codec s
      let rest ← runEvents codec events done.2
      pure (done.1 :: rest.1, rest.2)

/-- What an event does to the bounded log: a reset unlocks it. -/
def StoreEvent.spec (capacity : Nat) (event : StoreEvent ρ) (log : Log ρ)
    : Option (LogReply ρ) × Log ρ :=
  match event with
  | .op operation => (some (operation.spec capacity log).1, (operation.spec capacity log).2)
  | .reset => (none, { log with locked := false })

def specEvents (capacity : Nat)
    : List (StoreEvent ρ) → Log ρ → List (Option (LogReply ρ)) × Log ρ
  | [], log => ([], log)
  | event :: events, log =>
      let done := event.spec capacity log
      let rest := specEvents capacity events done.2
      (done.1 :: rest.1, rest.2)

-----------------------------------------------------------------------------------------
-- Streams and devices

/-- One of the two copies of the indices. -/
def IsCopy (cHdr : Int) : Prop := ∃ copy : Nat, copy < 2 ∧ cHdr = copy

theorem isCopy_otherHdr (cHdr : Int) : IsCopy (otherHdr cHdr) := by
  unfold otherHdr
  split
  · exact ⟨1, by decide, rfl⟩
  · exact ⟨0, by decide, rfl⟩

/-- A stored stream does what a stream on a device does. -/
structure StoredAs (codec : Codec ρ (BitVec 8)) (capacity : Nat) (s : StoredStream)
    (t : LogState ρ) : Prop where
  stream : s.stream = t.stream
  stores : Stores codec capacity s.block t.dev
  persistent : Persistent capacity t
  elemSize : t.stream.info.elemSize = codec.size
  unlocked : t.dev.hdr.info.lock = 0
  next : IsCopy t.stream.info.cHdr
  live : IsCopy t.dev.hdr.info.cHdr

section StoredAs

variable {codec : Codec ρ (BitVec 8)} {capacity : Nat} {s : StoredStream} {t : LogState ρ}

/-- Fewer records fit into an area than it has bytes. -/
theorem StoredAs.capacity_lt (stored : StoredAs codec capacity s t) : capacity < 2 ^ 31 := by
  have small : s.block.bytes.length < 2 ^ 31 := stored.stores.small
  have room := stored.stores.room
  have sized : 0 < codec.size := by
    have sized := stored.persistent.sized
    rw [stored.elemSize] at sized
    omega
  have product := Nat.le_mul_of_pos_right capacity sized
  omega

/-- Indices are small numbers. -/
theorem Indices.fits32 {len : Nat} {ctrl : LogStreamCtrl} (indices : Indices capacity len ctrl)
    (below : capacity < 2 ^ 31) (positive : 0 < capacity) : Fits32 ctrl := by
  have fits := indices.fits
  have elem := indices.elem
  have d := indices.d
  have head := indices.head
  have tail := indices.tail
  have tailLow := Int.emod_nonneg (ctrl.head + len) (show (capacity : Int) ≠ 0 by omega)
  have tailHigh := Int.emod_lt_of_pos (ctrl.head + len) (show 0 < (capacity : Int) by omega)
  exact
    { tail := ⟨by omega, by omega⟩
      elem := ⟨by omega, by omega⟩
      head := ⟨by omega, by omega⟩
      d := ⟨by omega, by omega⟩ }

/-- Nothing outside a header and `capacity` records is written. -/
structure Frame (codec : Codec ρ (BitVec 8)) (capacity : Nat) (block block' : MemBlock)
    : Prop where
  length : block'.bytes.length = block.bytes.length
  behind : block'.bytes.drop (56 + capacity * codec.size)
    = block.bytes.drop (56 + capacity * codec.size)

theorem Frame.refl (block : MemBlock) : Frame codec capacity block block := ⟨rfl, rfl⟩

theorem Frame.trans {block block' block'' : MemBlock} (first : Frame codec capacity block block')
    (second : Frame codec capacity block' block'')
    : Frame codec capacity block block'' where
  length := second.length.trans first.length
  behind := second.behind.trans first.behind

theorem Stores.frame {block : MemBlock} {dev : KDevice ρ} {write : DevWrite ρ}
    (stores : Stores codec capacity block dev) (writable : Writable capacity write)
    : Frame codec capacity block (block.devWrite codec write) where
  length := by
    obtain ⟨low, inside⟩ := place_inside codec writable
    rw [devWrite_bytes stores writable]
    refine Nat.le_antisymm ?_ (length_le_writeAt 0 _ _ _)
    exact length_writeAt_le 0 (Nat.le_refl _) (Nat.le_trans inside stores.room)
  behind := devWrite_frame stores writable

/-- Witness: induction on the writes. -/
theorem Stores.devWrites {block : MemBlock} {dev : KDevice ρ} {writes : List (DevWrite ρ)}
    (stores : Stores codec capacity block dev)
    (writable : ∀ write ∈ writes, Writable capacity write)
    : Stores codec capacity (block.devWrites codec writes) (dev.writes writes)
      ∧ Frame codec capacity block (block.devWrites codec writes) := by
  induction writes generalizing block dev with
  | nil => exact ⟨stores, .refl block⟩
  | cons write writes ih =>
      have first := writable write List.mem_cons_self
      obtain ⟨rest, frame⟩ := ih (stores.devWrite first)
        fun other member => writable other (List.mem_cons_of_mem _ member)
      exact ⟨rest, (stores.frame first).trans frame⟩

-----------------------------------------------------------------------------------------
-- Operations

/-- Both hold the same records. -/
theorem Stores.same_record {block : MemBlock} {dev : KDevice ρ}
    (stores : Stores codec capacity block dev) {ptr : Int} (low : 0 ≤ ptr) (high : ptr < capacity)
    : (block.device codec).record ptr = dev.record ptr := by
  have found := stores_device codec stores.small stores.room
  lift ptr to Nat using low
  have below : ptr < capacity := by exact_mod_cast high
  rw [found.record ptr below, stores.record ptr below]

theorem Stores.same_window {block : MemBlock} {dev : KDevice ρ}
    (stores : Stores codec capacity block dev) (positive : 0 < capacity) (head : Int) (len : Nat)
    : window (block.device codec).record capacity head len
      = window dev.record capacity head len := by
  refine List.map_congr_left fun i _ => ?_
  exact stores.same_record (Int.emod_nonneg _ (by omega)) (Int.emod_lt_of_pos _ (by omega))

/-- The log behind a stream, as its block has it. -/
theorem StoredAs.log (stored : StoredAs codec capacity s t) : (s.state codec).log = t.log := by
  have formed := stored.persistent.formed
  have stream : (s.state codec).stream = t.stream := stored.stream
  have cells := stored.stores.same_window formed.positive t.stream.ctrl.head
    t.stream.ctrl.elem.toNat
  unfold LogState.log LogState.retained
  rw [stream, formed.maxNoElem]
  exact congrArg (fun kept => Log.mk kept _ _) cells

/-- An operation has the same effect on both. -/
theorem StoredAs.effect (stored : StoredAs codec capacity s t) (op : LogOp ρ)
    : op.effect (s.state codec) = op.effect t := by
  have stream : (s.state codec).stream = t.stream := stored.stream
  cases op with
  | insert log =>
      unfold LogOp.effect
      rw [stream]
  | get =>
      have get : logStreamGet t.stream (s.state codec).dev = logStreamGet t.stream t.dev := by
        unfold logStreamGet
        split
        · next readable =>
            obtain ⟨len, indices⟩ := stored.persistent.formed.indices
            have d := indices.d
            have head := indices.head
            have below : (t.stream.ctrl.d + t.stream.ctrl.head).tmod t.stream.info.maxNoElem
                = (t.stream.ctrl.d + t.stream.ctrl.head) % capacity := by
              rw [stored.persistent.formed.maxNoElem, Int.tmod_eq_emod_of_nonneg (by omega)]
            have same := stored.stores.same_record
              (Int.emod_nonneg (t.stream.ctrl.d + t.stream.ctrl.head) (by omega))
              (Int.emod_lt_of_pos (t.stream.ctrl.d + t.stream.ctrl.head) (by omega))
            dsimp only
            rw [below]
            exact congrArg (fun log => ((0 : Int), some log, _)) same
        · rfl
      unfold LogOp.effect
      dsimp only
      rw [stream, get]
  | seek offset whence =>
      unfold LogOp.effect
      rw [stream]
  | lock =>
      unfold LogOp.effect
      rw [stream]
  | unlock =>
      unfold LogOp.effect
      rw [stream]

/-- A commit writes indices to one of their two places. -/
theorem logStreamCommit_writable {lS : LogStream} (next : IsCopy lS.info.cHdr)
    (fits : Fits32 lS.ctrl)
    : ∀ write ∈ (logStreamCommit (ρ := ρ) lS).2, Writable capacity write := by
  obtain ⟨copy, below, cHdr⟩ := next
  unfold logStreamCommit
  split
  · rw [cHdr]
    intro write member
    rcases List.mem_pair.mp member with rfl | rfl
    · exact .ctrl below fits
    · exact .cHdr ⟨by omega, by omega⟩
  · simp

/-- What stays as it is when a stream is written back. -/
structure Kept (capacity : Nat) (t : LogState ρ) (stream : LogStream)
    (writes : List (DevWrite ρ)) : Prop where
  elemSize : stream.info.elemSize = t.stream.info.elemSize
  next : IsCopy stream.info.cHdr
  writable : ∀ write ∈ writes, Writable capacity write
  lock : (t.dev.writes writes).hdr.info.lock = t.dev.hdr.info.lock
  live : IsCopy t.dev.hdr.info.cHdr → IsCopy (t.dev.writes writes).hdr.info.cHdr

theorem logStreamCommit_kept {t : LogState ρ} {lS : LogStream} {before : List (DevWrite ρ)}
    (elemSize : lS.info.elemSize = t.stream.info.elemSize) (next : IsCopy lS.info.cHdr)
    (fits : Fits32 lS.ctrl) (writable : ∀ write ∈ before, Writable capacity write)
    (hdr : (t.dev.writes before).hdr = t.dev.hdr)
    : Kept capacity t (logStreamCommit (ρ := ρ) lS).1 (before ++ (logStreamCommit lS).2) where
  elemSize := by
    unfold logStreamCommit
    split <;> exact elemSize
  next := by
    unfold logStreamCommit
    split
    · exact isCopy_otherHdr _
    · exact next
  writable write member := by
    rcases List.mem_append.mp member with earlier | later
    · exact writable write earlier
    · exact logStreamCommit_writable next fits write later
  lock := by
    rw [KDevice.writes, List.foldl_append, ← KDevice.writes, ← hdr]
    unfold logStreamCommit
    split <;> rfl
  live := by
    rw [KDevice.writes, List.foldl_append, ← KDevice.writes, ← hdr]
    unfold logStreamCommit
    split
    · exact fun _ => next
    · exact id

/-- What an operation writes lies in the header and the records. -/
theorem LogOp.effect_kept {t : LogState ρ} {op : LogOp ρ} {reply : LogReply ρ}
    {stream : LogStream} {writes : List (DevWrite ρ)} (formed : WellFormed capacity t)
    (below : capacity < 2 ^ 31) (next : IsCopy t.stream.info.cHdr)
    (effects : op.effect t = .ok (reply, stream, writes))
    : Kept capacity t stream writes := by
  have isStore : t.stream.info.maxNoElem ≠ 0 := by
    have positive := formed.positive
    rw [formed.maxNoElem]
    omega
  have ran : LogNext t (op, reply) { stream, dev := t.dev.writes writes } := by
    rw [LogNext, LogOp.run, effects]
    rfl
  obtain ⟨len, indices⟩ := (ran.refines formed).1.indices
  have fits := indices.fits32 below formed.positive
  cases LogOp.effect_shape isStore effects with
  | silent refused =>
      exact
        { elemSize := rfl
          next := next
          writable := by simp
          lock := rfl
          live := id }
  | cursor d other =>
      have ctrl := (logStreamCommit_ctrl (ρ := ρ) { t.stream with ctrl.d := d }).1
      exact @logStreamCommit_kept _ _ _ { t.stream with ctrl.d := d } [] rfl next (ctrl ▸ fits)
        (by simp) rfl
  | @insert log ctrl accepted =>
      have same := (logStreamCommit_ctrl (ρ := ρ) { t.stream with ctrl }).1
      obtain ⟨len, old⟩ := formed.indices
      have tail : 0 ≤ t.stream.ctrl.tail ∧ t.stream.ctrl.tail < capacity := by
        have positive := formed.positive
        rw [old.tail]
        exact ⟨Int.emod_nonneg _ (by omega), Int.emod_lt_of_pos _ (by omega)⟩
      refine @logStreamCommit_kept _ _ _ { t.stream with ctrl }
        [.record t.stream.ctrl.tail log] rfl next (same ▸ fits) ?_ rfl
      intro write member
      rw [List.mem_singleton.mp member, ← Int.toNat_of_nonneg tail.1]
      exact .record (by omega) log

theorem StoredAs.run (stored : StoredAs codec capacity s t) (op : LogOp ρ)
    : ∃ s' t', op.runStored codec s = .ok ((op.spec capacity t.log).1, s')
        ∧ StoredAs codec capacity s' t' ∧ t'.log = (op.spec capacity t.log).2
        ∧ Frame codec capacity s.block s'.block := by
  obtain ⟨t', ran, formed', log'⟩ := op.run_refines stored.persistent.formed
  have persistent := stored.persistent.run ran
  obtain ⟨⟨reply, stream, writes⟩, effects, returned⟩ := bind_eq_ok.mp ran
  obtain ⟨rfl, rfl⟩ := Prod.mk.inj (Except.ok.inj returned)
  have kept := LogOp.effect_kept stored.persistent.formed stored.capacity_lt stored.next effects
  obtain ⟨stores, frame⟩ := stored.stores.devWrites kept.writable
  refine ⟨{ stream, block := s.block.devWrites codec writes },
    { stream, dev := t.dev.writes writes }, ?_, ?_, log', frame⟩
  · unfold LogOp.runStored
    rw [stored.effect op, effects]
    rfl
  · exact
      { stream := rfl
        stores := stores
        persistent := persistent
        elemSize := kept.elemSize.trans stored.elemSize
        unlocked := kept.lock.trans stored.unlocked
        next := kept.next
        live := kept.live stored.live }

-----------------------------------------------------------------------------------------
-- Resets

/-- The header found is the one that was stored. -/
theorem Stores.same_header {block : MemBlock} {dev : KDevice ρ}
    (stores : Stores codec capacity block dev)
    : SameShape dev (block.device codec) ∧ (block.device codec).hdr.info = dev.hdr.info
      ∧ (IsCopy dev.hdr.info.cHdr → (block.device codec).live = dev.live) := by
  have found := stores_device codec stores.small stores.room
  have info := found.info.trans stores.info.symm
  refine ⟨⟨found.size.trans stores.size.symm, ?_⟩, info, ?_⟩
  · intro maxNoElem elemSize
    unfold isStreamHdr
    rw [found.magic1.trans stores.magic1.symm, found.magic2.trans stores.magic2.symm, info]
  · rintro ⟨copy, below, cHdr⟩
    unfold KDevice.live
    rw [info, cHdr, found.ctrl copy below, stores.ctrl copy below]

/-- Where the next bytes are does not matter to a stream that is initialised. -/
theorem device_resetMemBlock (block : MemBlock)
    : (resetMemBlock block).device codec = block.device codec := by
  have other : DEV_SEEK_START ≠ DEV_SEEK_CURRENT := by decide
  have another : DEV_SEEK_END ≠ DEV_SEEK_CURRENT := by decide
  have seek (offset : Int) : (resetMemBlock block).seek offset = block.seek offset := by
    unfold MemBlock.seek seekMemBlock
    simp only [if_neg other]
    rfl
  have ends : (seekMemBlock (resetMemBlock block) 0 DEV_SEEK_END).1
      = (seekMemBlock block 0 DEV_SEEK_END).1 := by
    unfold seekMemBlock
    simp only [if_neg another]
    rfl
  unfold MemBlock.device MemBlock.readFrom
  simp only [seek, ends]

theorem Persistent.inits {t : LogState ρ} (persistent : Persistent capacity t)
    {dev : KDevice ρ} (shape : SameShape t.dev dev)
    : logStreamInit dev t.stream.info.elemSize
      = .ok ((recoveredStream capacity t.stream.info.elemSize dev).stream, []) := by
  have isStore : (capacity : Int) ≠ 0 := by
    have positive := persistent.formed.positive
    omega
  have room := persistent.room
  have header := persistent.header
  rw [← shape.size] at room
  rw [← shape.header] at header
  simp only [logStreamInit, assert_of persistent.sized, ok_bind, room, if_pos isStore, header,
    if_true]
  rfl

/-- A stream that is initialised again finds its records, and is not locked. -/
theorem StoredAs.reset (stored : StoredAs codec capacity s t)
    : ∃ s' t', openStored codec s.block = .ok s' ∧ StoredAs codec capacity s' t'
        ∧ t'.log = { t.log with locked := false } ∧ s'.block.bytes = s.block.bytes := by
  obtain ⟨shape, info, live⟩ := stored.stores.same_header
  have live := (live stored.live).trans stored.persistent.live
  obtain ⟨len, indices⟩ := stored.persistent.formed.indices
  have inits := stored.persistent.inits shape
  have persistent := stored.persistent.reopened shape (live ▸ indices)
  have stores : Stores codec capacity (resetMemBlock s.block) (s.block.device codec) := by
    have small : (resetMemBlock s.block).Small := stored.stores.small
    have room : 56 + capacity * codec.size ≤ (resetMemBlock s.block).bytes.length :=
      stored.stores.room
    exact device_resetMemBlock s.block ▸ stores_device codec small room
  let t' := recoveredStream capacity t.stream.info.elemSize (s.block.device codec)
  refine ⟨{ stream := t'.stream, block := resetMemBlock s.block }, t', ?_, ?_, ?_, rfl⟩
  · unfold openStored
    rw [device_resetMemBlock, ← stored.elemSize, inits]
    rfl
  · exact
      { stream := rfl
        stores := stores
        persistent := persistent
        elemSize := stored.elemSize
        unlocked := (congrArg LogStreamInfo.lock info).trans stored.unlocked
        next := isCopy_otherHdr _
        live := (congrArg LogStreamInfo.cHdr info).symm ▸ stored.live }
  · have formed := stored.persistent.formed
    have same := sameRecords_of_live formed t.stream.info.elemSize live
      (stored.stores.same_window formed.positive _ _)
    have lock : t'.stream.info.lock = 0 :=
      (congrArg LogStreamInfo.lock info).trans stored.unlocked
    unfold LogState.log
    rw [same.retained, same.d, lock]
    rfl

theorem StoredAs.event (stored : StoredAs codec capacity s t) (event : StoreEvent ρ)
    : ∃ s' t', event.run codec s = .ok ((event.spec capacity t.log).1, s')
        ∧ StoredAs codec capacity s' t' ∧ t'.log = (event.spec capacity t.log).2
        ∧ Frame codec capacity s.block s'.block := by
  cases event with
  | op operation =>
      obtain ⟨s', t', ran, stored', log', frame⟩ := stored.run operation
      refine ⟨s', t', ?_, stored', log', frame⟩
      unfold StoreEvent.run
      dsimp only
      rw [ran]
      rfl
  | reset =>
      obtain ⟨s', t', opened, stored', log', same⟩ := stored.reset
      refine ⟨s', t', ?_, stored', log', by rw [same], by rw [same]⟩
      unfold StoreEvent.run
      dsimp only
      rw [opened]
      rfl

/-- Witness: induction on the events. -/
theorem StoredAs.events (stored : StoredAs codec capacity s t) (events : List (StoreEvent ρ))
    : ∃ s', runEvents codec events s = .ok ((specEvents capacity events t.log).1, s')
        ∧ (s'.state codec).log = (specEvents capacity events t.log).2
        ∧ Frame codec capacity s.block s'.block := by
  induction events generalizing s t with
  | nil => exact ⟨s, rfl, stored.log, .refl s.block⟩
  | cons event events ih =>
      obtain ⟨next, t', ran, stored', log', frame⟩ := stored.event event
      obtain ⟨s', rest, kept, frame'⟩ := ih stored'
      refine ⟨s', ?_, ?_, frame.trans frame'⟩
      · unfold runEvents
        rw [ran, ok_bind, rest, log']
        rfl
      · rw [kept, log']
        rfl

end StoredAs

-----------------------------------------------------------------------------------------
-- A blank block

section Blank

variable {codec : Codec ρ (BitVec 8)} {capacity : Nat} {block : MemBlock}

/-- The header written first. -/
theorem initHdr_writable (capacity : Nat) {maxNoElem elemSize : Int} (max : IsS32 maxNoElem)
    (elem : IsS32 elemSize)
    : Writable (ρ := ρ) capacity (.hdr (initHdr maxNoElem elemSize)) := by
  have zero : IsS32 0 := ⟨by decide, by decide⟩
  exact .hdr elem max zero zero fun _ _ => ⟨zero, zero, zero, zero⟩

/-- The stream that is initialised on a device that holds none. -/
def freshStream (capacity : Nat) (elemSize : Int) : LogStream where
  info := { elemSize, maxNoElem := capacity, lock := 0, cHdr := 0 }
  ctrl := zeroCtrl

theorem logStreamInit_blank {dev : KDevice ρ} {elemSize : Int} (sized : 0 < elemSize)
    (positive : 0 < capacity) (room : roomFor dev.size elemSize = capacity)
    (blank : Blank dev elemSize)
    : logStreamInit dev elemSize
      = .ok (freshStream capacity elemSize, [.hdr (initHdr capacity elemSize)]) := by
  have isStore : (capacity : Int) ≠ 0 := by omega
  unfold Blank at blank
  rw [room] at blank
  simp only [logStreamInit, assert_of sized, ok_bind, room, if_pos isStore, blank,
    Bool.false_eq_true, if_false]
  rfl

/-- A block with room for `capacity` records and a header. -/
theorem room_of_roomFor {size elemSize : Nat} (sized : 0 < elemSize) (positive : 0 < capacity)
    (room : roomFor size elemSize = capacity) : 56 + capacity * elemSize ≤ size := by
  unfold roomFor sizeofLogStreamHdr at room
  split at room
  · have product : (capacity : Int) * elemSize ≤ size - 56 := by
      rw [← room]
      exact Int.ediv_mul_le _ (by omega)
    have cast : (capacity : Int) * elemSize = (capacity * elemSize : Nat) :=
      (Nat.cast_mul _ _).symm
    omega
  · omega

/-- A stream that is initialised on a block that holds none is empty. -/
theorem openStored_blank (small : block.Small) (sized : 0 < codec.size) (positive : 0 < capacity)
    (room : roomFor block.bytes.length codec.size = capacity)
    (blank : Blank (block.device codec) codec.size)
    : ∃ s t, openStored codec block = .ok s ∧ StoredAs codec capacity s t ∧ t.log = Log.empty
        ∧ Frame codec capacity block s.block := by
  have inside := room_of_roomFor sized positive room
  have fits : 0 < (codec.size : Int) := by omega
  have product := Nat.le_mul_of_pos_right capacity sized
  have product' := Nat.le_mul_of_pos_left codec.size positive
  have small' : (resetMemBlock block).Small := small
  have stores : Stores codec capacity (resetMemBlock block) (block.device codec) :=
    device_resetMemBlock block ▸ stores_device codec small' inside
  have room' : roomFor (block.device codec).size codec.size = capacity := by
    rw [device_size small codec, room]
  have inits := logStreamInit_blank fits positive room' blank
  have opened : logOpen (block.device codec) codec.size
      = .ok { stream := freshStream capacity codec.size
              dev := (block.device codec).writes [.hdr (initHdr capacity codec.size)] } := by
    unfold logOpen
    rw [inits]
    rfl
  have writable : Writable (ρ := ρ) capacity (.hdr (initHdr capacity codec.size)) := by
    unfold MemBlock.Small at small
    exact initHdr_writable capacity ⟨by omega, by omega⟩ ⟨by omega, by omega⟩
  obtain ⟨stores', frame⟩ := stores.devWrites fun write member =>
    (List.mem_singleton.mp member).symm ▸ writable
  have first : IsCopy 0 := ⟨0, by decide, rfl⟩
  have framed : Frame codec capacity block
      ((resetMemBlock block).devWrites codec [.hdr (initHdr capacity codec.size)]) :=
    ⟨frame.length, frame.behind⟩
  refine ⟨{ stream := freshStream capacity codec.size, block := _ }, _, ?_, ?_,
    (logOpen_blank blank positive room' opened).2, framed⟩
  · unfold openStored
    rw [device_resetMemBlock, inits]
    rfl
  · exact
      { stream := rfl
        stores := stores'
        persistent := logOpen_persistent blank positive room' opened
        elemSize := rfl
        unlocked := rfl
        next := first
        live := first }

/-- A zeroed block with room for two words, and a byte more. -/
def zeroedBlock : MemBlock where
  bytes := List.replicate 65 0
  pos := 0

theorem zeroedBlock_blank : Blank (zeroedBlock.device wordCodec) wordCodec.size := by
  unfold Blank
  decide +kernel

end Blank

end XtratuM.Objects
