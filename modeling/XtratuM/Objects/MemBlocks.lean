import XtratuM.Boot.ToolFiles
import XtratuM.Objects.LogStream

/-! Memory blocks, the devices that log streams are kept on: the bytes of an area of memory, with
the place where the next bytes are read or written. A stream's header and records are laid out in
them.
-/

namespace XtratuM.Objects

open Boot (wordBytes wordCodec)
open ByteFiles

-----------------------------------------------------------------------------------------
-- The driver

def DEV_SEEK_CURRENT : XmU32 := 0
def DEV_SEEK_START : XmU32 := 1
def DEV_SEEK_END : XmU32 := 2

/-- `struct memBlockData`, with the bytes of the area. -/
structure MemBlock where
  bytes : List (BitVec 8)
  pos : XmU32

/-- The size of the area. -/
def MemBlock.size (block : MemBlock) : XmU32 := BitVec.ofNat 32 block.bytes.length

/-- `ResetMemBlock`. -/
def resetMemBlock (block : MemBlock) : MemBlock := { block with pos := 0 }

/-- A length cut off at the end of the area; what is compared is signed. -/
def MemBlock.cut (block : MemBlock) (len : XmU32) : XmU32 :=
  if (block.size - block.pos - len).toInt < 0 then block.size - block.pos else len

/-- `ReadMemBlock`, with the bytes that are left in the buffer. -/
def readMemBlock (block : MemBlock) (len : XmU32) : List (BitVec 8) × MemBlock :=
  let len := block.cut len
  if len.toInt ≤ 0 then
    ([], block)
  else
    (readAt block.bytes block.pos.toNat len.toNat, { block with pos := block.pos + len })

/-- `WriteMemBlock`, with the number of bytes written. -/
def writeMemBlock (block : MemBlock) (buffer : List (BitVec 8)) : XmU32 × MemBlock :=
  let len := block.cut (BitVec.ofNat 32 buffer.length)
  if len.toInt ≤ 0 then
    (0, block)
  else
    (len,
      { bytes := writeAt 0 block.bytes block.pos.toNat (buffer.take len.toNat)
        pos := block.pos + len })

/-- `SeekMemBlock`. -/
def seekMemBlock (block : MemBlock) (offset whence : XmU32) : XmU32 × MemBlock :=
  let off :=
    if whence = DEV_SEEK_CURRENT then offset + block.pos
    else if whence = DEV_SEEK_END then offset + block.size
    else offset
  let off := if off.toInt < 0 then 0 else off
  let off := if block.size < off then block.size else off
  (off, { block with pos := off })

-----------------------------------------------------------------------------------------
-- What a stream lays out

/-- An `xm_s32_t`. -/
def intBytes (n : Int) : List (BitVec 8) := wordBytes (BitVec.ofInt 32 n)

def ctrlBytes (ctrl : LogStreamCtrl) : List (BitVec 8) :=
  intBytes ctrl.tail ++ intBytes ctrl.elem ++ intBytes ctrl.head ++ intBytes ctrl.d

def infoBytes (info : LogStreamInfo) : List (BitVec 8) :=
  intBytes info.elemSize ++ intBytes info.maxNoElem ++ intBytes info.lock ++ intBytes info.cHdr

/-- `struct logStreamHdr`. -/
def hdrBytes (hdr : LogStreamHdr) : List (BitVec 8) :=
  wordBytes hdr.magic1 ++ infoBytes hdr.info ++ ctrlBytes (hdr.ctrl 0) ++ ctrlBytes (hdr.ctrl 1)
    ++ wordBytes hdr.magic2

/-- `OFFSETOF(struct logStreamHdr, ..)`. -/
def offsetofCHdr : Int := 16
def offsetofCtrl (cHdr : Int) : Int := 20 + 16 * cHdr
def offsetofMagic2 : Int := 52

variable {ρ : Type} (codec : Codec ρ (BitVec 8))

/-- Where record `ptr` is. -/
def recordOffset (ptr : Int) : Int := sizeofLogStreamHdr + ptr * codec.size

/-- `KDevSeek(.., offset, DEV_SEEK_START)`. -/
def MemBlock.seek (block : MemBlock) (offset : Int) : MemBlock :=
  (seekMemBlock block (BitVec.ofInt 32 offset) DEV_SEEK_START).2

/-- `KDevWrite`. -/
def MemBlock.write (block : MemBlock) (bytes : List (BitVec 8)) : MemBlock :=
  (writeMemBlock block bytes).2

/-- A write of a stream, after the seek that comes before it; an `output` has none. -/
def MemBlock.devWrite (block : MemBlock) : DevWrite ρ → MemBlock
  | .hdr hdr => (block.seek 0).write (hdrBytes hdr)
  | .ctrl cHdr ctrl => (block.seek (offsetofCtrl cHdr)).write (ctrlBytes ctrl)
  | .cHdr cHdr => (block.seek offsetofCHdr).write (intBytes cHdr)
  | .record ptr log => (block.seek (recordOffset codec ptr)).write (codec.encode log)
  | .output log => block.write (codec.encode log)

def MemBlock.devWrites (block : MemBlock) (writes : List (DevWrite ρ)) : MemBlock :=
  writes.foldl (MemBlock.devWrite codec) block

/-- The bytes that `KDevSeek` and `KDevRead` give. -/
def MemBlock.readFrom (block : MemBlock) (offset : Int) (len : Nat) : List (BitVec 8) :=
  (readMemBlock (block.seek offset) (BitVec.ofNat 32 len)).1

/-- An `xm_s32_t` in a structure that was read. -/
def intAt (bytes : List (BitVec 8)) (offset : Int) : Int :=
  (wordCodec.decode (bytes.drop offset.toNat)).toInt

def ctrlAt (bytes : List (BitVec 8)) (offset : Int) : LogStreamCtrl where
  tail := intAt bytes offset
  elem := intAt bytes (offset + 4)
  head := intAt bytes (offset + 8)
  d := intAt bytes (offset + 12)

/-- The header that was read. -/
def hdrAt (bytes : List (BitVec 8)) : LogStreamHdr where
  magic1 := wordCodec.decode bytes
  info :=
    { elemSize := intAt bytes 4
      maxNoElem := intAt bytes 8
      lock := intAt bytes 12
      cHdr := intAt bytes offsetofCHdr }
  ctrl cHdr := ctrlAt bytes (offsetofCtrl cHdr)
  magic2 := wordCodec.decode (bytes.drop offsetofMagic2.toNat)

/-- The device that a stream finds in a block. -/
def MemBlock.device (block : MemBlock) : KDevice ρ where
  size := (seekMemBlock block 0 DEV_SEEK_END).1.toInt
  hdr := hdrAt (block.readFrom 0 sizeofLogStreamHdr.toNat)
  record ptr := codec.decode (block.readFrom (recordOffset codec ptr) codec.size)
  output := []

-----------------------------------------------------------------------------------------
-- Places inside the area

section Inside

variable {block : MemBlock} {offset : Int} {len : Nat} {bytes : List (BitVec 8)}

/-- Sizes of areas are compared as signed numbers. -/
def MemBlock.Small (block : MemBlock) : Prop := block.bytes.length < 2 ^ 31

theorem MemBlock.Small.size (small : block.Small) : block.size.toNat = block.bytes.length := by
  unfold MemBlock.Small at small
  unfold MemBlock.size
  rw [BitVec.toNat_ofNat]
  omega

/-- An offset up to the end of the area. -/
theorem seek_inside (small : block.Small) (low : 0 ≤ offset)
    (high : offset ≤ block.bytes.length)
    : (block.seek offset).bytes = block.bytes ∧ (block.seek offset).pos.toNat = offset.toNat := by
  have size := small.size
  unfold MemBlock.Small at small
  have value : (BitVec.ofInt 32 offset).toNat = offset.toNat := by
    rw [BitVec.toNat_ofInt]
    omega
  have positive : ¬ (BitVec.ofInt 32 offset).toInt < 0 := by
    rw [BitVec.toInt_eq_toNat_cond, value]
    split <;> omega
  have below : ¬ block.size < BitVec.ofInt 32 offset := by
    rw [BitVec.lt_def, size, value]
    omega
  have other : DEV_SEEK_START ≠ DEV_SEEK_CURRENT := by decide
  have another : DEV_SEEK_START ≠ DEV_SEEK_END := by decide
  refine ⟨rfl, ?_⟩
  unfold MemBlock.seek seekMemBlock
  simp only [if_neg other, if_neg another, if_neg positive, if_neg below]
  exact value

/-- Nothing is cut off of what ends inside the area. -/
theorem cut_inside (small : block.Small) (inside : block.pos.toNat + len ≤ block.bytes.length)
    : block.cut (BitVec.ofNat 32 len) = BitVec.ofNat 32 len := by
  have size := small.size
  unfold MemBlock.Small at small
  have left : (block.size - block.pos - BitVec.ofNat 32 len).toNat
      = block.bytes.length - block.pos.toNat - len := by
    rw [BitVec.toNat_sub, BitVec.toNat_sub, BitVec.toNat_ofNat, size]
    omega
  unfold MemBlock.cut
  rw [if_neg]
  rw [BitVec.toInt_eq_toNat_cond, left]
  split <;> omega

theorem write_inside (small : block.Small)
    (inside : block.pos.toNat + bytes.length ≤ block.bytes.length)
    : (block.write bytes).bytes = writeAt 0 block.bytes block.pos.toNat bytes := by
  have cut := cut_inside small inside
  unfold MemBlock.Small at small
  have length : (BitVec.ofNat 32 bytes.length).toNat = bytes.length := by
    rw [BitVec.toNat_ofNat]
    omega
  have value : (BitVec.ofNat 32 bytes.length).toInt = bytes.length := by
    rw [BitVec.toInt_eq_toNat_cond, length]
    split <;> omega
  unfold MemBlock.write writeMemBlock
  dsimp only
  rw [cut, value]
  split
  · next none =>
      have empty : bytes = [] := List.eq_nil_of_length_eq_zero (by omega)
      rw [empty, writeAt_nil]
  · dsimp only
    rw [length, List.take_length]

theorem readFrom_inside (small : block.Small) (low : 0 ≤ offset)
    (inside : offset.toNat + len ≤ block.bytes.length)
    : block.readFrom offset len = readAt block.bytes offset.toNat len := by
  obtain ⟨same, pos⟩ := seek_inside small low (by omega)
  have small' : (block.seek offset).Small := small
  have ends : (block.seek offset).pos.toNat + len ≤ (block.seek offset).bytes.length := by
    rw [pos, same]
    exact inside
  have cut := cut_inside small' ends
  unfold MemBlock.Small at small
  have length : (BitVec.ofNat 32 len).toNat = len := by
    rw [BitVec.toNat_ofNat]
    omega
  have value : (BitVec.ofNat 32 len).toInt = len := by
    rw [BitVec.toInt_eq_toNat_cond, length]
    split <;> omega
  unfold MemBlock.readFrom readMemBlock
  dsimp only
  rw [cut, value]
  split
  · next none =>
      have empty : len = 0 := by omega
      rw [empty]
      simp [readAt]
  · rw [length, same, pos]

/-- A seek and a write that end inside the area. -/
theorem seek_write_inside (small : block.Small) (low : 0 ≤ offset)
    (inside : offset.toNat + bytes.length ≤ block.bytes.length)
    : ((block.seek offset).write bytes).bytes = writeAt 0 block.bytes offset.toNat bytes := by
  obtain ⟨same, pos⟩ := seek_inside small low (by omega)
  have small' : (block.seek offset).Small := small
  rw [write_inside small' (by rw [pos, same]; exact inside), same, pos]

/-- The end of the area. -/
theorem device_size (small : block.Small) (codec : Codec ρ (BitVec 8))
    : (block.device codec).size = block.bytes.length := by
  have size := small.size
  unfold MemBlock.Small at small
  have start : (0 : XmU32) + block.size = block.size := BitVec.zero_add _
  have value : block.size.toInt = block.bytes.length := by
    rw [BitVec.toInt_eq_toNat_cond, size]
    split <;> omega
  have other : DEV_SEEK_END ≠ DEV_SEEK_CURRENT := by decide
  have positive : ¬ block.size.toInt < 0 := by omega
  unfold MemBlock.device seekMemBlock
  simp only [if_neg other, if_true, start, if_neg positive, if_neg (BitVec.lt_irrefl block.size)]
  exact value

end Inside

-----------------------------------------------------------------------------------------
-- Words and records in bytes

section Fields

variable {content content' bytes : List (BitVec 8)} {offset offset' : Nat}

/-- The word at a place. -/
def wordOn (content : List (BitVec 8)) (offset : Nat) : XmU32 :=
  wordCodec.decode (content.drop offset)

theorem wordOn_congr (same : ∀ i < 4, content[offset + i]? = content'[offset' + i]?)
    : wordOn content offset = wordOn content' offset' := by
  have byte (i : Nat) (small : i < 4)
      : (content.drop offset).getD i 0 = (content'.drop offset').getD i 0 := by
    rw [List.getD_eq_getElem?_getD, List.getD_eq_getElem?_getD, List.getElem?_drop,
      List.getElem?_drop, same i small]
  change Boot.wordAt (fun i => (content.drop offset).getD i 0) 0
    = Boot.wordAt (fun i => (content'.drop offset').getD i 0) 0
  unfold Boot.wordAt
  simp only [Nat.zero_add, byte 0 (by decide), byte 1 (by decide), byte 2 (by decide),
    byte 3 (by decide)]

/-- Words apart from the bytes written. -/
theorem wordOn_apart (apart : offset + 4 ≤ offset' ∨ offset' + bytes.length ≤ offset)
    (inside : offset + 4 ≤ content.length)
    : wordOn (writeAt 0 content offset' bytes) offset = wordOn content offset := by
  refine wordOn_congr fun i small => ?_
  rcases apart with before | after
  · exact getElem?_writeAt_before 0 offset' bytes (by omega) (by omega)
  · exact getElem?_writeAt_after 0 content (by omega)

/-- Words among the bytes written. -/
theorem wordOn_written (content : List (BitVec 8)) {k : Nat} (inside : k + 4 ≤ bytes.length)
    : wordOn (writeAt 0 content offset bytes) (offset + k) = wordOn bytes k := by
  refine wordOn_congr fun i small => ?_
  rw [Nat.add_assoc, getElem?_writeAt_inside 0 content offset bytes (by omega)]

theorem readAt_congr {n : Nat} (same : ∀ i < n, content[offset + i]? = content'[offset' + i]?)
    : readAt content offset n = readAt content' offset' n := by
  apply List.ext_getElem?
  intro i
  unfold readAt
  rw [List.getElem?_take, List.getElem?_take]
  split
  · next small => rw [List.getElem?_drop, List.getElem?_drop, same i small]
  · rfl

theorem readAt_apart {n : Nat} (apart : offset + n ≤ offset' ∨ offset' + bytes.length ≤ offset)
    (inside : offset + n ≤ content.length)
    : readAt (writeAt 0 content offset' bytes) offset n = readAt content offset n := by
  refine readAt_congr fun i small => ?_
  rcases apart with before | after
  · exact getElem?_writeAt_before 0 offset' bytes (by omega) (by omega)
  · exact getElem?_writeAt_after 0 content (by omega)

/-- The bytes written. -/
theorem readAt_written (content : List (BitVec 8)) (offset : Nat) (bytes : List (BitVec 8))
    : readAt (writeAt 0 content offset bytes) offset bytes.length = bytes :=
  hasBytes_iff_readAt.mp (hasBytes_writeAt 0 content offset bytes)

/-- A word of a part that was read. -/
theorem wordOn_readAt {n k : Nat} (inside : k + 4 ≤ n)
    : wordOn (readAt content offset n) k = wordOn content (offset + k) := by
  refine wordOn_congr fun i small => ?_
  unfold readAt
  rw [List.getElem?_take_of_lt (by omega), List.getElem?_drop, Nat.add_assoc]

theorem wordOn_encode (word : XmU32) (before after : List (BitVec 8))
    (length : before.length = offset)
    : wordOn (before ++ wordBytes word ++ after) offset = word := by
  rw [wordOn, List.append_assoc, List.drop_left' length]
  have alone : wordOn (wordBytes word ++ after) 0 = wordOn (wordBytes word) 0 := by
    refine wordOn_congr fun i small => ?_
    rw [List.getElem?_append_left]
    exact (Nat.zero_add i).trans_lt small
  rw [wordOn, wordOn, List.drop_zero, List.drop_zero] at alone
  rw [alone]
  exact wordCodec.decode_encode word

/-- A number that an `xm_s32_t` has. -/
def IsS32 (n : Int) : Prop := -2 ^ 31 ≤ n ∧ n < 2 ^ 31

theorem IsS32.toInt {n : Int} (inside : IsS32 n) : (BitVec.ofInt 32 n).toInt = n := by
  obtain ⟨low, high⟩ := inside
  rw [BitVec.toInt_ofInt]
  exact Int.bmod_eq_of_le (by omega) (by omega)

/-- Four numbers in a row. -/
structure Fits32 (ctrl : LogStreamCtrl) : Prop where
  tail : IsS32 ctrl.tail
  elem : IsS32 ctrl.elem
  head : IsS32 ctrl.head
  d : IsS32 ctrl.d

/-- `struct logStreamCtrl` at a place. -/
def ctrlOn (content : List (BitVec 8)) (offset : Nat) : LogStreamCtrl where
  tail := (wordOn content offset).toInt
  elem := (wordOn content (offset + 4)).toInt
  head := (wordOn content (offset + 8)).toInt
  d := (wordOn content (offset + 12)).toInt

/-- `struct logStreamInfo` of a header. -/
def infoOn (content : List (BitVec 8)) : LogStreamInfo where
  elemSize := (wordOn content 4).toInt
  maxNoElem := (wordOn content 8).toInt
  lock := (wordOn content 12).toInt
  cHdr := (wordOn content 16).toInt

theorem ctrlOn_apart (apart : offset + 16 ≤ offset' ∨ offset' + bytes.length ≤ offset)
    (inside : offset + 16 ≤ content.length)
    : ctrlOn (writeAt 0 content offset' bytes) offset = ctrlOn content offset := by
  unfold ctrlOn
  rw [wordOn_apart (by omega) (by omega), wordOn_apart (by omega) (by omega),
    wordOn_apart (by omega) (by omega), wordOn_apart (by omega) (by omega)]

theorem ctrlOn_written (content : List (BitVec 8)) {k : Nat} (inside : k + 16 ≤ bytes.length)
    : ctrlOn (writeAt 0 content offset bytes) (offset + k) = ctrlOn bytes k := by
  unfold ctrlOn
  simp only [Nat.add_assoc]
  rw [wordOn_written content (by omega), wordOn_written content (by omega),
    wordOn_written content (by omega), wordOn_written content (by omega)]

theorem wordOn_intBytes {n : Int} (inside : IsS32 n) (before after : List (BitVec 8))
    (length : before.length = offset)
    : (wordOn (before ++ intBytes n ++ after) offset).toInt = n := by
  rw [intBytes, wordOn_encode _ before after length, inside.toInt]

theorem ctrlOn_ctrlBytes {ctrl : LogStreamCtrl} (fits : Fits32 ctrl)
    (before after : List (BitVec 8)) (length : before.length = offset)
    : ctrlOn (before ++ ctrlBytes ctrl ++ after) offset = ctrl := by
  have tail := wordOn_intBytes fits.tail before
    (intBytes ctrl.elem ++ (intBytes ctrl.head ++ (intBytes ctrl.d ++ after))) length
  have elem := @wordOn_intBytes (offset + 4) _ fits.elem (before ++ intBytes ctrl.tail)
    (intBytes ctrl.head ++ (intBytes ctrl.d ++ after)) (by rw [List.length_append, length]; rfl)
  have head := @wordOn_intBytes (offset + 8) _ fits.head
    (before ++ intBytes ctrl.tail ++ intBytes ctrl.elem) (intBytes ctrl.d ++ after)
    (by rw [List.length_append, List.length_append, length]; rfl)
  have d := @wordOn_intBytes (offset + 12) _ fits.d
    (before ++ intBytes ctrl.tail ++ intBytes ctrl.elem ++ intBytes ctrl.head) after
    (by rw [List.length_append, List.length_append, List.length_append, length]; rfl)
  unfold ctrlOn ctrlBytes
  simp only [List.append_assoc] at tail elem head d ⊢
  rw [tail, elem, head, d]

end Fields

-----------------------------------------------------------------------------------------
-- Devices in blocks

/-- A block holds what a device with room for `capacity` records does. -/
structure Stores (codec : Codec ρ (BitVec 8)) (capacity : Nat) (block : MemBlock)
    (dev : KDevice ρ) : Prop where
  small : block.Small
  room : 56 + capacity * codec.size ≤ block.bytes.length
  size : dev.size = block.bytes.length
  magic1 : dev.hdr.magic1 = wordOn block.bytes 0
  info : dev.hdr.info = infoOn block.bytes
  ctrl : ∀ cHdr : Nat, cHdr < 2 → dev.hdr.ctrl cHdr = ctrlOn block.bytes (20 + 16 * cHdr)
  magic2 : dev.hdr.magic2 = wordOn block.bytes 52
  record : ∀ ptr < capacity, dev.record ptr
    = codec.decode (readAt block.bytes (56 + ptr * codec.size) codec.size)

section Stores

variable {codec : Codec ρ (BitVec 8)} {capacity : Nat} {block : MemBlock} {dev : KDevice ρ}

theorem recordOffset_toNat (codec : Codec ρ (BitVec 8)) (ptr : Nat)
    : 0 ≤ recordOffset codec ptr ∧ (recordOffset codec ptr).toNat = 56 + ptr * codec.size := by
  have product : (ptr : Int) * codec.size = (ptr * codec.size : Nat) := (Nat.cast_mul _ _).symm
  unfold recordOffset sizeofLogStreamHdr
  rw [product]
  omega

theorem record_inside {ptr : Nat} (below : ptr < capacity)
    (room : 56 + capacity * codec.size ≤ block.bytes.length)
    : 56 + ptr * codec.size + codec.size ≤ block.bytes.length := by
  have upTo := Nat.mul_le_mul_right codec.size (Nat.succ_le_of_lt below)
  rw [Nat.succ_mul] at upTo
  omega

theorem hdrAt_magic (bytes : List (BitVec 8))
    : (hdrAt bytes).magic1 = wordOn bytes 0 ∧ (hdrAt bytes).magic2 = wordOn bytes 52 :=
  ⟨rfl, rfl⟩

theorem hdrAt_info (bytes : List (BitVec 8)) : (hdrAt bytes).info = infoOn bytes := rfl

theorem hdrAt_ctrl (bytes : List (BitVec 8)) (cHdr : Nat)
    : (hdrAt bytes).ctrl cHdr = ctrlOn bytes (20 + 16 * cHdr) := by
  have offset : offsetofCtrl cHdr = (20 + 16 * cHdr : Nat) := by
    unfold offsetofCtrl
    omega
  change ctrlAt bytes (offsetofCtrl cHdr) = _
  rw [offset]
  rfl

/-- What a stream finds in a block is what the block holds. -/
theorem stores_device (codec : Codec ρ (BitVec 8)) (small : block.Small)
    (room : 56 + capacity * codec.size ≤ block.bytes.length)
    : Stores codec capacity block (block.device codec) := by
  have read : (block.device codec).hdr = hdrAt (readAt block.bytes 0 56) := by
    have header : block.readFrom 0 56 = readAt block.bytes 0 56 := by
      refine readFrom_inside small (Int.le_refl 0) ?_
      change 0 + 56 ≤ _
      omega
    exact congrArg hdrAt header
  have word {k : Nat} (inside : k + 4 ≤ 56)
      : wordOn (readAt block.bytes 0 56) k = wordOn block.bytes k := by
    rw [wordOn_readAt inside, Nat.zero_add]
  have ctrl {k : Nat} (inside : k + 16 ≤ 56)
      : ctrlOn (readAt block.bytes 0 56) k = ctrlOn block.bytes k := by
    unfold ctrlOn
    rw [word (by omega), word (by omega), word (by omega), word (by omega)]
  refine
    { small
      room
      size := device_size small codec
      magic1 := ?_
      info := ?_
      ctrl := ?_
      magic2 := ?_
      record := ?_ }
  · rw [read, (hdrAt_magic _).1, word (by decide)]
  · rw [read, hdrAt_info]
    unfold infoOn
    rw [word (by decide), word (by decide), word (by decide), word (by decide)]
  · intro cHdr below
    rw [read, hdrAt_ctrl, ctrl (by omega)]
  · rw [read, (hdrAt_magic _).2, word (by decide)]
  · intro ptr below
    obtain ⟨low, offset⟩ := recordOffset_toNat codec ptr
    have inside := record_inside below room
    rw [← offset] at inside ⊢
    exact congrArg codec.decode (readFrom_inside small low inside)

/-- What a stream writes to a device with room for `capacity` records. -/
inductive Writable (capacity : Nat) : DevWrite ρ → Prop
  | hdr {hdr : LogStreamHdr} (elemSize : IsS32 hdr.info.elemSize)
      (maxNoElem : IsS32 hdr.info.maxNoElem) (lock : IsS32 hdr.info.lock)
      (cHdr : IsS32 hdr.info.cHdr) (ctrl : ∀ cHdr : Nat, cHdr < 2 → Fits32 (hdr.ctrl cHdr))
      : Writable capacity (.hdr hdr)
  | ctrl {cHdr : Nat} (below : cHdr < 2) {ctrl : LogStreamCtrl} (fits : Fits32 ctrl)
      : Writable capacity (.ctrl cHdr ctrl)
  | cHdr {cHdr : Int} (fits : IsS32 cHdr) : Writable capacity (.cHdr cHdr)
  | record {ptr : Nat} (below : ptr < capacity) (log : ρ) : Writable capacity (.record ptr log)

/-- Where a write goes, and its bytes. -/
def place (codec : Codec ρ (BitVec 8)) : DevWrite ρ → Int × List (BitVec 8)
  | .hdr hdr => (0, hdrBytes hdr)
  | .ctrl cHdr ctrl => (offsetofCtrl cHdr, ctrlBytes ctrl)
  | .cHdr cHdr => (offsetofCHdr, intBytes cHdr)
  | .record ptr log => (recordOffset codec ptr, codec.encode log)
  | .output log => (0, codec.encode log)

/-- A stream writes inside its header and its records. -/
theorem place_inside (codec : Codec ρ (BitVec 8)) {write : DevWrite ρ}
    (writable : Writable capacity write)
    : 0 ≤ (place codec write).1
      ∧ (place codec write).1.toNat + (place codec write).2.length
        ≤ 56 + capacity * codec.size := by
  cases writable with
  | hdr => exact ⟨Int.le_refl 0, Nat.le_add_right 56 _⟩
  | @ctrl cHdr below ctrl fits =>
      have length : (ctrlBytes ctrl).length = 16 := rfl
      change 0 ≤ offsetofCtrl cHdr ∧ (offsetofCtrl cHdr).toNat + (ctrlBytes ctrl).length ≤ _
      unfold offsetofCtrl
      omega
  | cHdr =>
      have header : 16 + 4 ≤ 56 := by decide
      exact ⟨Int.natCast_nonneg 16, Nat.le_trans header (Nat.le_add_right 56 _)⟩
  | @record ptr below log =>
      obtain ⟨low, offset⟩ := recordOffset_toNat codec ptr
      refine ⟨low, ?_⟩
      change (recordOffset codec ptr).toNat + (codec.encode log).length ≤ _
      have upTo := Nat.mul_le_mul_right codec.size (Nat.succ_le_of_lt below)
      rw [Nat.succ_mul] at upTo
      rw [offset, codec.length_encode]
      omega

theorem devWrite_bytes (stores : Stores codec capacity block dev) {write : DevWrite ρ}
    (writable : Writable capacity write)
    : (block.devWrite codec write).bytes
      = writeAt 0 block.bytes (place codec write).1.toNat (place codec write).2 := by
  obtain ⟨low, inside⟩ := place_inside codec writable
  have written := seek_write_inside stores.small low (Nat.le_trans inside stores.room)
  cases writable <;> exact written

/-- What is apart from a write stays where it is. -/
structure Apart (codec : Codec ρ (BitVec 8)) (capacity : Nat) (content content' : List (BitVec 8))
    (offset len : Nat) : Prop where
  word : ∀ k, k + 4 ≤ 56 → k + 4 ≤ offset ∨ offset + len ≤ k →
    wordOn content' k = wordOn content k
  ctrl : ∀ k, k + 16 ≤ 56 → k + 16 ≤ offset ∨ offset + len ≤ k →
    ctrlOn content' k = ctrlOn content k
  record : ∀ ptr < capacity,
    56 + ptr * codec.size + codec.size ≤ offset ∨ offset + len ≤ 56 + ptr * codec.size →
    readAt content' (56 + ptr * codec.size) codec.size
      = readAt content (56 + ptr * codec.size) codec.size

theorem writeAt_apart (codec : Codec ρ (BitVec 8))
    (room : 56 + capacity * codec.size ≤ block.bytes.length) (offset : Nat)
    (bytes : List (BitVec 8))
    : Apart codec capacity block.bytes (writeAt 0 block.bytes offset bytes) offset
        bytes.length where
  word k inside apart := wordOn_apart apart (by omega)
  ctrl k inside apart := ctrlOn_apart apart (by omega)
  record ptr below apart := readAt_apart apart (record_inside below room)

/-- Records behind what was written. -/
theorem Apart.records {content content' : List (BitVec 8)} {offset len : Nat}
    (apart : Apart codec capacity content content' offset len) (header : offset + len ≤ 56)
    : ∀ ptr < capacity,
      readAt content' (56 + ptr * codec.size) codec.size
        = readAt content (56 + ptr * codec.size) codec.size :=
  fun ptr below => apart.record ptr below (Or.inr (by omega))

theorem Apart.info {content content' : List (BitVec 8)} {offset len : Nat}
    (apart : Apart codec capacity content content' offset len)
    (outside : 20 ≤ offset ∨ offset + len ≤ 4)
    : infoOn content' = infoOn content := by
  unfold infoOn
  rw [apart.word 4 (by decide) (by omega), apart.word 8 (by decide) (by omega),
    apart.word 12 (by decide) (by omega), apart.word 16 (by decide) (by omega)]

section Writes

variable {block' : MemBlock}

theorem Stores.writeRecord (stores : Stores codec capacity block dev)
    (small : block'.Small) (length : block'.bytes.length = block.bytes.length)
    {ptr : Nat} (below : ptr < capacity) (log : ρ)
    (bytes : block'.bytes
      = writeAt 0 block.bytes (56 + ptr * codec.size) (codec.encode log))
    : Stores codec capacity block' (dev.write (.record ptr log)) := by
  have apart := writeAt_apart codec stores.room (56 + ptr * codec.size) (codec.encode log)
  rw [← bytes, codec.length_encode] at apart
  refine
    { small
      room := length.symm ▸ stores.room
      size := stores.size.trans (by rw [length])
      magic1 := stores.magic1.trans (apart.word 0 (by decide) (Or.inl (by omega))).symm
      info := stores.info.trans (apart.info (Or.inl (by omega))).symm
      ctrl := ?_
      magic2 := stores.magic2.trans (apart.word 52 (by decide) (Or.inl (by omega))).symm
      record := ?_ }
  · intro cHdr below
    rw [apart.ctrl _ (by omega) (Or.inl (by omega))]
    exact stores.ctrl cHdr below
  intro other inside
  change Function.update dev.record ptr log other = _
  rcases Nat.lt_trichotomy other ptr with before | rfl | after
  · have upTo := Nat.mul_le_mul_right codec.size (Nat.succ_le_of_lt before)
    rw [Nat.succ_mul] at upTo
    rw [Function.update_of_ne (by omega), stores.record other inside,
      apart.record other inside (Or.inl (by omega))]
  · have written := readAt_written block.bytes (56 + other * codec.size) (codec.encode log)
    rw [codec.length_encode, ← bytes] at written
    rw [Function.update_self, written, codec.decode_encode]
  · have upTo := Nat.mul_le_mul_right codec.size (Nat.succ_le_of_lt after)
    rw [Nat.succ_mul] at upTo
    rw [Function.update_of_ne (by omega), stores.record other inside,
      apart.record other inside (Or.inr (by omega))]

/-- Four numbers written where a copy of the indices is. -/
theorem ctrlOn_write {ctrl : LogStreamCtrl} (fits : Fits32 ctrl) {offset : Nat}
    (bytes : block'.bytes = writeAt 0 block.bytes offset (ctrlBytes ctrl))
    : ctrlOn block'.bytes offset = ctrl := by
  have written := @ctrlOn_written _ offset block.bytes 0
    (show 0 + 16 ≤ (ctrlBytes ctrl).length from Nat.le_refl 16)
  have read := @ctrlOn_ctrlBytes 0 ctrl fits [] [] rfl
  rw [List.nil_append, List.append_nil] at read
  rw [bytes]
  exact written.trans read

theorem Stores.writeCtrl (stores : Stores codec capacity block dev) (small : block'.Small)
    (length : block'.bytes.length = block.bytes.length) {cHdr : Nat} (below : cHdr < 2)
    {ctrl : LogStreamCtrl} (fits : Fits32 ctrl)
    (bytes : block'.bytes = writeAt 0 block.bytes (20 + 16 * cHdr) (ctrlBytes ctrl))
    : Stores codec capacity block' (dev.write (.ctrl cHdr ctrl)) := by
  have apart : Apart codec capacity block.bytes block'.bytes (20 + 16 * cHdr) 16 :=
    bytes.symm ▸ writeAt_apart codec stores.room (20 + 16 * cHdr) (ctrlBytes ctrl)
  refine
    { small
      room := length.symm ▸ stores.room
      size := stores.size.trans (by rw [length])
      magic1 := stores.magic1.trans (apart.word 0 (by decide) (Or.inl (by omega))).symm
      info := stores.info.trans (apart.info (Or.inl (by omega))).symm
      ctrl := ?_
      magic2 := stores.magic2.trans (apart.word 52 (by decide) (Or.inr (by omega))).symm
      record := ?_ }
  · intro other inside
    change Function.update dev.hdr.ctrl (cHdr : Int) ctrl (other : Int) = _
    rcases Nat.lt_trichotomy other cHdr with before | rfl | after
    · rw [Function.update_of_ne (by omega), stores.ctrl other inside,
        apart.ctrl _ (by omega) (Or.inl (by omega))]
    · rw [Function.update_self, ctrlOn_write fits bytes]
    · rw [Function.update_of_ne (by omega), stores.ctrl other inside,
        apart.ctrl _ (by omega) (Or.inr (by omega))]
  · intro ptr within
    rw [apart.records (by omega) ptr within]
    exact stores.record ptr within

theorem Stores.writeCHdr (stores : Stores codec capacity block dev) (small : block'.Small)
    (length : block'.bytes.length = block.bytes.length) {cHdr : Int} (fits : IsS32 cHdr)
    (bytes : block'.bytes = writeAt 0 block.bytes 16 (intBytes cHdr))
    : Stores codec capacity block' (dev.write (.cHdr cHdr)) := by
  have apart : Apart codec capacity block.bytes block'.bytes 16 4 :=
    bytes.symm ▸ writeAt_apart codec stores.room 16 (intBytes cHdr)
  refine
    { small
      room := length.symm ▸ stores.room
      size := stores.size.trans (by rw [length])
      magic1 := stores.magic1.trans (apart.word 0 (by decide) (Or.inl (by decide))).symm
      info := ?_
      ctrl := ?_
      magic2 := stores.magic2.trans (apart.word 52 (by decide) (Or.inr (by decide))).symm
      record := ?_ }
  · have written := @wordOn_written _ 16 block.bytes 0
      (show 0 + 4 ≤ (intBytes cHdr).length from Nat.le_refl 4)
    have read := @wordOn_intBytes 0 cHdr fits [] [] rfl
    rw [List.nil_append, List.append_nil, ← written, Nat.add_zero, ← bytes] at read
    change { dev.hdr.info with cHdr } = _
    rw [stores.info]
    unfold infoOn
    rw [apart.word 4 (by decide) (Or.inl (by decide)),
      apart.word 8 (by decide) (Or.inl (by decide)),
      apart.word 12 (by decide) (Or.inl (by decide)), read]
  · intro other inside
    rw [apart.ctrl _ (by omega) (Or.inr (by omega))]
    exact stores.ctrl other inside
  · intro ptr below
    rw [apart.records (by decide) ptr below]
    exact stores.record ptr below

/-- The words of a header, as it is written. -/
theorem hdrBytes_words (hdr : LogStreamHdr)
    : wordOn (hdrBytes hdr) 0 = hdr.magic1 ∧ wordOn (hdrBytes hdr) 52 = hdr.magic2 := by
  have magic1 := @wordOn_encode 0 hdr.magic1 [] (infoBytes hdr.info
    ++ (ctrlBytes (hdr.ctrl 0) ++ (ctrlBytes (hdr.ctrl 1) ++ wordBytes hdr.magic2))) rfl
  have magic2 := @wordOn_encode 52 hdr.magic2 (wordBytes hdr.magic1 ++ (infoBytes hdr.info
    ++ (ctrlBytes (hdr.ctrl 0) ++ ctrlBytes (hdr.ctrl 1)))) [] rfl
  unfold hdrBytes
  simp only [List.append_assoc, List.nil_append, List.append_nil] at magic1 magic2 ⊢
  exact ⟨magic1, magic2⟩

theorem hdrBytes_info {hdr : LogStreamHdr} (elemSize : IsS32 hdr.info.elemSize)
    (maxNoElem : IsS32 hdr.info.maxNoElem) (lock : IsS32 hdr.info.lock)
    (cHdr : IsS32 hdr.info.cHdr) : infoOn (hdrBytes hdr) = hdr.info := by
  have elemSize := @wordOn_intBytes 4 _ elemSize (wordBytes hdr.magic1)
    (intBytes hdr.info.maxNoElem ++ (intBytes hdr.info.lock ++ (intBytes hdr.info.cHdr
      ++ (ctrlBytes (hdr.ctrl 0) ++ (ctrlBytes (hdr.ctrl 1) ++ wordBytes hdr.magic2))))) rfl
  have maxNoElem := @wordOn_intBytes 8 _ maxNoElem
    (wordBytes hdr.magic1 ++ intBytes hdr.info.elemSize)
    (intBytes hdr.info.lock ++ (intBytes hdr.info.cHdr
      ++ (ctrlBytes (hdr.ctrl 0) ++ (ctrlBytes (hdr.ctrl 1) ++ wordBytes hdr.magic2)))) rfl
  have lock := @wordOn_intBytes 12 _ lock
    (wordBytes hdr.magic1 ++ (intBytes hdr.info.elemSize ++ intBytes hdr.info.maxNoElem))
    (intBytes hdr.info.cHdr
      ++ (ctrlBytes (hdr.ctrl 0) ++ (ctrlBytes (hdr.ctrl 1) ++ wordBytes hdr.magic2))) rfl
  have cHdr := @wordOn_intBytes 16 _ cHdr
    (wordBytes hdr.magic1 ++ (intBytes hdr.info.elemSize ++ (intBytes hdr.info.maxNoElem
      ++ intBytes hdr.info.lock)))
    (ctrlBytes (hdr.ctrl 0) ++ (ctrlBytes (hdr.ctrl 1) ++ wordBytes hdr.magic2)) rfl
  unfold infoOn hdrBytes infoBytes
  simp only [List.append_assoc] at elemSize maxNoElem lock cHdr ⊢
  rw [elemSize, maxNoElem, lock, cHdr]

theorem hdrBytes_ctrl {hdr : LogStreamHdr}
    (fits : ∀ cHdr : Nat, cHdr < 2 → Fits32 (hdr.ctrl cHdr)) {cHdr : Nat} (below : cHdr < 2)
    : ctrlOn (hdrBytes hdr) (20 + 16 * cHdr) = hdr.ctrl cHdr := by
  have first := @ctrlOn_ctrlBytes 20 _ (fits 0 (by decide))
    (wordBytes hdr.magic1 ++ infoBytes hdr.info)
    (ctrlBytes (hdr.ctrl 1) ++ wordBytes hdr.magic2) rfl
  have second := @ctrlOn_ctrlBytes 36 _ (fits 1 (by decide))
    (wordBytes hdr.magic1 ++ (infoBytes hdr.info ++ ctrlBytes (hdr.ctrl 0)))
    (wordBytes hdr.magic2) rfl
  unfold hdrBytes
  simp only [List.append_assoc] at first second ⊢
  rcases Nat.le_one_iff_eq_zero_or_eq_one.mp (Nat.le_of_lt_succ below) with rfl | rfl
  · exact first
  · exact second

theorem Stores.writeHdr (stores : Stores codec capacity block dev) (small : block'.Small)
    (length : block'.bytes.length = block.bytes.length) {hdr : LogStreamHdr}
    (elemSize : IsS32 hdr.info.elemSize) (maxNoElem : IsS32 hdr.info.maxNoElem)
    (lock : IsS32 hdr.info.lock) (cHdr : IsS32 hdr.info.cHdr)
    (fits : ∀ cHdr : Nat, cHdr < 2 → Fits32 (hdr.ctrl cHdr))
    (bytes : block'.bytes = writeAt 0 block.bytes 0 (hdrBytes hdr))
    : Stores codec capacity block' (dev.write (.hdr hdr)) := by
  have apart : Apart codec capacity block.bytes block'.bytes 0 56 :=
    bytes.symm ▸ writeAt_apart codec stores.room 0 (hdrBytes hdr)
  have word {k : Nat} (inside : k + 4 ≤ 56)
      : wordOn block'.bytes k = wordOn (hdrBytes hdr) k := by
    have written := @wordOn_written (hdrBytes hdr) 0 block.bytes k inside
    rwa [← bytes, Nat.zero_add] at written
  obtain ⟨magic1, magic2⟩ := hdrBytes_words hdr
  refine
    { small
      room := length.symm ▸ stores.room
      size := stores.size.trans (by rw [length])
      magic1 := ?_
      info := ?_
      ctrl := ?_
      magic2 := ?_
      record := ?_ }
  · rw [word (by decide), magic1]
    rfl
  · have info := hdrBytes_info elemSize maxNoElem lock cHdr
    unfold infoOn at info ⊢
    rw [word (by decide), word (by decide), word (by decide), word (by decide), info]
    rfl
  · intro other below
    have ctrl := hdrBytes_ctrl fits below
    unfold ctrlOn at ctrl ⊢
    rw [word (by omega), word (by omega), word (by omega), word (by omega), ctrl]
    rfl
  · rw [word (by decide), magic2]
    rfl
  · intro ptr below
    rw [apart.records (by decide) ptr below]
    exact stores.record ptr below

/-- What is written takes its place, and the rest stays where it is. -/
theorem Stores.devWrite (stores : Stores codec capacity block dev) {write : DevWrite ρ}
    (writable : Writable capacity write)
    : Stores codec capacity (block.devWrite codec write) (dev.write write) := by
  obtain ⟨low, inside⟩ := place_inside codec writable
  have bytes := devWrite_bytes stores writable
  have length : (block.devWrite codec write).bytes.length = block.bytes.length := by
    rw [bytes]
    refine Nat.le_antisymm ?_ (length_le_writeAt 0 _ _ _)
    exact length_writeAt_le 0 (Nat.le_refl _) (Nat.le_trans inside stores.room)
  have small : (block.devWrite codec write).Small := by
    unfold MemBlock.Small
    rw [length]
    exact stores.small
  cases writable with
  | hdr elemSize maxNoElem lock cHdr ctrl =>
      exact stores.writeHdr small length elemSize maxNoElem lock cHdr ctrl bytes
  | @ctrl cHdr below ctrl fits =>
      have offset : (offsetofCtrl cHdr).toNat = 20 + 16 * cHdr := by
        unfold offsetofCtrl
        omega
      refine stores.writeCtrl small length below fits (bytes.trans ?_)
      rw [← offset]
      rfl
  | cHdr fits => exact stores.writeCHdr small length fits bytes
  | @record ptr below log =>
      refine stores.writeRecord small length below log (bytes.trans ?_)
      rw [← (recordOffset_toNat codec ptr).2]
      rfl

/-- The bytes behind the records, and the length of the area, stay as they are. -/
theorem devWrite_frame (stores : Stores codec capacity block dev) {write : DevWrite ρ}
    (writable : Writable capacity write)
    : (block.devWrite codec write).bytes.drop (56 + capacity * codec.size)
      = block.bytes.drop (56 + capacity * codec.size) := by
  obtain ⟨low, inside⟩ := place_inside codec writable
  rw [devWrite_bytes stores writable]
  apply List.ext_getElem?
  intro i
  rw [List.getElem?_drop, List.getElem?_drop]
  exact getElem?_writeAt_after 0 block.bytes (by omega)

end Writes

end Stores

end XtratuM.Objects
