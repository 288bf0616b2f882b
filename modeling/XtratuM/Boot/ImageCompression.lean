import XtratuM.Boot.XefImages

/-! The compression of an image: which segments `Compress` takes, where it writes, and what the
output buffer holds when all are taken. A segment that is refused is counted as two bytes less.
-/

namespace XtratuM.Boot

open ByteFiles

-----------------------------------------------------------------------------------------
-- Writes to memory

/-- The data begins with the bytes. -/
def BeginsWith (data : Nat → XmU8) (bytes : List XmU8) : Prop :=
  ∀ i < bytes.length, some (data i) = bytes[i]?

theorem beginsWith_append {data : Nat → XmU8} {first second : List XmU8}
    : BeginsWith data (first ++ second)
      ↔ BeginsWith data first ∧ BeginsWith (fun i => data (first.length + i)) second := by
  constructor
  · intro begins
    constructor
    · intro i inside
      rw [begins i (by rw [List.length_append]; omega), List.getElem?_append_left inside]
    · intro i inside
      rw [begins (first.length + i) (by rw [List.length_append]; omega),
        List.getElem?_append_right (Nat.le_add_right _ _), Nat.add_sub_cancel_left]
  · rintro ⟨one, two⟩ i inside
    rw [List.length_append] at inside
    by_cases before : i < first.length
    · rw [one i before, List.getElem?_append_left before]
    · have behind := two (i - first.length) (by omega)
      dsimp only at behind
      rw [Nat.add_sub_cancel' (Nat.le_of_not_lt before)] at behind
      rw [List.getElem?_append_right (Nat.le_of_not_lt before), behind]

/-- Memory has the bytes at the address. -/
def Memory.Has (memory : Memory) (address : Nat) (bytes : List XmU8) : Prop :=
  BeginsWith (fun i => memory (BitVec.ofNat 32 (address + i))) bytes

theorem Memory.has_append {memory : Memory} {address : Nat} {first second : List XmU8}
    : memory.Has address (first ++ second)
      ↔ memory.Has address first ∧ memory.Has (address + first.length) second := by
  unfold Memory.Has
  rw [beginsWith_append]
  simp only [Nat.add_assoc]

theorem applyWrites_append (memory : Memory) (first second : List Write)
    : applyWrites memory (first ++ second) = applyWrites (applyWrites memory first) second :=
  List.foldl_append

theorem applyWrites_apart {memory : Memory} {writes : List Write} {address : XmU32}
    (apart : ∀ write ∈ writes, write.address ≠ address)
    : applyWrites memory writes address = memory address := by
  induction writes generalizing memory with
  | nil => rfl
  | cons write writes ih =>
      have later := @ih (Function.update memory write.address write.byte)
        fun other member => apart other (List.mem_cons_of_mem _ member)
      refine later.trans ?_
      exact Function.update_of_ne (apart write List.mem_cons_self).symm _ _

theorem mem_writesAt {address : XmU32} {bytes : List XmU8} {write : Write}
    (member : write ∈ writesAt address bytes)
    : ∃ k < bytes.length, write.address = address + BitVec.ofNat 32 k := by
  obtain ⟨⟨byte, k⟩, listed, rfl⟩ := List.mem_map.mp member
  have inside := List.mem_zipIdx_iff_getElem?.mp listed
  exact ⟨k, (List.getElem?_eq_some_iff.mp inside).1, rfl⟩

theorem exists_mem_writesAt (address : XmU32) {bytes : List XmU8} {k : Nat}
    (inside : k < bytes.length)
    : ∃ write ∈ writesAt address bytes, write.address = address + BitVec.ofNat 32 k := by
  refine ⟨_, List.mem_map.mpr ⟨(bytes[k], k), ?_, rfl⟩, rfl⟩
  exact List.mem_zipIdx_iff_getElem?.mpr (List.getElem?_eq_getElem inside)

theorem writesAt_append (address : XmU32) (bytes : List XmU8) (byte : XmU8)
    : writesAt address (bytes ++ [byte])
      = writesAt address bytes ++ [⟨address + BitVec.ofNat 32 bytes.length, byte⟩] := by
  simp [writesAt, List.zipIdx_append]

/-- Bytes stay where they are when all writes are elsewhere. -/
theorem Memory.Has.applyWrites {memory : Memory} {address : Nat} {bytes : List XmU8}
    (holds : memory.Has address bytes) (below : address + bytes.length ≤ 2 ^ 32)
    {writes : List Write}
    (apart : ∀ write ∈ writes,
      write.address.toNat < address ∨ address + bytes.length ≤ write.address.toNat)
    : Memory.Has (Boot.applyWrites memory writes) address bytes := by
  intro i inside
  dsimp only
  rw [applyWrites_apart]
  · exact holds i inside
  · intro write member same
    have place := apart write member
    rw [same, BitVec.toNat_ofNat] at place
    omega

theorem Memory.Has.readAt {memory : Memory} {bytes : List XmU8} (holds : memory.Has 0 bytes)
    {offset n : Nat} (ending : offset + n ≤ bytes.length)
    : memory.Has offset (ByteFiles.readAt bytes offset n) := by
  intro i inside
  unfold ByteFiles.readAt at inside ⊢
  rw [List.length_take, List.length_drop] at inside
  have byte := holds (offset + i) (by omega)
  dsimp only at byte
  rw [Nat.zero_add] at byte
  rw [List.getElem?_take_of_lt (by omega), List.getElem?_drop]
  exact byte

theorem applyWrites_writesAt (memory : Memory) {address : XmU32} {bytes : List XmU8}
    (below : address.toNat + bytes.length ≤ 2 ^ 32)
    : Memory.Has (applyWrites memory (writesAt address bytes)) address.toNat bytes := by
  induction bytes using List.reverseRecOn with
  | nil =>
      intro i inside
      cases inside
  | append_singleton bytes byte ih =>
      rw [List.length_append, List.length_singleton] at below
      have earlier := ih (by omega)
      have ending : (address + BitVec.ofNat 32 bytes.length).toNat
          = address.toNat + bytes.length := toNat_add_ofNat (by omega)
      rw [writesAt_append, applyWrites_append]
      intro i inside
      rw [List.length_append, List.length_singleton] at inside
      dsimp only
      rcases Nat.lt_succ_iff_lt_or_eq.mp inside with before | rfl
      · have apart : ∀ write ∈ [Write.mk (address + BitVec.ofNat 32 bytes.length) byte],
            write.address.toNat < address.toNat
              ∨ address.toNat + bytes.length ≤ write.address.toNat := by
          intro write member
          rw [List.mem_singleton.mp member]
          exact Or.inr ending.ge
        rw [List.getElem?_append_left before]
        exact earlier.applyWrites (by omega) apart i before
      · have here : BitVec.ofNat 32 (address.toNat + bytes.length)
            = address + BitVec.ofNat 32 bytes.length := by
          rw [← ending, BitVec.ofNat_toNat, BitVec.setWidth_eq]
        rw [here, List.getElem?_append_right (Nat.le_refl _), Nat.sub_self]
        exact congrArg some (Function.update_self _ _ _)

theorem Memory.length_bytes (memory : Memory) (n : Nat) : (memory.bytes n).length = n := by
  simp [Memory.bytes]

theorem Memory.getElem?_bytes (memory : Memory) {n i : Nat} (inside : i < n)
    : (memory.bytes n)[i]? = some (memory (BitVec.ofNat 32 i)) := by
  simp [Memory.bytes, inside]

-----------------------------------------------------------------------------------------
-- One segment

/-- `LZSSCompress` writes no more than it may, and `LZSSUncompress` inverts it where the output is
large enough.
-/
structure LzssInverts (lzss : LzssCompress) : Prop where
  within : ∀ e bytes outSize, (lzss e bytes outSize).length ≤ outSize
  inverts
    : ∀ e bytes outSize (data : Nat → XmU8) textBuf, outSize < 2 ^ 32 →
      bytes.length + bytes.length / 2 < outSize →
      BeginsWith data (lzss e bytes outSize) →
      ∃ s, lzssUncompress data (lzss e bytes outSize).length bytes.length textBuf = .ok s
        ∧ s.written = bytes

/-- `Compress` takes a segment for which a segment and a half with a header is less than what is
left.
-/
def Takes (fileSize size : XmU32) : Prop := fileSize.toNat + fileSize.toNat / 2 + 12 < size.toNat

instance (fileSize size : XmU32) : Decidable (Takes fileSize size) := Nat.decLt _ _

/-- What `Compress` writes of a segment that it takes. -/
def packed (lzss : List XmU8 → Nat → List XmU8) (bytes : List XmU8) (size : XmU32) : List XmU8 :=
  let data := lzss bytes (size.toNat - 12)
  compressHdr (BitVec.ofNat 32 bytes.length) (BitVec.ofNat 32 data.length) ++ data

theorem length_compressHdr (size lzSize : XmU32) : (compressHdr size lzSize).length = 12 := rfl

theorem length_packed (lzss : List XmU8 → Nat → List XmU8) (bytes : List XmU8) (size : XmU32)
    : (packed lzss bytes size).length = 12 + (lzss bytes (size.toNat - 12)).length := by
  unfold packed
  rw [List.length_append, length_compressHdr]

/-- Nothing comes out of nothing. -/
theorem LzssInverts.some {lzss : LzssCompress} (inverts : LzssInverts lzss) {e outSize : Nat}
    {bytes : List XmU8} (word : outSize < 2 ^ 32)
    (room : bytes.length + bytes.length / 2 < outSize) (nonEmpty : bytes ≠ [])
    : lzss e bytes outSize ≠ [] := by
  intro nothing
  obtain ⟨s, returned, written⟩ := inverts.inverts e bytes outSize (fun _ => 0) (fun _ => 0) word
    room (by simp [nothing, BeginsWith])
  rw [nothing] at returned
  cases returned
  exact nonEmpty written.symm

/-- The writes for bytes from an address on: the addresses, and what memory has then. -/
structure WritesBytes (address : XmU32) (bytes : List XmU8) (writes : List Write) : Prop where
  addresses
    : ∀ write ∈ writes, ∃ k < bytes.length, write.address = address + BitVec.ofNat 32 k
  each
    : ∀ k < bytes.length, ∃ write ∈ writes, write.address = address + BitVec.ofNat 32 k
  has
    : address.toNat + bytes.length ≤ 2 ^ 32 →
      ∀ memory, Memory.Has (applyWrites memory writes) address.toNat bytes

/-- The data is written first, and then the header before it. -/
theorem writesBytes_packed (address : XmU32) (hdr data : List XmU8) (length : hdr.length = 12)
    : WritesBytes address (hdr ++ data)
        (writesAt (address + COMPRESS_HDR_SIZE) data ++ writesAt address hdr) := by
  have size : COMPRESS_HDR_SIZE = BitVec.ofNat 32 12 := rfl
  have offset : ∀ k, address + COMPRESS_HDR_SIZE + BitVec.ofNat 32 k
      = address + BitVec.ofNat 32 (12 + k) := by
    intro k
    rw [BitVec.add_assoc, size, BitVec.ofNat_add]
  constructor
  · intro write member
    rw [List.length_append, length]
    rcases List.mem_append.mp member with inData | inHdr
    · obtain ⟨k, inside, same⟩ := mem_writesAt inData
      exact ⟨12 + k, by omega, same.trans (offset k)⟩
    · obtain ⟨k, inside, same⟩ := mem_writesAt inHdr
      exact ⟨k, by omega, same⟩
  · intro k inside
    rw [List.length_append, length] at inside
    by_cases inHdr : k < 12
    · obtain ⟨write, member, same⟩ := exists_mem_writesAt address (length.symm ▸ inHdr)
      exact ⟨write, List.mem_append_right _ member, same⟩
    · obtain ⟨write, member, same⟩ := @exists_mem_writesAt (address + COMPRESS_HDR_SIZE) data
        (k - 12) (by omega)
      refine ⟨write, List.mem_append_left _ member, same.trans ?_⟩
      rw [offset, Nat.add_sub_cancel' (Nat.le_of_not_lt inHdr)]
  · intro below memory
    rw [List.length_append, length] at below
    rw [applyWrites_append]
    refine Memory.has_append.mpr ⟨applyWrites_writesAt _ (by omega), ?_⟩
    by_cases empty : data = []
    · rw [empty]
      intro i inside
      cases inside
    have start : (address + COMPRESS_HDR_SIZE).toNat = address.toNat + 12 := by
      have positive := List.length_pos_iff.mpr empty
      rw [size]
      exact toNat_add_ofNat (by omega)
    have written : Memory.Has (applyWrites memory (writesAt (address + COMPRESS_HDR_SIZE) data))
        (address + COMPRESS_HDR_SIZE).toNat data := applyWrites_writesAt memory (by omega)
    rw [start] at written
    rw [length]
    apply written.applyWrites (by omega)
    intro write member
    obtain ⟨k, inside, same⟩ := mem_writesAt member
    rw [same, toNat_add_ofNat (by omega)]
    omega

theorem refused_iff {fileSize size : XmU32} (small : fileSize.toNat < 2 ^ 31)
    : size ≤ fileSize + (fileSize >>> 1) + COMPRESS_HDR_SIZE ↔ ¬ Takes fileSize size := by
  have hdrSize : COMPRESS_HDR_SIZE.toNat = 12 := rfl
  have half : (fileSize >>> 1).toNat = fileSize.toNat / 2 := by
    rw [BitVec.toNat_ushiftRight, Nat.shiftRight_eq_div_pow]
  rw [BitVec.le_def, BitVec.toNat_add, BitVec.toNat_add, half, hdrSize]
  unfold Takes
  omega

theorem compress_takes {lzss : LzssCompress} (inverts : LzssInverts lzss) {e : Nat}
    {bytes : List XmU8} {fileSize size : XmU32} (address : XmU32)
    (length : bytes.length = fileSize.toNat) (nonEmpty : fileSize ≠ 0)
    (small : fileSize.toNat < 2 ^ 31) (takes : Takes fileSize size)
    : ∃ writes, compress (lzss e) fileSize size bytes address
        = (BitVec.ofNat 32 (packed (lzss e) bytes size).length, writes)
      ∧ WritesBytes address (packed (lzss e) bytes size) writes := by
  have word := size.isLt
  have less : (size - COMPRESS_HDR_SIZE).toNat = size.toNat - 12 := by
    unfold Takes at takes
    have hdrSize : COMPRESS_HDR_SIZE.toNat = 12 := rfl
    rw [BitVec.toNat_sub_of_le, hdrSize]
    rw [BitVec.le_def, hdrSize]
    omega
  have some : lzss e bytes (size.toNat - 12) ≠ [] := by
    apply inverts.some (by omega)
    · unfold Takes at takes
      omega
    · intro empty
      rw [empty, List.length_nil] at length
      exact nonEmpty (BitVec.eq_of_toNat_eq length.symm)
  have inSize : BitVec.ofNat 32 bytes.length = fileSize := by
    rw [length, BitVec.ofNat_toNat, BitVec.setWidth_eq]
  unfold compress
  rw [if_neg fun refused => (refused_iff small).mp refused takes]
  dsimp only
  rw [less, if_neg some, length_packed, ← inSize, Nat.add_comm, BitVec.ofNat_add]
  exact ⟨_, rfl, writesBytes_packed address _ _ (length_compressHdr _ _)⟩

theorem compress_refuses {lzss : List XmU8 → Nat → List XmU8} {bytes : List XmU8}
    {fileSize size : XmU32} (address : XmU32) (small : fileSize.toNat < 2 ^ 31)
    (refuses : ¬ Takes fileSize size)
    : compress lzss fileSize size bytes address = (-2, []) := by
  unfold compress
  rw [if_pos ((refused_iff small).mpr refuses)]
  rfl

-----------------------------------------------------------------------------------------
-- Uncompressing a segment

theorem wordAt_eq {data : Nat → XmU8} {offset : Nat} {w : XmU32}
    (holds : BeginsWith (fun i => data (offset + i)) (wordBytes w))
    : wordAt data offset = w := by
  have byte : ∀ i < 4, data (offset + i) = (wordBytes w).getD i 0 := by
    intro i inside
    rw [List.getD_eq_getElem?_getD, ← holds i inside]
    rfl
  have first := byte 0 (by decide)
  rw [Nat.add_zero] at first
  refine Eq.trans ?_ (wordCodec.decode_encode w)
  unfold wordAt
  rw [byte 3 (by decide), byte 2 (by decide), byte 1 (by decide), first]
  rfl

theorem wordBytes_wordAt (data : Nat → XmU8) (offset : Nat)
    : wordBytes (wordAt data offset)
      = [data offset, data (offset + 1), data (offset + 2), data (offset + 3)] := by
  have byte : ∀ (start : Nat) (b : XmU8), (∀ i < 8, (wordAt data offset).getLsbD (start + i)
      = b.getLsbD i) → (wordAt data offset).extractLsb' start 8 = b := by
    intro start b same
    apply BitVec.eq_of_getLsbD_eq
    intro i inside
    rw [BitVec.getLsbD_extractLsb', same i inside]
    simp [inside]
  unfold wordBytes
  rw [byte 0 (data offset), byte 8 (data (offset + 1)), byte 16 (data (offset + 2)),
    byte 24 (data (offset + 3))]
  all_goals
    intro i inside
    simp only [wordAt, BitVec.getLsbD_append]
    grind

theorem magic_bytes {data : Nat → XmU8} (magic : wordAt data 0 = COMPRESS_MAGIC)
    : data 0 = 0x23 ∧ data 1 = 0x14 := by
  have bytes := wordBytes_wordAt data 0
  rw [magic, show wordBytes COMPRESS_MAGIC = [0x23, 0x14, 0x75, 0x64] by decide] at bytes
  simp at bytes
  exact ⟨bytes.1.symm, bytes.2.1.symm⟩

theorem uncompress_packed {lzss : LzssCompress} (inverts : LzssInverts lzss) {e : Nat}
    {bytes : List XmU8} {fileSize size : XmU32} (length : bytes.length = fileSize.toNat)
    (small : fileSize.toNat < 2 ^ 31) (takes : Takes fileSize size) {data : Nat → XmU8}
    (begins : BeginsWith data (packed (lzss e) bytes size)) (textBuf : Nat → XmU8)
    : ∃ done, uncompress data fileSize textBuf = .ok done ∧ done.written = bytes
      ∧ 0 ≤ done.result := by
  have within := inverts.within e bytes (size.toNat - 12)
  have word := size.isLt
  have inSize : BitVec.ofNat 32 bytes.length = fileSize := by
    rw [length, BitVec.ofNat_toNat, BitVec.setWidth_eq]
  have lzSize : (BitVec.ofNat 32 (lzss e bytes (size.toNat - 12)).length).toNat
      = (lzss e bytes (size.toNat - 12)).length := by
    rw [BitVec.toNat_ofNat]
    omega
  obtain ⟨hdr, rest⟩ := beginsWith_append.mp begins
  have three : compressHdr (BitVec.ofNat 32 bytes.length)
      (BitVec.ofNat 32 (lzss e bytes (size.toNat - 12)).length)
        = wordBytes COMPRESS_MAGIC ++ (wordBytes fileSize
          ++ wordBytes (BitVec.ofNat 32 (lzss e bytes (size.toNat - 12)).length)) := by
    rw [inSize]
    rfl
  rw [three] at hdr
  obtain ⟨magic, sizes⟩ := beginsWith_append.mp hdr
  obtain ⟨first, second⟩ := beginsWith_append.mp sizes
  have magicWord : wordAt data 0 = COMPRESS_MAGIC := wordAt_eq (by simpa using magic)
  have sizeWord : wordAt data 4 = fileSize := wordAt_eq first
  have lzWord : wordAt data 8 = BitVec.ofNat 32 (lzss e bytes (size.toNat - 12)).length := by
    have four : ∀ w, (wordBytes w).length = 4 := fun _ => rfl
    apply wordAt_eq
    simpa only [← Nat.add_assoc, four, Nat.reduceAdd] using second
  obtain ⟨s, returned, written⟩ := inverts.inverts e bytes (size.toNat - 12)
    (fun i => data (12 + i)) textBuf (by omega) (by unfold Takes at takes; omega) rest
  unfold uncompress
  dsimp only
  rw [magicWord, sizeWord, lzWord, lzSize, if_neg (not_not.mpr rfl), if_neg (BitVec.lt_irrefl _),
    ← length, returned]
  refine ⟨_, rfl, written, ?_⟩
  dsimp only
  rw [if_pos (congrArg List.length written).symm, BitVec.toInt_eq_toNat_of_lt (by omega)]
  exact Int.natCast_nonneg _

-----------------------------------------------------------------------------------------
-- The segments of an image

/-- Segments that lie one after the other from a position to another. -/
def Consecutive : Nat → Nat → List XefSegmentEntry → Prop
  | len, last, [] => len = last
  | len, last, segment :: rest =>
      segment.offset.toNat = len ∧ Consecutive (len + segment.fileSize.toNat) last rest

theorem Consecutive.le {len last : Nat} {segments : List XefSegmentEntry}
    (consecutive : Consecutive len last segments)
    : len ≤ last := by
  induction segments generalizing len with
  | nil => exact Nat.le_of_eq consecutive
  | cons segment rest ih => exact (Nat.le_add_right _ _).trans (ih consecutive.2)

theorem Consecutive.concat {len last : Nat} {segments : List XefSegmentEntry}
    (consecutive : Consecutive len last segments) (segment : XefSegmentEntry)
    (next : segment.offset.toNat = last)
    : Consecutive len (last + segment.fileSize.toNat) (segments ++ [segment]) := by
  induction segments generalizing len with
  | nil =>
      cases consecutive
      exact ⟨next, rfl⟩
  | cons first rest ih => exact ⟨consecutive.1, ih consecutive.2⟩

/-- The bytes of a segment. -/
def bytesOf (image : List XmU8) (segment : XefSegmentEntry) : List XmU8 :=
  readAt image segment.offset.toNat segment.fileSize.toNat

/-- Non-empty segments lie one after the other from a position to the end of an image. -/
structure Whole (image : List XmU8) (len : XmU32) (segments : List XefSegmentEntry) : Prop where
  consecutive : Consecutive len.toNat image.length segments
  below : image.length < 2 ^ 31
  nonEmpty : ∀ segment ∈ segments, segment.fileSize ≠ 0

section Whole

variable {image : List XmU8} {len : XmU32} {segment : XefSegmentEntry}
  {segments : List XefSegmentEntry}

theorem Whole.ending (whole : Whole image len (segment :: segments))
    : len.toNat + segment.fileSize.toNat ≤ image.length :=
  whole.consecutive.2.le

theorem Whole.offset (whole : Whole image len (segment :: segments)) : segment.offset = len :=
  BitVec.eq_of_toNat_eq whole.consecutive.1

theorem Whole.length_bytes (whole : Whole image len (segment :: segments))
    : (bytesOf image segment).length = segment.fileSize.toNat := by
  have ending := whole.ending
  unfold bytesOf readAt
  rw [whole.offset, List.length_take, List.length_drop]
  omega

theorem Whole.small (whole : Whole image len (segment :: segments))
    : segment.fileSize.toNat < 2 ^ 31 := by
  have ending := whole.ending
  have below := whole.below
  omega

theorem Whole.tail (whole : Whole image len (segment :: segments))
    : Whole image (len + segment.fileSize) segments := by
  have ending := whole.ending
  have below := whole.below
  have sum : (len + segment.fileSize).toNat = len.toNat + segment.fileSize.toNat := by
    rw [BitVec.toNat_add]
    omega
  refine ⟨?_, below, fun other member => whole.nonEmpty other (List.mem_cons_of_mem _ member)⟩
  rw [sum]
  exact whole.consecutive.2

/-- A segment is the first of those that are left at some point. -/
theorem Whole.from (whole : Whole image len segments) (member : segment ∈ segments)
    : ∃ len rest, Whole image len (segment :: rest) := by
  induction segments generalizing len with
  | nil => cases member
  | cons first rest ih =>
      rcases List.mem_cons.mp member with rfl | member
      · exact ⟨len, rest, whole⟩
      · exact ih whole.tail member

end Whole

-----------------------------------------------------------------------------------------
-- The loop

section Loop

variable {lzss : LzssCompress} {image : List XmU8} {segment : XefSegmentEntry}
  {segments : List XefSegmentEntry} {e : Nat} {cLen len size : XmU32}

/-- What is written for a segment. -/
def packedSegment (lzss : LzssCompress) (image : List XmU8) (e : Nat) (size : XmU32)
    (segment : XefSegmentEntry) : List XmU8 :=
  packed (lzss e) (bytesOf image segment) size

theorem packedSegment_bounds (inverts : LzssInverts lzss)
    : 12 ≤ (packedSegment lzss image e size segment).length
      ∧ (packedSegment lzss image e size segment).length < 2 ^ 32 := by
  have within := inverts.within e (bytesOf image segment) (size.toNat - 12)
  have word := size.isLt
  unfold packedSegment
  rw [length_packed]
  omega

/-- A round of the loop leaves its segment where it was put, as long as it got. -/
def Compressed.after (segment : XefSegmentEntry) (cLen deflatedFileSize : XmU32)
    (writes : List Write) (rest : Compressed) : Compressed :=
  { writes := writes ++ rest.writes
    result := rest.result.map fun (table, last) =>
      ({ segment with deflatedFileSize, offset := cLen } :: table, last) }

theorem compressSegments_takes (inverts : LzssInverts lzss)
    (whole : Whole image len (segment :: segments)) (takes : Takes segment.fileSize size)
    {n : XmU32} (length : n = BitVec.ofNat 32 (packedSegment lzss image e size segment).length)
    : ∃ writes, WritesBytes cLen (packedSegment lzss image e size segment) writes
      ∧ compressSegments lzss image e cLen len size (segment :: segments)
        = .after segment cLen n writes
          (compressSegments lzss image (e + 1) (cLen + n) (len + segment.fileSize)
            (size - (cLen + n)) segments) := by
  obtain ⟨least, word⟩ := @packedSegment_bounds lzss image segment e size inverts
  obtain ⟨writes, compressed, written⟩ := @compress_takes lzss inverts e (bytesOf image segment)
    segment.fileSize size cLen whole.length_bytes (whole.nonEmpty _ List.mem_cons_self)
    whole.small takes
  have read : readAt image len.toNat segment.fileSize.toNat = bytesOf image segment := by
    rw [bytesOf, whole.offset]
  have some : n ≠ 0 := by
    intro zero
    have none := congrArg BitVec.toNat (length.symm.trans zero)
    rw [BitVec.toNat_ofNat, Nat.mod_eq_of_lt word] at none
    change _ = 0 at none
    omega
  refine ⟨writes, written, ?_⟩
  rw [compressSegments, read, compressed]
  unfold packedSegment at length
  dsimp only
  rw [← length, if_neg some]
  rfl

theorem compressSegments_refuses (whole : Whole image len (segment :: segments))
    (refuses : ¬ Takes segment.fileSize size)
    : compressSegments lzss image e cLen len size (segment :: segments)
      = .after segment cLen (-2) []
        (compressSegments lzss image (e + 1) (cLen - 2) (len + segment.fileSize)
          (size - (cLen - 2)) segments) := by
  have some : (-2 : XmU32) ≠ 0 := by decide
  rw [compressSegments, compress_refuses cLen whole.small refuses, BitVec.sub_eq_add_neg]
  dsimp only
  rw [if_neg some]
  rfl

/-- Every segment that is taken ends in the output buffer; one that is refused leaves the next two
bytes before.
-/
def FitsFrom (lzss : LzssCompress) (image : List XmU8) (buffer : XmU32)
    : Nat → XmU32 → XmU32 → List XefSegmentEntry → Prop
  | _, _, _, [] => True
  | e, cLen, size, segment :: rest =>
      if Takes segment.fileSize size then
        let n := (packedSegment lzss image e size segment).length
        let next := cLen + BitVec.ofNat 32 n
        cLen.toNat + n ≤ buffer.toNat ∧ FitsFrom lzss image buffer (e + 1) next (size - next) rest
      else
        FitsFrom lzss image buffer (e + 1) (cLen - 2) (size - (cLen - 2)) rest

/-- Every segment is taken and ends in the output buffer. -/
def TakesFrom (lzss : LzssCompress) (image : List XmU8) (buffer : XmU32)
    : Nat → XmU32 → XmU32 → List XefSegmentEntry → Prop
  | _, _, _, [] => True
  | e, cLen, size, segment :: rest =>
      let n := (packedSegment lzss image e size segment).length
      let next := cLen + BitVec.ofNat 32 n
      Takes segment.fileSize size ∧ cLen.toNat + n ≤ buffer.toNat
        ∧ TakesFrom lzss image buffer (e + 1) next (size - next) rest

instance decidableFitsFrom (lzss : LzssCompress) (image : List XmU8) (buffer : XmU32)
    : ∀ e cLen size segments, Decidable (FitsFrom lzss image buffer e cLen size segments)
  | _, _, _, [] => .isTrue trivial
  | e, _, size, segment :: rest =>
      have (next : XmU32) := decidableFitsFrom lzss image buffer (e + 1) next (size - next) rest
      inferInstanceAs (Decidable (if Takes segment.fileSize size then _ ∧ _ else _))

instance decidableTakesFrom (lzss : LzssCompress) (image : List XmU8) (buffer : XmU32)
    : ∀ e cLen size segments, Decidable (TakesFrom lzss image buffer e cLen size segments)
  | _, _, _, [] => .isTrue trivial
  | e, _, size, segment :: rest =>
      have (next : XmU32) := decidableTakesFrom lzss image buffer (e + 1) next (size - next) rest
      inferInstanceAs (Decidable (Takes segment.fileSize size ∧ _ ∧ _))

/-- Bytes are written in the buffer just when they end in it. -/
theorem WritesBytes.inside_iff {address buffer : XmU32} {bytes : List XmU8} {writes : List Write}
    (written : WritesBytes address bytes writes) (some : bytes ≠ [])
    (positive : buffer.msb = false)
    : (∀ write ∈ writes, write.address.toNat < buffer.toNat)
      ↔ address.toNat + bytes.length ≤ buffer.toNat := by
  have half : buffer.toNat < 2 ^ 31 := by
    rw [BitVec.msb_eq_decide, decide_eq_false_iff_not] at positive
    omega
  have start := address.isLt
  constructor
  · intro inside
    have reached : ∀ k < bytes.length, (address.toNat + k) % 2 ^ 32 < buffer.toNat := by
      intro k within
      obtain ⟨write, member, same⟩ := written.each k within
      have place := inside write member
      rw [same, BitVec.toNat_add, BitVec.toNat_ofNat, Nat.add_mod_mod] at place
      exact place
    have first := reached 0 (List.length_pos_iff.mpr some)
    rw [Nat.add_zero, Nat.mod_eq_of_lt start] at first
    -- The byte behind the buffer would be written.
    by_contra long
    have behind := reached (buffer.toNat - address.toNat) (by omega)
    omega
  · intro ending write member
    obtain ⟨k, within, same⟩ := written.addresses write member
    rw [same, toNat_add_ofNat (by omega)]
    omega

theorem compressSegments_inside_iff (inverts : LzssInverts lzss) {buffer : XmU32}
    (positive : buffer.msb = false) (whole : Whole image len segments)
    : (∀ write ∈ (compressSegments lzss image e cLen len size segments).writes,
        write.address.toNat < buffer.toNat)
      ↔ FitsFrom lzss image buffer e cLen size segments := by
  induction segments generalizing e cLen len size with
  | nil => exact ⟨fun _ => trivial, fun _ write member => nomatch member⟩
  | cons segment segments ih =>
      unfold FitsFrom
      split
      · next takes =>
          have least := (@packedSegment_bounds lzss image segment e size inverts).1
          obtain ⟨writes, written, compressed⟩ :=
            @compressSegments_takes lzss image segment segments e cLen len size inverts whole takes
              _ rfl
          have some := List.ne_nil_of_length_pos (Nat.lt_of_lt_of_le (by decide) least)
          rw [compressed]
          exact List.forall_mem_append.trans
            (and_congr (written.inside_iff some positive) (ih whole.tail))
      · next refuses =>
          rw [compressSegments_refuses whole refuses]
          exact List.forall_mem_append.trans
            ((and_iff_right (List.forall_mem_nil _)).trans (ih whole.tail))

theorem TakesFrom.fits {buffer : XmU32} (takes : TakesFrom lzss image buffer e cLen size segments)
    : FitsFrom lzss image buffer e cLen size segments := by
  induction segments generalizing e cLen size with
  | nil => trivial
  | cons segment segments ih =>
      unfold FitsFrom
      rw [if_pos takes.1]
      exact ⟨takes.2.1, ih takes.2.2⟩

/-- The loop leaves a table, with the segments as they are loaded. -/
theorem compressSegments_result (inverts : LzssInverts lzss) (whole : Whole image len segments)
    : ∃ table last, (compressSegments lzss image e cLen len size segments).result
        = some (table, last)
      ∧ List.Forall₂ (fun entry segment => entry.physAddr = segment.physAddr
        ∧ entry.fileSize = segment.fileSize) table segments := by
  induction segments generalizing e cLen len size with
  | nil => exact ⟨[], cLen, rfl, .nil⟩
  | cons segment segments ih =>
      by_cases takes : Takes segment.fileSize size
      · obtain ⟨writes, written, compressed⟩ :=
          @compressSegments_takes lzss image segment segments e cLen len size inverts whole takes
            _ rfl
        obtain ⟨table, last, result, same⟩ := ih whole.tail
        rw [compressed]
        exact ⟨_, last, congrArg (Option.map _) result, .cons ⟨rfl, rfl⟩ same⟩
      · obtain ⟨table, last, result, same⟩ := ih whole.tail
        rw [compressSegments_refuses whole takes]
        exact ⟨_, last, congrArg (Option.map _) result, .cons ⟨rfl, rfl⟩ same⟩

/-- Memory has what was written for a segment where its entry says. -/
structure Placed (lzss : LzssCompress) (image : List XmU8) (writes : List Write) (last : XmU32)
    (entry segment : XefSegmentEntry) : Prop where
  physAddr : entry.physAddr = segment.physAddr
  fileSize : entry.fileSize = segment.fileSize
  length : (bytesOf image segment).length = segment.fileSize.toNat
  small : segment.fileSize.toNat < 2 ^ 31
  has
    : ∃ e size, Takes segment.fileSize size
      ∧ entry.offset.toNat + (packedSegment lzss image e size segment).length ≤ last.toNat
      ∧ ∀ memory, Memory.Has (applyWrites memory writes) entry.offset.toNat
        (packedSegment lzss image e size segment)

/-- Where all segments are taken, they lie one after the other in the output. -/
theorem compressSegments_placed (inverts : LzssInverts lzss) {buffer : XmU32}
    (whole : Whole image len segments) (inside : cLen.toNat ≤ buffer.toNat)
    (takes : TakesFrom lzss image buffer e cLen size segments)
    : ∃ table last, (compressSegments lzss image e cLen len size segments).result
        = some (table, last)
      ∧ cLen.toNat ≤ last.toNat ∧ last.toNat ≤ buffer.toNat
      ∧ (∀ entry ∈ table.head?, entry.offset = cLen)
      ∧ (∀ write ∈ (compressSegments lzss image e cLen len size segments).writes,
        cLen.toNat ≤ write.address.toNat)
      ∧ List.Forall₂
        (Placed lzss image (compressSegments lzss image e cLen len size segments).writes last)
        table segments := by
  induction segments generalizing e cLen len size with
  | nil => exact ⟨[], cLen, rfl, Nat.le_refl _, inside, by simp, by simp [compressSegments], .nil⟩
  | cons segment segments ih =>
      obtain ⟨here, ending, later⟩ := takes
      have word := buffer.isLt
      obtain ⟨writes, written, compressed⟩ :=
        @compressSegments_takes lzss image segment segments e cLen len size inverts whole here _ rfl
      have next : (cLen + BitVec.ofNat 32 (packedSegment lzss image e size segment).length).toNat
          = cLen.toNat + (packedSegment lzss image e size segment).length :=
        toNat_add_ofNat (by omega)
      obtain ⟨table, last, result, above, below, _, behind, placed⟩ :=
        ih whole.tail (next.trans_le ending) later
      rw [next] at above behind
      rw [compressed]
      refine ⟨_, last, congrArg (Option.map _) result, by omega, below, ?_, ?_, .cons ?_ ?_⟩
      · intro entry first
        cases first
        rfl
      · intro write member
        rcases List.mem_append.mp member with first | rest
        · obtain ⟨k, within, same⟩ := written.addresses write first
          rw [same, toNat_add_ofNat (by omega)]
          omega
        · have place := behind write rest
          omega
      · refine ⟨rfl, rfl, whole.length_bytes, whole.small, e, size, here, above, ?_⟩
        intro memory
        have first := written.has (by omega) memory
        have kept := first.applyWrites (by omega) fun write member => Or.inr (behind write member)
        rwa [← applyWrites_append] at kept
      · apply placed.imp
        rintro entry other ⟨physAddr, fileSize, length, small, e', size', took, fits, has⟩
        refine ⟨physAddr, fileSize, length, small, e', size', took, fits, ?_⟩
        intro memory
        have kept := has (applyWrites memory writes)
        rwa [← applyWrites_append] at kept

/-- Where some segment is refused, the last of these has two bytes less than it takes: the output
ends there, or the next header begins there.
-/
theorem compressSegments_refused (inverts : LzssInverts lzss) {buffer : XmU32}
    (whole : Whole image len segments)
    (fits : FitsFrom lzss image buffer e cLen size segments)
    (refused : ¬ TakesFrom lzss image buffer e cLen size segments)
    : ∃ table last entry start,
      (compressSegments lzss image e cLen len size segments).result = some (table, last)
      ∧ entry ∈ table ∧ entry.offset = start + 2
      ∧ (start = last
        ∨ ∃ fileSize lzSize, start.toNat + 12 ≤ last.toNat ∧ last.toNat ≤ buffer.toNat
          ∧ ∀ memory, Memory.Has
            (applyWrites memory (compressSegments lzss image e cLen len size segments).writes)
            start.toNat (compressHdr fileSize lzSize)) := by
  induction segments generalizing e cLen len size with
  | nil => exact absurd trivial refused
  | cons segment segments ih =>
      unfold FitsFrom at fits
      by_cases takes : Takes segment.fileSize size
      · rw [if_pos takes] at fits
        obtain ⟨writes, written, compressed⟩ :=
          @compressSegments_takes lzss image segment segments e cLen len size inverts whole takes
            _ rfl
        obtain ⟨table, last, entry, start, result, member, offset, place⟩ :=
          ih whole.tail fits.2 fun later => refused ⟨takes, fits.1, later⟩
        rw [compressed]
        refine ⟨_, last, entry, start, congrArg (Option.map _) result,
          List.mem_cons_of_mem _ member, offset, place.imp_right ?_⟩
        rintro ⟨fileSize, lzSize, ending, below, has⟩
        refine ⟨fileSize, lzSize, ending, below, fun memory => ?_⟩
        have kept := has (applyWrites memory writes)
        rwa [← applyWrites_append] at kept
      · rw [if_neg takes] at fits
        rw [compressSegments_refuses whole takes]
        by_cases later : TakesFrom lzss image buffer (e + 1) (cLen - 2) (size - (cLen - 2)) segments
        · -- All others are taken: this one is the last that is refused.
          have offset : cLen = cLen - 2 + 2 := (BitVec.sub_add_cancel cLen 2).symm
          cases segments with
          | nil =>
              exact ⟨_, cLen - 2, _, cLen - 2, rfl, List.mem_cons_self, offset, Or.inl rfl⟩
          | cons next segments =>
              obtain ⟨table, last, result, _, below, first, _, placed⟩ :=
                compressSegments_placed inverts whole.tail
                  ((Nat.le_add_right _ _).trans later.2.1) later
              cases placed with
              | @cons entry _ table _ here _ =>
                  obtain ⟨e', size', _, ending, has⟩ := here.has
                  have least := (@packedSegment_bounds lzss image next e' size' inverts).1
                  rw [first entry rfl] at ending has
                  have hdr := fun memory => (Memory.has_append.mp (has memory)).1
                  exact ⟨_, last, _, cLen - 2, congrArg (Option.map _) result,
                    List.mem_cons_self, offset, Or.inr ⟨_, _, by omega, below, hdr⟩⟩
        · obtain ⟨table, last, entry, start, result, member, offset, place⟩ :=
            ih whole.tail fits later
          exact ⟨_, last, entry, start, congrArg (Option.map _) result,
            List.mem_cons_of_mem _ member, offset, place⟩

end Loop

end XtratuM.Boot
