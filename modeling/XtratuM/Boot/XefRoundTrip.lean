import XtratuM.Boot.ContainerRoundTrip
import XtratuM.Boot.Literals

/-! XEF images that are built, parsed and loaded. An image that is not compressed comes back when it
has a segment or a custom file; a compressed one when besides `Compress` takes every segment.
-/

namespace XtratuM.Boot

open ByteFiles

-----------------------------------------------------------------------------------------
-- Images as they are gathered

/-- The segments of an image lie one after the other, and the image is below half the memory. -/
structure Gathered (image : XefImage) : Prop where
  consecutive : Consecutive 0 image.imageLength.toNat image.segmentTab
  length : image.image.length = image.imageLength.toNat
  below : image.imageLength.toNat < 2 ^ 31

theorem emptyImage_gathered : Gathered emptyImage :=
  ⟨rfl, rfl, by decide⟩

theorem readSegment_gathered {s s' : Fd × XefImage} {physAddr virtAddr offset fileSize : XmU32}
    (returned : readSegment s physAddr virtAddr offset fileSize = .ok s')
    (gathered : Gathered s.2) (short : s.1.content.length ≤ OFF_MAX)
    : Gathered s'.2 ∧ s'.1.content = s.1.content := by
  obtain ⟨_, malloc, returned⟩ := bind_eq_ok.mp returned
  have read : (s.1.readFrom offset fileSize).1.length ≤ OFF_MAX := by
    unfold Fd.readFrom Fd.read readAt
    dsimp only
    rw [Fd.lseek_content, List.length_take, List.length_drop]
    omega
  have content := s.1.readFrom_content offset fileSize
  dsimp only at returned
  split at returned
  · cases returned
  · next all =>
      cases returned
      rw [not_not] at all
      have limit : OFF_MAX < 2 ^ 31 := by decide
      have below := gathered.below
      have sum : (s.2.imageLength + fileSize).toNat
          = s.2.imageLength.toNat + fileSize.toNat := by
        rw [BitVec.toNat_add]
        omega
      have half : (s.2.imageLength + fileSize).toNat < 2 ^ 31 := by
        unfold doMalloc at malloc
        split at malloc
        · cases malloc
        · next positive =>
            rw [BitVec.msb_eq_decide, decide_eq_true_iff] at positive
            omega
      refine ⟨⟨?_, ?_, half⟩, content⟩
      · change Consecutive 0 (s.2.imageLength + fileSize).toNat _
        rw [sum]
        refine gathered.consecutive.concat
          { physAddr, virtAddr, fileSize, deflatedFileSize := fileSize,
            offset := s.2.imageLength } ?_
        rfl
      · change (s.2.image ++ _).length = (s.2.imageLength + fileSize).toNat
        rw [List.length_append, all, gathered.length, sum]

theorem loadPhdrs_gathered {pHdr : List Phdr} {s s' : Fd × XefImage}
    (returned : pHdr.foldlM loadPhdr s = .ok s') (gathered : Gathered s.2)
    (short : s.1.content.length ≤ OFF_MAX)
    : Gathered s'.2 := by
  induction pHdr generalizing s with
  | nil =>
      cases returned
      exact gathered
  | cons first rest ih =>
      obtain ⟨s₁, here, later⟩ := bind_eq_ok.mp returned
      unfold loadPhdr at here
      split at here
      · cases here
        exact ih later gathered short
      · obtain ⟨gathered₁, content⟩ := readSegment_gathered here gathered short
        exact ih later gathered₁ (content ▸ short)

theorem openFile_ok {file : List XmU8} {fd : Fd} (opened : openFile file = .ok fd)
    : fd.content.length ≤ OFF_MAX := by
  unfold openFile at opened
  split at opened
  · next short =>
      cases opened
      exact short
  · cases opened

theorem gatherSegments_gathered {source : XefSource} {image : XefImage}
    (returned : gatherSegments source = .ok image)
    : Gathered image := by
  cases source with
  | elf pHdr pos file =>
      obtain ⟨fd, opened, returned⟩ := bind_eq_ok.mp returned
      obtain ⟨⟨fd', image'⟩, loaded, returned⟩ := bind_eq_ok.mp returned
      cases returned
      have short := openFile_ok opened
      exact loadPhdrs_gathered loaded emptyImage_gathered short
  | customFile file =>
      obtain ⟨fd, opened, returned⟩ := bind_eq_ok.mp returned
      obtain ⟨⟨fd', image'⟩, read, returned⟩ := bind_eq_ok.mp returned
      cases returned
      have short := openFile_ok opened
      exact (readSegment_gathered read emptyImage_gathered short).1

/-- The writes of `CompressImage` lie in its output buffer. -/
def XefImage.InBuffer (image : XefImage) (lzss : LzssCompress) : Prop :=
  ∀ write ∈ image.compressWrites lzss, write.address.toNat < image.bufferSize.toNat

/-- Every segment that `Compress` takes ends in the buffer, when there is one. -/
def XefImage.FitsBuffer (image : XefImage) (lzss : LzssCompress) : Prop :=
  image.bufferSize.msb = false →
    FitsFrom lzss image.image image.bufferSize 0 0 image.bufferSize image.segmentTab

/-- `Compress` takes every segment, and each ends in the buffer. -/
def XefImage.TakesAll (image : XefImage) (lzss : LzssCompress) : Prop :=
  TakesFrom lzss image.image image.bufferSize 0 0 image.bufferSize image.segmentTab

instance (image : XefImage) (lzss : LzssCompress) : Decidable (image.FitsBuffer lzss) :=
  inferInstanceAs (Decidable (image.bufferSize.msb = false → FitsFrom _ _ _ _ _ _ _))

instance (image : XefImage) (lzss : LzssCompress) : Decidable (image.TakesAll lzss) :=
  decidableTakesFrom _ _ _ _ _ _ _

section Image

variable {image : XefImage} {lzss : LzssCompress}

theorem Gathered.whole (gathered : Gathered image)
    (nonEmpty : ∀ segment ∈ image.segmentTab, segment.fileSize ≠ 0)
    : Whole image.image 0 image.segmentTab :=
  ⟨gathered.length ▸ gathered.consecutive, gathered.length ▸ gathered.below, nonEmpty⟩

theorem inBuffer_iff (inverts : LzssInverts lzss) (whole : Whole image.image 0 image.segmentTab)
    : image.InBuffer lzss ↔ image.FitsBuffer lzss := by
  unfold XefImage.InBuffer XefImage.FitsBuffer XefImage.compressWrites
  cases buffer : image.bufferSize.msb with
  | true => simp
  | false => exact (compressSegments_inside_iff inverts buffer whole).trans (by simp)

end Image

-----------------------------------------------------------------------------------------
-- The written file

/-- A file as the tool leaves it, with the header `hdr`. -/
structure XefWritten (digest : Digest) (program : XefProgram) (compressed : Bool)
    (payload : XefPayload) (file : List XmU8) (hdr : XefHdr) : Prop where
  signature : hdr.signature = XEF_SIGNATURE
  version : XM_GET_VERSION hdr.version = XEF_VERSION
  flags : hdr.flags = xefFlags program compressed
  fileSize : hdr.fileSize.toNat = file.length
  short : file.length ≤ OFF_MAX
  sealed : ∃ rest, Sealed xefHdrFormat digest file hdr rest
  segmentTab
    : TableInFile xefSegmentCodec file hdr.segmentTabOffset hdr.noSegments payload.segmentTab
  customFileTab
    : TableInFile xefCustomFileCodec file hdr.customFileTabOffset hdr.noCustomFiles
      program.customFileTab
  image
    : HasBytes file hdr.imageOffset.toNat (payload.image.bytes payload.deflatedImageLength.toNat)
  below : hdr.imageOffset.toNat + payload.deflatedImageLength.toNat ≤ OFF_MAX
  ending : file.length < hdr.imageOffset.toNat + payload.deflatedImageLength.toNat + 4

theorem segmentTabOffset_eq : segmentTabOffset.toNat = 96 := by decide

/-- The tables end at an offset where they could be written: none ends in the last bytes. -/
theorem customFileTabOffset_eq {noSegments : Nat} (room : 96 + 20 * noSegments ≤ OFF_MAX)
    : (customFileTabOffset noSegments).toNat = alignUp (96 + 20 * noSegments) 8
      ∧ alignUp (96 + 20 * noSegments) 8 ≤ OFF_MAX := by
  have size : xefSegmentCodec.size = 20 := rfl
  have limit : OFF_MAX = 2147483647 := rfl
  have start := segmentTabOffset_eq
  have sum : (segmentTabOffset + BitVec.ofNat 32 (xefSegmentCodec.size * noSegments)).toNat
      = 96 + 20 * noSegments := by
    rw [size, toNat_add_ofNat (by omega), start]
  unfold customFileTabOffset
  rw [alignTo_eight (by omega), sum]
  refine ⟨rfl, ?_⟩
  unfold alignUp
  omega

theorem imageOffset_eq {noSegments noCustomFiles : Nat}
    (room : (customFileTabOffset noSegments).toNat + 8 * noCustomFiles ≤ OFF_MAX)
    (aligned : (customFileTabOffset noSegments).toNat % 8 = 0)
    : (imageOffset noSegments noCustomFiles).toNat
      = (customFileTabOffset noSegments).toNat + 8 * noCustomFiles := by
  have size : xefCustomFileCodec.size = 8 := rfl
  have limit : OFF_MAX = 2147483647 := rfl
  have sum : (customFileTabOffset noSegments
      + BitVec.ofNat 32 (xefCustomFileCodec.size * noCustomFiles)).toNat
        = (customFileTabOffset noSegments).toNat + 8 * noCustomFiles := by
    rw [size, toNat_add_ofNat (by omega)]
  unfold imageOffset
  rw [alignTo_eight (by omega), sum]
  unfold alignUp
  omega

/-- The tables and the image in a file, before its header. -/
structure PartsWritten (program : XefProgram) (payload : XefPayload) (content : List XmU8)
    : Prop where
  segmentTab : HasBytes content 96 (xefSegmentCodec.encodeTable payload.segmentTab)
  customFileTab
    : HasBytes content (customFileTabOffset payload.segmentTab.length).toNat
      (xefCustomFileCodec.encodeTable program.customFileTab)
  image
    : HasBytes content
      (imageOffset payload.segmentTab.length program.customFileTab.length).toNat
      (payload.image.bytes payload.deflatedImageLength.toNat)
  noSegments : 96 + 20 * payload.segmentTab.length ≤ OFF_MAX
  customStart : 96 ≤ (customFileTabOffset payload.segmentTab.length).toNat
  noCustomFiles
    : (customFileTabOffset payload.segmentTab.length).toNat + 8 * program.customFileTab.length
      ≤ OFF_MAX
  imageStart
    : 96 ≤ (imageOffset payload.segmentTab.length program.customFileTab.length).toNat
  below
    : (imageOffset payload.segmentTab.length program.customFileTab.length).toNat
      + payload.deflatedImageLength.toNat ≤ OFF_MAX
  length
    : content.length ≤ (imageOffset payload.segmentTab.length program.customFileTab.length).toNat
      + payload.deflatedImageLength.toNat

theorem length_segmentTab (table : List XefSegmentEntry)
    : (xefSegmentCodec.encodeTable table).length = 20 * table.length :=
  xefSegmentCodec.length_encodeTable table

theorem length_customFileTab (table : List XefCustomFile)
    : (xefCustomFileCodec.encodeTable table).length = 8 * table.length :=
  xefCustomFileCodec.length_encodeTable table

theorem partsWritten {program : XefProgram} {payload : XefPayload} {fd₁ fd₂ fd₃ : Fd}
    (first : (Fd.lseek { content := [], pos := 0 } segmentTabOffset).doWrite XefError.write
      (xefSegmentCodec.encodeTable payload.segmentTab) = .ok fd₁)
    (second : (fd₁.lseek (customFileTabOffset payload.segmentTab.length)).doWrite XefError.write
      (xefCustomFileCodec.encodeTable program.customFileTab) = .ok fd₂)
    (third : (fd₂.lseek (imageOffset payload.segmentTab.length
        program.customFileTab.length)).doWrite XefError.write
      (payload.image.bytes payload.deflatedImageLength.toNat) = .ok fd₃)
    : PartsWritten program payload fd₃.content := by
  have start := segmentTabOffset_eq
  have eight : 0 < 8 := by decide
  obtain ⟨room₁, content₁⟩ := doWrite_lseek first (by rw [start]; decide)
  rw [start, length_segmentTab] at room₁
  obtain ⟨customStart, customBelow⟩ := customFileTabOffset_eq room₁
  have after : 96 + 20 * payload.segmentTab.length
      ≤ (customFileTabOffset payload.segmentTab.length).toNat :=
    customStart ▸ le_alignUp eight _
  obtain ⟨room₂, content₂⟩ := doWrite_lseek second (customStart ▸ customBelow)
  rw [length_customFileTab] at room₂
  have imageStart := imageOffset_eq room₂ (customStart ▸ alignUp_mod _ 8)
  obtain ⟨room₃, content₃⟩ := doWrite_lseek third (by omega)
  rw [Memory.length_bytes] at room₃
  refine ⟨?_, ?_, ?_, room₁, by omega, room₂, by omega, room₃, ?_⟩
  · rw [content₃, content₂, content₁, start]
    refine ((hasBytes_writeAt 0 _ _ _).writeAt 0 (Or.inl ?_)).writeAt 0 (Or.inl ?_)
    · rw [length_segmentTab]
      omega
    · rw [length_segmentTab]
      omega
  · rw [content₃, content₂]
    refine (hasBytes_writeAt 0 _ _ _).writeAt 0 (Or.inl ?_)
    rw [length_customFileTab]
    omega
  · rw [content₃]
    exact hasBytes_writeAt 0 _ _ _
  · rw [content₃, content₂, content₁, start]
    refine length_writeAt_le 0 (length_writeAt_le 0 (length_writeAt_le 0 ?_ ?_) ?_) ?_
    · exact Nat.zero_le _
    · rw [length_segmentTab]
      omega
    · rw [length_customFileTab]
      omega
    · rw [Memory.length_bytes]

/-- A table that is not empty ends behind the header. -/
theorem PartsWritten.long {program : XefProgram} {payload : XefPayload} {content : List XmU8}
    (parts : PartsWritten program payload content)
    (tables : payload.segmentTab ≠ [] ∨ program.customFileTab ≠ [])
    : 92 ≤ content.length := by
  rcases tables with some | some
  · have positive := List.length_pos_iff.mpr some
    have ending := parts.segmentTab.length_le
      (List.ne_nil_of_length_pos (by rw [length_segmentTab]; omega))
    omega
  · have positive := List.length_pos_iff.mpr some
    have customStart := parts.customStart
    have ending := parts.customFileTab.length_le
      (List.ne_nil_of_length_pos (by rw [length_customFileTab]; omega))
    omega

theorem writeXefImage_written {digest : Digest} {program : XefProgram} {compressed : Bool}
    {imageLength : XmU32} {payload : XefPayload} {file : List XmU8}
    (returned : writeXefImage digest program compressed imageLength payload = .ok file)
    (tables : payload.segmentTab ≠ [] ∨ program.customFileTab ≠ [])
    : ∃ hdr, XefWritten digest program compressed payload file hdr := by
  obtain ⟨fd₁, first, returned⟩ := bind_eq_ok.mp returned
  obtain ⟨fd₂, second, returned⟩ := bind_eq_ok.mp returned
  obtain ⟨fd₃, third, returned⟩ := bind_eq_ok.mp returned
  obtain ⟨⟨fileSize, fd₄⟩, padded, returned⟩ := bind_eq_ok.mp returned
  obtain ⟨⟨hdr, fd₅⟩, header, ends⟩ := bind_eq_ok.mp returned
  cases ends
  clear returned
  have limit : OFF_MAX < 2 ^ 31 := by decide
  have parts := partsWritten first second third
  have long := parts.long tables
  have hdrSize : xefHdrFormat.codec.size = 92 := rfl
  obtain ⟨content₄, short₄, size⟩ := fillWords_ok padded (parts.length.trans parts.below)
  have length₄ : fd₄.content.length = fd₃.content.length + padding fd₃.content.length := by
    rw [content₄, List.length_append, List.length_replicate]
  have sealed := writeHdr_sealed header rfl size (by rw [hdrSize]; omega)
  have length := sealed.length (by rw [hdrSize]; omega)
  have keeps : ∀ {position : Nat} {bytes : List XmU8}, 96 ≤ position →
      HasBytes fd₃.content position bytes → HasBytes fd₅.content position bytes := by
    intro position bytes behind holds
    refine sealed.keeps (by rw [hdrSize]; omega) ?_
    rw [content₄]
    exact holds.append _
  obtain ⟨sum, same⟩ := writeHdr_hdr header
  have signature : hdr.signature = XEF_SIGNATURE := by rw [same]; rfl
  have version : hdr.version = XM_SET_VERSION XEF_VERSION XEF_SUBVERSION XEF_REVISION := by
    rw [same]
    rfl
  have flags : hdr.flags = xefFlags program compressed := by rw [same]; rfl
  have sized : hdr.fileSize = fileSize := by rw [same]; rfl
  have segmentTab : hdr.segmentTabOffset = segmentTabOffset
      ∧ hdr.noSegments = BitVec.ofNat 32 payload.segmentTab.length := by
    rw [same]
    exact ⟨rfl, rfl⟩
  have customFileTab : hdr.customFileTabOffset = customFileTabOffset payload.segmentTab.length
      ∧ hdr.noCustomFiles = BitVec.ofNat 32 program.customFileTab.length := by
    rw [same]
    exact ⟨rfl, rfl⟩
  have image : hdr.imageOffset = imageOffset payload.segmentTab.length
      program.customFileTab.length := by
    rw [same]
    rfl
  have start := segmentTabOffset_eq
  have noSegments := parts.noSegments
  have noCustomFiles := parts.noCustomFiles
  have ending := parts.length
  refine ⟨hdr, signature, ?_, flags, ?_, length.trans_le short₄, ⟨_, sealed⟩, ⟨?_, ?_, ?_⟩,
    ⟨?_, ?_, ?_⟩, ?_, ?_, ?_⟩
  · rw [version]
    decide
  · rw [sized, size, length]
  · rw [segmentTab.1, start]
    exact keeps (Nat.le_refl _) parts.segmentTab
  · rw [segmentTab.2, toNat_ofNat_of_le (by omega)]
  · rw [segmentTab.1, start]
    exact noSegments
  · rw [customFileTab.1]
    exact keeps parts.customStart parts.customFileTab
  · rw [customFileTab.2, toNat_ofNat_of_le (by omega)]
  · rw [customFileTab.1]
    exact noCustomFiles
  · rw [image]
    exact keeps parts.imageStart parts.image
  · rw [image]
    exact parts.below
  · unfold padding at length₄
    rw [image]
    omega

-----------------------------------------------------------------------------------------
-- Parsing the file

theorem fileBytes_ok {file : List XmU8} {offset : Nat} {bytes : List XmU8}
    (holds : HasBytes file offset bytes)
    : fileBytes file offset bytes.length = .ok bytes := by
  have read := hasBytes_iff_readAt.mp holds
  unfold fileBytes
  dsimp only
  rw [read, if_pos rfl]

theorem fileBytes_take {file : List XmU8} {n : Nat} (long : n ≤ file.length)
    : fileBytes file 0 n = .ok (file.take n) := by
  have length : (file.take n).length = n := by
    rw [List.length_take]
    omega
  exact if_pos length

theorem fileBytes_drop {file : List XmU8} {offset n : Nat} (ending : offset + n = file.length)
    : fileBytes file offset n = .ok (file.drop offset) := by
  have length : (file.drop offset).length = n := by
    rw [List.length_drop]
    omega
  have read : readAt file offset n = file.drop offset := List.take_of_length_le length.le
  unfold fileBytes
  dsimp only
  rw [read, if_pos length]

theorem TableInFile.xefTable {α : Type} {codec : Codec α XmU8} {file : List XmU8}
    {offset n : XmU32} {table : List α} (inFile : TableInFile codec file offset n table)
    (positive : 0 < codec.size)
    : Boot.xefTable codec file offset n = .ok table := by
  have limit : OFF_MAX < 2 ^ 31 := by decide
  have below := inFile.below
  have few : table.length ≤ codec.size * table.length := Nat.le_mul_of_pos_left _ positive
  have count : n.toInt.toNat = table.length := by
    rw [BitVec.toInt_eq_toNat_of_lt (by have := inFile.count; omega), inFile.count]
    rfl
  unfold Boot.xefTable
  rw [count, ← codec.length_encodeTable, fileBytes_ok inFile.holds]
  exact congrArg Except.ok (codec.decodeTable_encodeTable table)

theorem xefFlags_digest (program : XefProgram) (compressed : Bool)
    : xefFlags program compressed &&& XEF_DIGEST ≠ 0 := by
  intro none
  have bit := congrArg (fun flags => flags.getLsbD 0) none
  simp [xefFlags, XEF_DIGEST] at bit

theorem xefFlags_compressed (program : XefProgram) (compressed : Bool)
    : xefFlags program compressed &&& XEF_COMPRESSED ≠ 0 ↔ compressed = true := by
  have type : program.type &&& XEF_TYPE_MASK &&& XEF_COMPRESSED = 0 := by
    rw [BitVec.and_assoc]
    exact BitVec.and_zero
  unfold xefFlags
  rw [BitVec.and_or_distrib_right, BitVec.and_or_distrib_right, type]
  cases compressed
  · simp [XEF_DIGEST, XEF_COMPRESSED]
  · simp [XEF_DIGEST, XEF_COMPRESSED]

theorem XefWritten.checks {digest : Digest} {program : XefProgram} {compressed : Bool}
    {payload : XefPayload} {file : List XmU8} {hdr : XefHdr}
    (written : XefWritten digest program compressed payload file hdr)
    : checkXefDigest digest file hdr = .ok () := by
  obtain ⟨rest, sealed⟩ := written.sealed
  have long : 92 ≤ file.length := sealed.long
  have offset : (BitVec.ofNat 32 AFTER_DIGEST).toNat = AFTER_DIGEST := rfl
  have before : AFTER_DIGEST ≤ file.length := le_trans (by decide) long
  have back : (hdr.fileSize - BitVec.ofNat 32 AFTER_DIGEST).toNat
      = file.length - AFTER_DIGEST := by
    rw [BitVec.toNat_sub_of_le (by rw [BitVec.le_def, written.fileSize, offset]; exact before),
      written.fileSize, offset]
  have computed : xefDigest digest file hdr = .ok hdr.digest := by
    unfold xefDigest
    rw [fileBytes_take (le_trans (by decide) long), back,
      fileBytes_drop (Nat.add_sub_cancel' before)]
    exact congrArg Except.ok sealed.digest_eq
  unfold checkXefDigest
  rw [written.flags, if_pos (xefFlags_digest program compressed), computed]
  exact if_neg fun wrong => wrong rfl

/-- What `ParseXefFile` makes of a file. -/
def parsedXef (file : List XmU8) (beyond : Memory) (program : XefProgram) (payload : XefPayload)
    (hdr : XefHdr) : XefFile :=
  { flags := hdr.flags
    imageLength := hdr.imageLength
    segmentTab := payload.segmentTab.map XefSegmentEntry.toXefSegment
    customFileTab := program.customFileTab
    image := fun offset => fileMemory file beyond (hdr.imageOffset + offset) }

theorem XefWritten.parses {digest : Digest} {program : XefProgram} {compressed : Bool}
    {payload : XefPayload} {file : List XmU8} {hdr : XefHdr}
    (written : XefWritten digest program compressed payload file hdr) (beyond : Memory)
    : parseXefFile digest file beyond = .ok (parsedXef file beyond program payload hdr) := by
  obtain ⟨rest, sealed⟩ := written.sealed
  have bytes : fileBytes file 0 xefHdrCodec.size = .ok (file.take xefHdrCodec.size) :=
    fileBytes_take sealed.long
  have decoded : xefHdrCodec.decode (file.take xefHdrCodec.size) = hdr := sealed.hdr_eq
  unfold parseXefFile
  rw [bytes]
  simp only [ok_bind]
  rw [decoded, if_neg (not_not.mpr written.signature), if_neg fun wrong => wrong.1 written.version,
    written.checks, written.segmentTab.xefTable (by decide),
    written.customFileTab.xefTable (by decide)]
  rfl

-----------------------------------------------------------------------------------------
-- A file without tables

theorem doWrite_nil {fd fd' : Fd} {failed : XefError}
    (written : fd.doWrite failed [] = .ok fd')
    : fd'.content = fd.content := by
  obtain ⟨_, rfl⟩ := doWrite_ok written
  rfl

theorem fileBytes_length {file bytes : List XmU8} {offset n : Nat}
    (returned : fileBytes file offset n = .ok bytes)
    : n ≤ file.length := by
  unfold fileBytes readAt at returned
  dsimp only at returned
  split at returned
  · next length =>
      rw [List.length_take, List.length_drop] at length
      omega
  · cases returned

/-- The size in the header bounds what the digest is taken of. -/
theorem parseXefFile_back {digest : Digest} {file : List XmU8} {beyond : Memory} {xef : XefFile}
    {hdr : XefHdr} (returned : parseXefFile digest file beyond = .ok xef)
    (decoded : xefHdrCodec.decode (file.take xefHdrCodec.size) = hdr)
    (digested : hdr.flags &&& XEF_DIGEST ≠ 0)
    : (hdr.fileSize - BitVec.ofNat 32 AFTER_DIGEST).toNat ≤ file.length := by
  obtain ⟨bytes, front, returned⟩ := bind_eq_ok.mp returned
  have whole := fileBytes_take (fileBytes_length front)
  rw [front] at whole
  cases whole
  dsimp only at returned
  rw [decoded] at returned
  split at returned
  · cases returned
  · split at returned
    · cases returned
    · obtain ⟨_, checked, _⟩ := bind_eq_ok.mp returned
      unfold checkXefDigest at checked
      rw [if_pos digested] at checked
      obtain ⟨computed, found, _⟩ := bind_eq_ok.mp checked
      obtain ⟨_, _, found⟩ := bind_eq_ok.mp found
      obtain ⟨back, read, _⟩ := bind_eq_ok.mp found
      exact fileBytes_length read

/-- Without tables and image nothing is written before the size is taken, and the header says that
the file is empty.
-/
theorem writeXefImage_empty {digest : Digest} {program : XefProgram} {compressed : Bool}
    {imageLength : XmU32} {payload : XefPayload} {file : List XmU8}
    (returned : writeXefImage digest program compressed imageLength payload = .ok file)
    (noSegments : payload.segmentTab = []) (noCustomFiles : program.customFileTab = [])
    (nothing : payload.deflatedImageLength = 0) (beyond : Memory) (xef : XefFile)
    : parseXefFile digest file beyond ≠ .ok xef := by
  obtain ⟨fd₁, first, returned⟩ := bind_eq_ok.mp returned
  obtain ⟨fd₂, second, returned⟩ := bind_eq_ok.mp returned
  obtain ⟨fd₃, third, returned⟩ := bind_eq_ok.mp returned
  obtain ⟨⟨fileSize, fd₄⟩, padded, returned⟩ := bind_eq_ok.mp returned
  obtain ⟨⟨hdr, fd₅⟩, header, ends⟩ := bind_eq_ok.mp returned
  cases ends
  clear returned
  rw [noSegments] at first
  rw [noCustomFiles] at second
  rw [nothing] at third
  have content₃ : fd₃.content = [] := by
    rw [doWrite_nil third, Fd.lseek_content, doWrite_nil second, Fd.lseek_content,
      doWrite_nil first, Fd.lseek_content]
  obtain ⟨content₄, _, size⟩ := fillWords_ok padded (by rw [content₃]; exact Nat.zero_le _)
  rw [content₃] at content₄
  rw [content₄] at size
  have empty : fileSize = 0 := BitVec.eq_of_toNat_eq size
  obtain ⟨sum, same⟩ := writeHdr_hdr header
  have flags : hdr.flags = xefFlags program compressed := by rw [same]; rfl
  have sized : hdr.fileSize = 0 := by rw [same]; exact empty
  have content : fd₅.content = xefHdrCodec.encode hdr := by
    have written := writeHdr_content header
    rw [content₄] at written
    exact written.trans (List.append_nil _)
  have length : fd₅.content.length = xefHdrCodec.size := by
    rw [content, xefHdrCodec.length_encode]
  have decoded : xefHdrCodec.decode (fd₅.content.take xefHdrCodec.size) = hdr := by
    rw [List.take_of_length_le length.le, content, xefHdrCodec.decode_encode]
  intro parsed
  have back := parseXefFile_back parsed decoded (flags ▸ xefFlags_digest program compressed)
  rw [sized, length] at back
  exact absurd back (by decide)

-----------------------------------------------------------------------------------------
-- Loading the segments

/-- The segments at their load addresses. -/
def segmentWrites (image : List XmU8) (mAreas : List XmcMemoryArea)
    (segments : List XefSegmentEntry) : List Write :=
  segments.flatMap fun segment =>
    writesAt (xmcVAddr2PAddr mAreas segment.physAddr) (bytesOf image segment)

/-- An entry has the load address of a segment, and unpacks to its bytes. -/
def Unpacks (xef : XefFile) (image : List XmU8) (entry segment : XefSegmentEntry) : Prop :=
  entry.physAddr = segment.physAddr
    ∧ ∀ textBuf, ∃ unpacked, unpackSegment xef entry.toXefSegment textBuf = .ok unpacked
      ∧ unpacked.bytes = bytesOf image segment ∧ unpacked.whole = true

theorem loadSegments_unpacks {xef : XefFile} {image : List XmU8} (mAreas : List XmcMemoryArea)
    {table segments : List XefSegmentEntry}
    (unpacks : List.Forall₂ (Unpacks xef image) table segments) (textBuf : Nat → XmU8)
    : loadSegments xef mAreas (table.map XefSegmentEntry.toXefSegment) textBuf
      = .ok (segmentWrites image mAreas segments) := by
  induction unpacks generalizing textBuf with
  | nil => rfl
  | @cons entry segment table segments first _ ih =>
      obtain ⟨physAddr, unpacks⟩ := first
      obtain ⟨unpacked, returned, bytes, whole⟩ := unpacks textBuf
      unfold segmentWrites at ih ⊢
      rw [List.map_cons, loadSegments, returned, List.flatMap_cons, ← physAddr, ← bytes]
      simp only [ok_bind, whole, if_true, ih]
      rfl

theorem length_writesAt (address : XmU32) (bytes : List XmU8)
    : (writesAt address bytes).length = bytes.length := by
  rw [writesAt, List.length_map, List.length_zipIdx]

theorem length_segmentWrites {image : List XmU8} {len : XmU32} {segments : List XefSegmentEntry}
    (whole : Whole image len segments) (mAreas : List XmcMemoryArea)
    : (segmentWrites image mAreas segments).length
      = (segments.map fun segment => segment.fileSize.toNat).sum := by
  induction segments generalizing len with
  | nil => rfl
  | cons segment segments ih =>
      have later := ih whole.tail
      unfold segmentWrites at later ⊢
      rw [List.flatMap_cons, List.length_append, later, List.map_cons, List.sum_cons,
        length_writesAt, whole.length_bytes]

/-- An entry cannot be uncompressed. -/
def Fails (xef : XefFile) (entry : XefSegmentEntry) : Prop :=
  ∀ textBuf, ∃ unpacked, unpackSegment xef entry.toXefSegment textBuf = .ok unpacked
    ∧ unpacked.bytes = [] ∧ unpacked.whole = false

/-- No more is written than the segments are long, and less when one cannot be uncompressed. -/
theorem loadSegments_length (xef : XefFile) (mAreas : List XmcMemoryArea)
    (table : List XefSegmentEntry) (textBuf : Nat → XmU8)
    : ∃ writes, loadSegments xef mAreas (table.map XefSegmentEntry.toXefSegment) textBuf
        = .ok writes
      ∧ writes.length ≤ (table.map fun entry => entry.fileSize.toNat).sum
      ∧ ∀ entry ∈ table, Fails xef entry → entry.fileSize ≠ 0 →
        writes.length < (table.map fun entry => entry.fileSize.toNat).sum := by
  induction table generalizing textBuf with
  | nil => exact ⟨[], rfl, Nat.le_refl _, by simp⟩
  | cons entry table ih =>
      obtain ⟨unpacked, returned, size⟩ := unpackSegment_returns xef entry.toXefSegment textBuf
      obtain ⟨later, rest, most, less⟩ := ih unpacked.textBuf
      have length := length_writesAt (xmcVAddr2PAddr mAreas entry.physAddr) unpacked.bytes
      rw [List.map_cons, loadSegments, returned, List.map_cons, List.sum_cons]
      simp only [ok_bind, rest]
      cases whole : unpacked.whole with
      | false =>
          refine ⟨_, rfl, by omega, ?_⟩
          intro failing member fails some
          rcases List.mem_cons.mp member with rfl | member
          · obtain ⟨again, same, nothing, _⟩ := fails textBuf
            cases returned.symm.trans same
            have positive : 0 < failing.fileSize.toNat :=
              Nat.pos_of_ne_zero fun zero => some (BitVec.eq_of_toNat_eq zero)
            rw [length, nothing, List.length_nil]
            omega
          · have shorter := less failing member fails some
            omega
      | true =>
          refine ⟨_, rfl, ?_, ?_⟩
          · rw [List.length_append]
            omega
          · intro failing member fails some
            rw [List.length_append]
            rcases List.mem_cons.mp member with rfl | member
            · obtain ⟨again, same, _, part⟩ := fails textBuf
              cases returned.symm.trans same
              exact absurd (whole.symm.trans part) (by decide)
            · have shorter := less failing member fails some
              omega

-----------------------------------------------------------------------------------------
-- What the segments are in the file

section Parsed

variable {digest : Digest} {program : XefProgram} {compressed : Bool} {payload : XefPayload}
  {file : List XmU8} {hdr : XefHdr}

/-- The bytes of the image, read at an offset of a segment. -/
theorem XefWritten.byte (written : XefWritten digest program compressed payload file hdr)
    (beyond : Memory) {offset : XmU32} {i : Nat}
    (inside : offset.toNat + i < payload.deflatedImageLength.toNat)
    : (parsedXef file beyond program payload hdr).image (offset + BitVec.ofNat 32 i)
      = payload.image (BitVec.ofNat 32 (offset.toNat + i)) := by
  have below := written.below
  have limit : OFF_MAX < 2 ^ 31 := by decide
  have place : (hdr.imageOffset + (offset + BitVec.ofNat 32 i)).toNat
      = hdr.imageOffset.toNat + (offset.toNat + i) := by
    have sum : (offset + BitVec.ofNat 32 i).toNat = offset.toNat + i :=
      toNat_add_ofNat (by omega)
    rw [BitVec.toNat_add, sum]
    omega
  have holds := written.image (offset.toNat + i) (by rw [Memory.length_bytes]; exact inside)
  rw [Memory.getElem?_bytes _ inside] at holds
  unfold parsedXef fileMemory
  dsimp only
  rw [place, List.getD_eq_getElem?_getD, holds]
  rfl

theorem XefWritten.begins (written : XefWritten digest program compressed payload file hdr)
    (beyond : Memory) {offset : XmU32} {bytes : List XmU8}
    (has : payload.image.Has offset.toNat bytes)
    (ending : offset.toNat + bytes.length ≤ payload.deflatedImageLength.toNat)
    : BeginsWith (fun i => (parsedXef file beyond program payload hdr).image
        (offset + BitVec.ofNat 32 i)) bytes := by
  intro i inside
  dsimp only
  rw [written.byte beyond (by omega)]
  exact has i inside

theorem BeginsWith.map_range {data : Nat → XmU8} {bytes : List XmU8}
    (begins : BeginsWith data bytes)
    : (List.range bytes.length).map data = bytes := by
  apply List.ext_getElem?
  intro i
  by_cases inside : i < bytes.length
  · rw [← begins i inside]
    simp [inside]
  · rw [List.getElem?_eq_none (by simpa using inside),
      List.getElem?_eq_none (Nat.le_of_not_lt inside)]

theorem XefWritten.compressed_iff (written : XefWritten digest program compressed payload file hdr)
    (beyond : Memory)
    : (parsedXef file beyond program payload hdr).flags &&& XEF_COMPRESSED ≠ 0
      ↔ compressed = true := by
  rw [← xefFlags_compressed program compressed, ← written.flags]
  rfl

theorem XefWritten.unpacks_plain (written : XefWritten digest program false payload file hdr)
    (beyond : Memory) {image : List XmU8} {segment : XefSegmentEntry}
    (has : payload.image.Has segment.offset.toNat (bytesOf image segment))
    (length : (bytesOf image segment).length = segment.fileSize.toNat)
    (ending : segment.offset.toNat + segment.fileSize.toNat ≤ payload.deflatedImageLength.toNat)
    : Unpacks (parsedXef file beyond program payload hdr) image segment segment := by
  have begins := written.begins beyond has (length.symm ▸ ending)
  have plain := mt (written.compressed_iff beyond).mp Bool.false_ne_true
  refine ⟨rfl, fun textBuf => ?_⟩
  unfold unpackSegment
  dsimp only
  rw [if_neg plain, ← length, begins.map_range]
  exact ⟨_, rfl, rfl, rfl⟩

theorem XefWritten.unpacks_packed (written : XefWritten digest program true payload file hdr)
    (beyond : Memory) {lzss : LzssCompress} (inverts : LzssInverts lzss) {image : List XmU8}
    {heap : Memory} {writes : List Write} {entry segment : XefSegmentEntry}
    (memory : payload.image = applyWrites heap writes)
    (placed : Placed lzss image writes payload.deflatedImageLength entry segment)
    : Unpacks (parsedXef file beyond program payload hdr) image entry segment := by
  obtain ⟨e, size, takes, ending, has⟩ := placed.has
  have begins := written.begins beyond (memory ▸ has heap) ending
  have packed := (written.compressed_iff beyond).mpr rfl
  refine ⟨placed.physAddr, fun textBuf => ?_⟩
  obtain ⟨done, returned, bytes, result⟩ :=
    uncompress_packed inverts placed.length placed.small takes begins textBuf
  unfold unpackSegment
  dsimp only
  rw [if_pos packed, placed.fileSize, returned]
  exact ⟨_, rfl, bytes, decide_eq_true result⟩

/-- An entry that does not begin with the magic number cannot be uncompressed. -/
theorem XefWritten.fails (written : XefWritten digest program true payload file hdr)
    (beyond : Memory) {entry : XefSegmentEntry}
    (wrong : ¬ ((parsedXef file beyond program payload hdr).image entry.offset = 0x23
      ∧ (parsedXef file beyond program payload hdr).image (entry.offset + 1) = 0x14))
    : Fails (parsedXef file beyond program payload hdr) entry := by
  have packed := (written.compressed_iff beyond).mpr rfl
  intro textBuf
  unfold unpackSegment uncompress
  dsimp only
  rw [if_pos packed, if_pos fun magic => wrong ?_]
  · exact ⟨_, rfl, rfl, rfl⟩
  · have bytes := magic_bytes magic
    simpa using bytes

end Parsed

-----------------------------------------------------------------------------------------
-- Building and loading

/-- The file is accepted, whatever is behind it in memory, and every segment is written at its load
address.
-/
def Restored (digest : Digest) (image : XefImage) (file : List XmU8) : Prop :=
  ∀ beyond mAreas textBuf, ∃ xef, parseXefFile digest file beyond = .ok xef
    ∧ loadXefFile xef mAreas textBuf
      = .ok (segmentWrites image.image mAreas image.segmentTab)

section Build

variable {digest : Digest} {lzss : LzssCompress} {heap : Memory} {program : XefProgram}
  {image : XefImage} {file : List XmU8}

theorem plain_restored (built : buildXefImage digest lzss heap program false image = .ok file)
    (gathered : Gathered image) (whole : Whole image.image 0 image.segmentTab)
    (tables : image.segmentTab ≠ [] ∨ program.customFileTab ≠ [])
    : Restored digest image file := by
  obtain ⟨payload, same, written⟩ := bind_eq_ok.mp built
  cases same
  obtain ⟨hdr, written⟩ := writeXefImage_written written tables
  have all : Memory.Has (plainImage heap image).image 0 image.image :=
    @applyWrites_writesAt heap 0 image.image (by
      have below := gathered.below
      rw [gathered.length]
      change 0 + _ ≤ _
      omega)
  intro beyond mAreas textBuf
  refine ⟨_, written.parses beyond, loadSegments_unpacks mAreas ?_ textBuf⟩
  apply List.forall₂_same.mpr
  intro segment member
  obtain ⟨len, rest, first⟩ := whole.from member
  have ending := first.ending
  rw [← first.offset] at ending
  exact written.unpacks_plain beyond (all.readAt ending) first.length_bytes
    (gathered.length ▸ ending)

theorem compressImage_ok {payload : XefPayload}
    (returned : compressImage lzss heap image = .ok payload)
    : image.bufferSize.msb = false
      ∧ (image.compressed lzss).result = some (payload.segmentTab, payload.deflatedImageLength)
      ∧ payload.image = applyWrites heap (image.compressed lzss).writes := by
  obtain ⟨_, malloc, returned⟩ := bind_eq_ok.mp returned
  have positive : image.bufferSize.msb = false := by
    unfold doMalloc at malloc
    split at malloc
    · cases malloc
    · next positive => exact Bool.eq_false_of_not_eq_true positive
  dsimp only at returned
  split at returned
  · cases returned
  · next result =>
      cases returned
      exact ⟨positive, result, rfl⟩

theorem packed_restored (built : buildXefImage digest lzss heap program true image = .ok file)
    (inverts : LzssInverts lzss) (whole : Whole image.image 0 image.segmentTab)
    (tables : image.segmentTab ≠ [] ∨ program.customFileTab ≠ [])
    (takes : image.TakesAll lzss)
    : Restored digest image file := by
  obtain ⟨payload, compressed, written⟩ := bind_eq_ok.mp built
  obtain ⟨positive, result, memory⟩ := compressImage_ok compressed
  obtain ⟨table, last, result', _, _, _, _, placed⟩ :=
    compressSegments_placed inverts whole (Nat.zero_le _) takes
  cases result.symm.trans result'
  have tables' : payload.segmentTab ≠ [] ∨ program.customFileTab ≠ [] := by
    rcases tables with some | some
    · exact Or.inl fun none => some (List.length_eq_zero_iff.mp
        (placed.length_eq.symm.trans (List.length_eq_zero_iff.mpr none)))
    · exact Or.inr some
  obtain ⟨hdr, written⟩ := writeXefImage_written written tables'
  intro beyond mAreas textBuf
  refine ⟨_, written.parses beyond, loadSegments_unpacks mAreas ?_ textBuf⟩
  exact placed.imp fun entry segment here => written.unpacks_packed beyond inverts memory here

/-- Without segments and custom files the file is not accepted. -/
theorem restored_tables {compressed : Bool}
    (built : buildXefImage digest lzss heap program compressed image = .ok file)
    (gathered : Gathered image) (restored : Restored digest image file)
    : image.segmentTab ≠ [] ∨ program.customFileTab ≠ [] := by
  by_contra none
  obtain ⟨noSegments, noCustomFiles⟩ := not_or.mp none
  rw [not_not] at noSegments noCustomFiles
  obtain ⟨payload, made, written⟩ := bind_eq_ok.mp built
  obtain ⟨xef, parsed, _⟩ := restored (fun _ => 0) [] fun _ => 0
  have nothing : payload.segmentTab = [] ∧ payload.deflatedImageLength = 0 := by
    cases compressed with
    | false =>
        cases made
        have ending := gathered.consecutive
        rw [noSegments] at ending
        exact ⟨noSegments, BitVec.eq_of_toNat_eq ending.symm⟩
    | true =>
        obtain ⟨_, result, _⟩ := compressImage_ok made
        unfold XefImage.compressed at result
        rw [noSegments] at result
        obtain ⟨table, last⟩ := Prod.mk.inj (Option.some.inj result)
        exact ⟨table.symm, last.symm⟩
  exact writeXefImage_empty written nothing.1 noCustomFiles nothing.2 _ xef parsed

theorem map_fileSize_eq {table segments : List XefSegmentEntry}
    (same : List.Forall₂ (fun entry segment => entry.physAddr = segment.physAddr
      ∧ entry.fileSize = segment.fileSize) table segments)
    : table.map (fun entry => entry.fileSize.toNat)
      = segments.map fun segment => segment.fileSize.toNat := by
  induction same with
  | nil => rfl
  | cons first _ ih => rw [List.map_cons, List.map_cons, first.2, ih]

/-- The segment that was refused is not there: its entry points into a header or at the end. -/
theorem refused_fails {payload : XefPayload} {hdr : XefHdr}
    (written : XefWritten digest program true payload file hdr) {writes : List Write}
    (memory : payload.image = applyWrites heap writes) {entry : XefSegmentEntry} {start : XmU32}
    (offset : entry.offset = start + 2)
    (place : start = payload.deflatedImageLength
      ∨ ∃ fileSize lzSize, start.toNat + 12 ≤ payload.deflatedImageLength.toNat
        ∧ ∀ memory, Memory.Has (applyWrites memory writes) start.toNat
          (compressHdr fileSize lzSize))
    : Fails (parsedXef file (fun _ => 0) program payload hdr) entry := by
  have below := written.below
  have limit : OFF_MAX < 2 ^ 31 := by decide
  have two : (2 : XmU32).toNat = 2 := rfl
  apply written.fails
  rintro ⟨first, second⟩
  rcases place with rfl | ⟨fileSize, lzSize, ending, has⟩
  · -- The file ends before the second byte of the magic number.
    have byte : (parsedXef file (fun _ => 0) program payload hdr).image (entry.offset + 1) = 0 := by
      have behind := written.ending
      have place : (hdr.imageOffset + (entry.offset + 1)).toNat
          = hdr.imageOffset.toNat + payload.deflatedImageLength.toNat + 3 := by
        have three : payload.deflatedImageLength + 2 + 1
            = payload.deflatedImageLength + BitVec.ofNat 32 3 := by
          rw [BitVec.add_assoc]
          rfl
        rw [offset, three, BitVec.toNat_add, toNat_add_ofNat (by omega)]
        omega
      unfold parsedXef fileMemory
      dsimp only
      rw [place, List.getD_eq_getElem?_getD, List.getElem?_eq_none (by omega)]
      rfl
    rw [byte] at second
    exact absurd second (by decide)
  · -- The third byte of the magic number is not its first.
    have sum : entry.offset.toNat = start.toNat + 2 := by
      rw [offset, BitVec.toNat_add, two]
      omega
    have byte := written.byte (fun _ => 0) (show entry.offset.toNat + 0 < _ by omega)
    have third : some (payload.image (BitVec.ofNat 32 (start.toNat + 2)))
        = some (COMPRESS_MAGIC.extractLsb' 16 8) := by
      rw [memory]
      exact has heap 2 (Nat.lt_of_lt_of_eq (by decide) (length_compressHdr _ _).symm)
    rw [Nat.add_zero, sum, BitVec.add_zero, first] at byte
    rw [← byte] at third
    exact absurd third (by decide)

theorem refused_not_restored (built : buildXefImage digest lzss heap program true image = .ok file)
    (inverts : LzssInverts lzss) (whole : Whole image.image 0 image.segmentTab)
    (fits : image.FitsBuffer lzss) (refused : ¬ image.TakesAll lzss)
    : ¬ Restored digest image file := by
  intro restored
  obtain ⟨payload, compressed, written⟩ := bind_eq_ok.mp built
  obtain ⟨positive, result, memory⟩ := compressImage_ok compressed
  obtain ⟨table, last, entry, start, result', member, offset, place⟩ :=
    compressSegments_refused inverts whole (fits positive) refused
  obtain ⟨_, _, result'', same⟩ :=
    @compressSegments_result lzss image.image image.segmentTab 0 0 0 image.bufferSize inverts whole
  cases result.symm.trans result'
  cases result.symm.trans result''
  obtain ⟨hdr, written⟩ := writeXefImage_written written (Or.inl (List.ne_nil_of_mem member))
  obtain ⟨xef, parsed, loaded⟩ := restored (fun _ => 0) [] fun _ => 0
  cases (written.parses fun _ => 0).symm.trans parsed
  obtain ⟨writes, returned, _, less⟩ := loadSegments_length
    (parsedXef file (fun _ => 0) program payload hdr) [] payload.segmentTab fun _ => 0
  have fails := refused_fails written memory offset (place.imp_right fun
    ⟨fileSize, lzSize, ending, _, has⟩ => ⟨fileSize, lzSize, ending, has⟩)
  have some : entry.fileSize ≠ 0 := by
    have listed : entry.fileSize.toNat
        ∈ payload.segmentTab.map fun entry => entry.fileSize.toNat := List.mem_map_of_mem member
    rw [map_fileSize_eq same] at listed
    obtain ⟨segment, inImage, length⟩ := List.mem_map.mp listed
    rw [← BitVec.eq_of_toNat_eq length]
    exact whole.nonEmpty segment inImage
  have shorter := less entry member fails some
  cases returned.symm.trans loaded
  rw [length_segmentWrites whole, map_fileSize_eq same] at shorter
  exact Nat.lt_irrefl _ shorter

/-- What is written for the segments of an image stays in the output buffer just when those taken
fit; a file that is built comes back, with nothing written elsewhere, just when it has a segment
or a custom file and, if compressed, every segment is taken and fits.
-/
theorem xefImage_restored_iff {source : XefSource} (inverts : LzssInverts lzss)
    (gathered : gatherSegments source = .ok image)
    (nonEmpty : ∀ segment ∈ image.segmentTab, segment.fileSize ≠ 0)
    : (image.InBuffer lzss ↔ image.FitsBuffer lzss)
      ∧ ∀ compressed file, buildXefImage digest lzss heap program compressed image = .ok file →
        (Restored digest image file ∧ (compressed = true → image.InBuffer lzss)
          ↔ (image.segmentTab ≠ [] ∨ program.customFileTab ≠ [])
            ∧ (compressed = true → image.TakesAll lzss)) := by
  have consecutive := gatherSegments_gathered gathered
  have whole := consecutive.whole nonEmpty
  refine ⟨inBuffer_iff inverts whole, ?_⟩
  intro compressed file built
  constructor
  · rintro ⟨restored, inside⟩
    refine ⟨restored_tables built consecutive restored, ?_⟩
    rintro rfl
    have fits := (inBuffer_iff inverts whole).mp (inside rfl)
    by_contra refused
    exact refused_not_restored built inverts whole fits refused restored
  · rintro ⟨tables, takes⟩
    cases compressed with
    | false => exact ⟨plain_restored built consecutive whole tables, fun wrong => nomatch wrong⟩
    | true =>
        refine ⟨packed_restored built inverts whole tables (takes rfl), fun _ => ?_⟩
        exact (inBuffer_iff inverts whole).mpr fun _ => (takes rfl).fits

end Build

-- On a given image these are for the kernel to compute, not for the elaborator.
attribute [irreducible] XefImage.FitsBuffer XefImage.TakesAll

/-- The program headers of segments that follow each other in a file from an offset on. -/
def phdrsOf : Nat → List (List XmU8) → List Phdr
  | _, [] => []
  | offset, bytes :: contents =>
      { p_type := PT_LOAD
        p_offset := BitVec.ofNat 32 offset
        p_vaddr := 0
        p_paddr := BitVec.ofNat 32 (0x1000000 + offset)
        p_filesz := BitVec.ofNat 32 bytes.length } :: phdrsOf (offset + bytes.length) contents

/-- A program with these segments behind its headers. -/
def elfOf (contents : List (List XmU8)) : XefSource :=
  let hdrs := 52 + 32 * contents.length
  .elf (phdrsOf hdrs contents) hdrs (List.replicate hdrs 0 ++ contents.flatten)

def imageOf (contents : List (List XmU8)) : XefImage :=
  ((gatherSegments (elfOf contents)).toOption).getD emptyImage

theorem gatherSegments_elfOf {contents : List (List XmU8)}
    (returned : (gatherSegments (elfOf contents)).isOk = true)
    : gatherSegments (elfOf contents) = .ok (imageOf contents) := by
  obtain ⟨image, gathered⟩ := exists_ok returned
  unfold imageOf
  rw [gathered]
  rfl

def anyPartition : XefProgram :=
  { type := XEF_TYPE_PARTITION
    payload := Vector.replicate _ 0
    customFileTab := []
    pageTable := 0
    pageTableSize := 0
    xmImageHdr := 0x1000000
    entryPoint := 0x1000000 }

def zeroMemory : Memory := fun _ => 0

/-- Different bytes. -/
def countUp (n : Nat) : List XmU8 := (List.range n).map fun i => BitVec.ofNat 8 (i + 0x40)

theorem xefImage_restored_two
    : ∃ file, buildXefImage lengthDigest literalCompress zeroMemory anyPartition true
        (imageOf [countUp 30, countUp 30]) = .ok file
      ∧ Restored lengthDigest (imageOf [countUp 30, countUp 30]) file := by
  obtain ⟨file, built⟩ := exists_ok (show (buildXefImage lengthDigest literalCompress zeroMemory
    anyPartition true (imageOf [countUp 30, countUp 30])).isOk = true by decide +kernel)
  have gathered := @gatherSegments_elfOf [countUp 30, countUp 30] (by decide +kernel)
  have result := (xefImage_restored_iff literalCompress_inverts gathered (by decide +kernel)).2 true
    file built
  exact ⟨file, built, (result.mpr ⟨by decide +kernel, fun _ => by decide +kernel⟩).1⟩

/-- The buffer that is left after ten bytes is too small for one, which is refused without a
message; and what is counted down is not what is used, so that segments behind the buffer are
taken.
-/
theorem refused_segment_lost
    : (∃ file,
        gatherSegments (elfOf [countUp 10, countUp 1]) = .ok (imageOf [countUp 10, countUp 1])
        ∧ buildXefImage lengthDigest literalCompress zeroMemory anyPartition true
          (imageOf [countUp 10, countUp 1]) = .ok file
        ∧ ¬ Restored lengthDigest (imageOf [countUp 10, countUp 1]) file)
      ∧ gatherSegments (elfOf [countUp 20, countUp 1, countUp 1, countUp 1, countUp 1])
        = .ok (imageOf [countUp 20, countUp 1, countUp 1, countUp 1, countUp 1])
      ∧ ¬ (imageOf [countUp 20, countUp 1, countUp 1, countUp 1, countUp 1]).InBuffer
        literalCompress := by
  constructor
  · obtain ⟨file, built⟩ := exists_ok (show (buildXefImage lengthDigest literalCompress
      zeroMemory anyPartition true (imageOf [countUp 10, countUp 1])).isOk = true
      by decide +kernel)
    have gathered := @gatherSegments_elfOf [countUp 10, countUp 1] (by decide +kernel)
    have whole := (gatherSegments_gathered gathered).whole (by decide +kernel)
    have fits : (imageOf [countUp 10, countUp 1]).FitsBuffer literalCompress := by decide +kernel
    have refused : ¬ (imageOf [countUp 10, countUp 1]).TakesAll literalCompress := by
      decide +kernel
    exact ⟨file, gathered, built,
      refused_not_restored built literalCompress_inverts whole fits refused⟩
  · have gathered := @gatherSegments_elfOf [countUp 20, countUp 1, countUp 1, countUp 1, countUp 1]
      (by decide +kernel)
    have whole := (gatherSegments_gathered gathered).whole (by decide +kernel)
    have outside : ¬ (imageOf [countUp 20, countUp 1, countUp 1, countUp 1, countUp 1]).FitsBuffer
        literalCompress := by decide +kernel
    exact ⟨gathered, (not_congr (inBuffer_iff literalCompress_inverts whole)).mpr outside⟩

end XtratuM.Boot
