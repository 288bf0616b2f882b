import XtratuM.Boot.PartitionImages
import XtratuM.Boot.SealedFiles

/-! XEF images: how the tool builds them from the segments of a program, with and without
compression, and how they are parsed where they are loaded. A request for half the address space
or more is one that memory does not have.
-/

namespace XtratuM.Boot

open ByteFiles

def XM_PAYLOAD_BYTES : Nat := 16

/-- `struct xefHdr`. -/
structure XefHdr where
  signature : XmU32
  version : XmU32
  flags : XmU32
  digest : Vector XmU8 XM_DIGEST_BYTES
  payload : Vector XmU8 XM_PAYLOAD_BYTES
  fileSize : XmU32
  segmentTabOffset : XmU32
  noSegments : XmU32
  customFileTabOffset : XmU32
  noCustomFiles : XmU32
  imageOffset : XmU32
  imageLength : XmU32
  deflatedImageLength : XmU32
  pageTable : XmU32
  pageTableSize : XmU32
  xmImageHdr : XmU32
  entryPoint : XmU32
  deriving DecidableEq

/-- `struct xefSegment`, with the fields that the loader does not use. -/
structure XefSegmentEntry extends XefSegment where
  virtAddr : XmU32
  deflatedFileSize : XmU32
  deriving DecidableEq, Repr

def XEF_SIGNATURE : XmU32 := 0x24584546
def XEF_VERSION : XmU32 := 1
def XEF_SUBVERSION : XmU32 := 1
def XEF_REVISION : XmU32 := 0
def XEF_DIGEST : XmU32 := 0x1

-----------------------------------------------------------------------------------------
-- How the structures are laid out

def xefSegmentCodec : Codec XefSegmentEntry XmU8 :=
  structCodec 5
    (fun s => [s.physAddr, s.virtAddr, s.fileSize, s.deflatedFileSize, s.offset])
    (fun
      | [physAddr, virtAddr, fileSize, deflatedFileSize, offset] =>
          { physAddr, virtAddr, fileSize, deflatedFileSize, offset }
      | _ => { physAddr := 0, virtAddr := 0, fileSize := 0, deflatedFileSize := 0, offset := 0 })
    (fun _ => rfl) (fun _ => rfl)

def xefCustomFileCodec : Codec XefCustomFile XmU8 :=
  structCodec 2 (fun file => [file.sAddr, file.size])
    (fun
      | [sAddr, size] => { sAddr, size }
      | _ => { sAddr := 0, size := 0 })
    (fun _ => rfl) (fun _ => rfl)

/-- The words of an image header before the digest, and after the payload. -/
def XefHdr.front (hdr : XefHdr) : List XmU32 := [hdr.signature, hdr.version, hdr.flags]

def XefHdr.back (hdr : XefHdr) : List XmU32 :=
  [hdr.fileSize, hdr.segmentTabOffset, hdr.noSegments, hdr.customFileTabOffset,
    hdr.noCustomFiles, hdr.imageOffset, hdr.imageLength, hdr.deflatedImageLength,
    hdr.pageTable, hdr.pageTableSize, hdr.xmImageHdr, hdr.entryPoint]

def xefHdrOf (front : List XmU32) (digest : Vector XmU8 XM_DIGEST_BYTES)
    (payload : Vector XmU8 XM_PAYLOAD_BYTES) (back : List XmU32) : XefHdr :=
  { signature := front.getD 0 0
    version := front.getD 1 0
    flags := front.getD 2 0
    digest
    payload
    fileSize := back.getD 0 0
    segmentTabOffset := back.getD 1 0
    noSegments := back.getD 2 0
    customFileTabOffset := back.getD 3 0
    noCustomFiles := back.getD 4 0
    imageOffset := back.getD 5 0
    imageLength := back.getD 6 0
    deflatedImageLength := back.getD 7 0
    pageTable := back.getD 8 0
    pageTableSize := back.getD 9 0
    xmImageHdr := back.getD 10 0
    entryPoint := back.getD 11 0 }

def xefHdrCodec : Codec XefHdr XmU8 where
  size := 92
  encode hdr := wordCodec.encodeTable hdr.front ++ hdr.digest.toList
    ++ (hdr.payload.toList ++ wordCodec.encodeTable hdr.back)
  decode bytes :=
    xefHdrOf (wordCodec.decodeTable 3 bytes) (vectorAt XM_DIGEST_BYTES bytes DIGEST_OFFSET)
      (vectorAt XM_PAYLOAD_BYTES bytes AFTER_DIGEST) (wordCodec.decodeTable 12 (bytes.drop 44))
  length_encode hdr := by
    simp
    rfl
  decode_encode hdr := by
    have front : (wordCodec.encodeTable hdr.front).length = DIGEST_OFFSET :=
      wordCodec.length_encodeTable _
    have both : (wordCodec.encodeTable hdr.front ++ hdr.digest.toList).length = AFTER_DIGEST := by
      rw [List.length_append, front, Vector.length_toList]
      rfl
    have all : (wordCodec.encodeTable hdr.front ++ hdr.digest.toList
        ++ hdr.payload.toList).length = 44 := by
      rw [List.length_append, both, Vector.length_toList]
      rfl
    have before : wordCodec.decodeTable 3 (wordCodec.encodeTable hdr.front ++ hdr.digest.toList
        ++ (hdr.payload.toList ++ wordCodec.encodeTable hdr.back)) = hdr.front := by
      rw [List.append_assoc]
      exact wordCodec.decodeTable_encodeTable_append hdr.front _
    have after := wordCodec.decodeTable_encodeTable hdr.back
    rw [before, vectorAt_append front, ← List.append_assoc _ hdr.payload.toList,
      vectorAt_append both, List.drop_left' all]
    exact congrArg (xefHdrOf hdr.front hdr.digest hdr.payload) after

def xefHdrFormat : HdrFormat XefHdr where
  codec := xefHdrCodec
  digest hdr := hdr.digest
  setDigest hdr sum := { hdr with digest := sum }
  front hdr := wordCodec.encodeTable hdr.front
  back hdr := hdr.payload.toList ++ wordCodec.encodeTable hdr.back
  encode_eq _ := rfl
  length_front hdr := wordCodec.length_encodeTable hdr.front
  digest_setDigest _ _ := rfl
  front_setDigest _ _ := rfl
  back_setDigest _ _ := rfl

-----------------------------------------------------------------------------------------
-- The segments of a program

/-- The messages the tool ends with when it does not build an image. -/
inductive XefError
  /-- "Unable to open %s" -/
  | openFile
  /-- "Memory pool out of memory" -/
  | outOfMemory
  /-- "Error reading from file" -/
  | read
  /-- "Error writting to file" -/
  | write
  /-- "Unable to perform compression" -/
  | compression
  deriving DecidableEq, Repr

/-- `DO_MALLOC` and `DO_REALLOC`. -/
def doMalloc (size : XmU32) : Except XefError Unit :=
  if size.msb then .error .outOfMemory else .ok ()

/-- A program header of an ELF file. -/
structure Phdr where
  p_type : XmU32
  p_offset : XmU32
  p_vaddr : XmU32
  p_paddr : XmU32
  p_filesz : XmU32
  deriving DecidableEq, Repr

def PT_LOAD : XmU32 := 1

/-- What is in memory of the image before it is written. -/
structure XefImage where
  segmentTab : List XefSegmentEntry
  imageLength : XmU32
  image : List XmU8

/-- A segment goes behind those before it. -/
def XefImage.add (image : XefImage) (physAddr virtAddr fileSize : XmU32) (bytes : List XmU8)
    : XefImage :=
  { segmentTab := image.segmentTab ++
      [{ physAddr, virtAddr, fileSize, deflatedFileSize := fileSize, offset := image.imageLength }]
    imageLength := image.imageLength + fileSize
    image := image.image ++ bytes }

/-- A segment is read from a file. -/
def readSegment (s : Fd × XefImage) (physAddr virtAddr offset fileSize : XmU32)
    : Except XefError (Fd × XefImage) := do
  doMalloc (s.2.imageLength + fileSize)
  let (bytes, fd) := s.1.readFrom offset fileSize
  if bytes.length ≠ fileSize.toNat then
    throw .read
  else
    pure (fd, s.2.add physAddr virtAddr fileSize bytes)

/-- A round of the loop of `ParseElfImage` over the program headers. -/
def loadPhdr (s : Fd × XefImage) (pHdr : Phdr) : Except XefError (Fd × XefImage) :=
  if pHdr.p_type ≠ PT_LOAD ∨ pHdr.p_filesz = 0 then
    .ok s
  else
    readSegment s pHdr.p_paddr pHdr.p_vaddr pHdr.p_offset pHdr.p_filesz

def emptyImage : XefImage := { segmentTab := [], imageLength := 0, image := [] }

/-- What an image is built from. -/
inductive XefSource
  /-- The program headers of an ELF file, where they end in it, and the file. -/
  | elf (pHdr : List Phdr) (pos : Nat) (file : List XmU8)
  /-- `-m`: a custom file. -/
  | customFile (file : List XmU8)

/-- `open`, of a file that offsets reach. -/
def openFile (file : List XmU8) : Except XefError Fd :=
  if file.length ≤ OFF_MAX then .ok { content := file, pos := 0 } else .error .openFile

/-- The segments of the image, as `ParseElfImage` and `ParseCustomFile` gather them. -/
def gatherSegments : XefSource → Except XefError XefImage
  | .elf pHdr pos file => do
      let fd ← openFile file
      let (_, image) ← pHdr.foldlM loadPhdr ({ fd with pos }, emptyImage)
      pure image
  | .customFile file => do
      let fd ← openFile file
      let (fileSize, fd) := fd.lseekEnd
      let (_, image) ← readSegment (fd, emptyImage) 0 0 0 fileSize
      pure image

-----------------------------------------------------------------------------------------
-- Compression

/-- `LZSSCompress`: the bytes it writes for an input and a size of the output. The first argument
counts the calls, as the tables keep what earlier calls left in them.
-/
abbrev LzssCompress := Nat → List XmU8 → Nat → List XmU8

def COMPRESS_ERROR_LZ : Int := -3

/-- `sizeof(struct compressHdr)`. -/
def COMPRESS_HDR_SIZE : XmU32 := 12

/-- `struct compressHdr`, with its `magic`. -/
def compressHdr (size lzSize : XmU32) : List XmU8 :=
  wordCodec.encodeTable [COMPRESS_MAGIC, size, lzSize]

/-- `Compress`, with its writes from `wData` on: what it refuses is not written. -/
def compress (lzss : List XmU8 → Nat → List XmU8) (inSize outSize : XmU32) (bytes : List XmU8)
    (wData : XmU32) : XmU32 × List Write :=
  if outSize ≤ inSize + (inSize >>> 1) + COMPRESS_HDR_SIZE then
    (BitVec.ofInt 32 COMPRESS_BUFFER_OVERRUN, [])
  else
    let data := lzss bytes (outSize - COMPRESS_HDR_SIZE).toNat
    if data = [] then
      (BitVec.ofInt 32 COMPRESS_ERROR_LZ, [])
    else
      let lzSize := BitVec.ofNat 32 data.length
      (lzSize + COMPRESS_HDR_SIZE,
        writesAt (wData + COMPRESS_HDR_SIZE) data ++ writesAt wData (compressHdr inSize lzSize))

/-- What the loop of `CompressImage` leaves: its writes, and the table with the length of the
compressed image unless it stops with a message.
-/
structure Compressed where
  writes : List Write
  result : Option (List XefSegmentEntry × XmU32)

/-- The loop of `CompressImage`. The results of `Compress` are taken as unsigned numbers, so that
only zero is an error; what is left of the output is counted down by all that has been written.
-/
def compressSegments (lzss : LzssCompress) (image : List XmU8)
    : Nat → XmU32 → XmU32 → XmU32 → List XefSegmentEntry → Compressed
  | _, cLen, _, _, [] => { writes := [], result := some ([], cLen) }
  | e, cLen, len, size, segment :: segmentTab =>
      let bytes := readAt image len.toNat segment.fileSize.toNat
      let (deflatedFileSize, writes) := compress (lzss e) segment.fileSize size bytes cLen
      if deflatedFileSize = 0 then
        { writes, result := none }
      else
        let rest := compressSegments lzss image (e + 1) (cLen + deflatedFileSize)
          (len + segment.fileSize) (size - (cLen + deflatedFileSize)) segmentTab
        { writes := writes ++ rest.writes
          result := rest.result.map fun (table, last) =>
            ({ segment with deflatedFileSize, offset := cLen } :: table, last) }

/-- The size of the output buffer of `CompressImage`. -/
def XefImage.bufferSize (image : XefImage) : XmU32 := image.imageLength * 3

/-- The loop of `CompressImage` over the whole image. -/
def XefImage.compressed (image : XefImage) (lzss : LzssCompress) : Compressed :=
  compressSegments lzss image.image 0 0 0 image.bufferSize image.segmentTab

/-- The writes of `CompressImage` to its output buffer, from there on. -/
def XefImage.compressWrites (image : XefImage) (lzss : LzssCompress) : List Write :=
  if image.bufferSize.msb then [] else (image.compressed lzss).writes

/-- Memory from an address on. -/
abbrev Memory := XmU32 → XmU8

def applyWrites (memory : Memory) (writes : List Write) : Memory :=
  writes.foldl (fun memory write => Function.update memory write.address write.byte) memory

/-- Bytes of memory, one after the other. -/
def Memory.bytes (memory : Memory) (n : Nat) : List XmU8 :=
  (List.range n).map fun i => memory (BitVec.ofNat 32 i)

/-- An image to write: its table, the memory of the bytes, and how many are written. -/
structure XefPayload where
  segmentTab : List XefSegmentEntry
  deflatedImageLength : XmU32
  image : Memory

/-- `CompressImage`, with an output buffer of which memory holds anything. -/
def compressImage (lzss : LzssCompress) (heap : Memory) (image : XefImage)
    : Except XefError XefPayload := do
  doMalloc image.bufferSize
  let run := image.compressed lzss
  match run.result with
  | none => throw .compression
  | some (segmentTab, deflatedImageLength) =>
      pure { segmentTab, deflatedImageLength, image := applyWrites heap run.writes }

/-- The image as it is, in memory that holds anything behind it. -/
def plainImage (heap : Memory) (image : XefImage) : XefPayload :=
  { segmentTab := image.segmentTab
    deflatedImageLength := image.imageLength
    image := applyWrites heap (writesAt 0 image.image) }

-----------------------------------------------------------------------------------------
-- Writing the image

/-- What the header says of the program. -/
structure XefProgram where
  type : XmU32
  payload : Vector XmU8 XM_PAYLOAD_BYTES
  customFileTab : List XefCustomFile
  pageTable : XmU32
  pageTableSize : XmU32
  xmImageHdr : XmU32
  entryPoint : XmU32

/-- The flags of an image. -/
def xefFlags (program : XefProgram) (compressed : Bool) : XmU32 :=
  (program.type &&& XEF_TYPE_MASK) ||| (if compressed then XEF_COMPRESSED else 0) ||| XEF_DIGEST

/-- The offsets of `WriteXefImage`. -/
def segmentTabOffset : XmU32 := alignTo (BitVec.ofNat 32 xefHdrCodec.size) 8

def customFileTabOffset (noSegments : Nat) : XmU32 :=
  alignTo (segmentTabOffset + BitVec.ofNat 32 (xefSegmentCodec.size * noSegments)) 8

def imageOffset (noSegments noCustomFiles : Nat) : XmU32 :=
  alignTo (customFileTabOffset noSegments
    + BitVec.ofNat 32 (xefCustomFileCodec.size * noCustomFiles)) 8

/-- `WriteXefImage`. -/
def writeXefImage (digest : Digest) (program : XefProgram) (compressed : Bool)
    (imageLength : XmU32) (payload : XefPayload) : Except XefError (List XmU8) := do
  let fd : Fd := { content := [], pos := 0 }
  let noSegments := payload.segmentTab.length
  let noCustomFiles := program.customFileTab.length
  let fd ← (fd.lseek segmentTabOffset).doWrite .write
    (xefSegmentCodec.encodeTable payload.segmentTab)
  let fd ← (fd.lseek (customFileTabOffset noSegments)).doWrite .write
    (xefCustomFileCodec.encodeTable program.customFileTab)
  let fd ← (fd.lseek (imageOffset noSegments noCustomFiles)).doWrite .write
    (payload.image.bytes payload.deflatedImageLength.toNat)
  let (fileSize, fd) ← fd.fillWords .write
  let hdr : XefHdr :=
    { signature := XEF_SIGNATURE
      version := XM_SET_VERSION XEF_VERSION XEF_SUBVERSION XEF_REVISION
      flags := xefFlags program compressed
      digest := noDigest
      payload := program.payload
      fileSize
      segmentTabOffset := segmentTabOffset
      noSegments := BitVec.ofNat 32 noSegments
      customFileTabOffset := customFileTabOffset noSegments
      noCustomFiles := BitVec.ofNat 32 noCustomFiles
      imageOffset := imageOffset noSegments noCustomFiles
      imageLength
      deflatedImageLength := payload.deflatedImageLength
      pageTable := program.pageTable
      pageTableSize := program.pageTableSize
      xmImageHdr := program.xmImageHdr
      entryPoint := program.entryPoint }
  let (_, fd) ← xefHdrFormat.writeHdr .write .read digest fd hdr fileSize
  pure fd.content

/-- The image that `DoBuild` writes, with `-c` or without it. -/
def xefPayload (lzss : LzssCompress) (heap : Memory) (compressed : Bool) (image : XefImage)
    : Except XefError XefPayload :=
  if compressed then
    compressImage lzss heap image
  else
    .ok (plainImage heap image)

/-- `DoBuild` of the tool, once it has gathered the segments. -/
def buildXefImage (digest : Digest) (lzss : LzssCompress) (heap : Memory) (program : XefProgram)
    (compressed : Bool) (image : XefImage) : Except XefError (List XmU8) := do
  let payload ← xefPayload lzss heap compressed image
  writeXefImage digest program compressed image.imageLength payload

-----------------------------------------------------------------------------------------
-- Parsing the image

inductive ParseXefError
  /-- `XEF_BAD_SIGNATURE` -/
  | badSignature
  /-- `XEF_INCORRECT_VERSION` -/
  | incorrectVersion
  /-- `XEF_UNMATCHING_DIGEST` -/
  | unmatchingDigest
  /-- A read outside the file. -/
  | badAccess
  deriving DecidableEq, Repr

/-- Bytes of a file. -/
def fileBytes (file : List XmU8) (offset n : Nat) : Except ParseXefError (List XmU8) :=
  let bytes := readAt file offset n
  if bytes.length = n then .ok bytes else .error .badAccess

/-- The entries of a table whose number is a signed word. -/
def xefTable {α : Type} (codec : Codec α XmU8) (file : List XmU8) (offset n : XmU32)
    : Except ParseXefError (List α) :=
  (fileBytes file offset.toNat (codec.size * n.toInt.toNat)).map
    (codec.decodeTable n.toInt.toNat)

/-- A file in memory, with anything behind it. -/
def fileMemory (file : List XmU8) (beyond : Memory) : Memory :=
  fun address => file.getD address.toNat (beyond address)

/-- The digest `ParseXefFile` takes of a file. -/
def xefDigest (digest : Digest) (file : List XmU8) (hdr : XefHdr)
    : Except ParseXefError (Vector XmU8 XM_DIGEST_BYTES) := do
  let front ← fileBytes file 0 DIGEST_OFFSET
  let back ← fileBytes file AFTER_DIGEST (hdr.fileSize - BitVec.ofNat 32 AFTER_DIGEST).toNat
  pure (digestAround digest front back)

def checkXefDigest (digest : Digest) (file : List XmU8) (hdr : XefHdr)
    : Except ParseXefError Unit :=
  if hdr.flags &&& XEF_DIGEST ≠ 0 then do
    let computed ← xefDigest digest file hdr
    if computed ≠ hdr.digest then
      throw .unmatchingDigest
    else
      pure ()
  else
    .ok ()

/-- `ParseXefFile`, with the tables it points to. -/
def parseXefFile (digest : Digest) (file : List XmU8) (beyond : Memory)
    : Except ParseXefError XefFile := do
  let bytes ← fileBytes file 0 xefHdrCodec.size
  let hdr := xefHdrCodec.decode bytes
  if hdr.signature ≠ XEF_SIGNATURE then
    throw .badSignature
  else if XM_GET_VERSION hdr.version ≠ XEF_VERSION
      ∧ XM_GET_SUBVERSION hdr.version ≠ XEF_SUBVERSION then
    throw .incorrectVersion
  else
    checkXefDigest digest file hdr
    let segmentTab ← xefTable xefSegmentCodec file hdr.segmentTabOffset hdr.noSegments
    let customFileTab ← xefTable xefCustomFileCodec file hdr.customFileTabOffset
      hdr.noCustomFiles
    pure
      { flags := hdr.flags
        imageLength := hdr.imageLength
        segmentTab := segmentTab.map XefSegmentEntry.toXefSegment
        customFileTab
        image := fun offset => fileMemory file beyond (hdr.imageOffset + offset) }

end XtratuM.Boot
