import Mathlib.Data.List.DropRight
import XtratuM.Boot.SealedFiles

/-! Containers: how the packer builds the file that holds the hypervisor and the partitions, reads
it back and lets the boot loader check it. The checks of `DoCheck2Build` on the contents of the
files are left out: they only refuse more. Memory is always there when the packer asks for it.
-/

namespace XtratuM.Boot

open ByteFiles

def CONFIG_MAX_NO_CUSTOMFILES : Nat := 3
def CONTAINER_PAGE_SIZE : XmU32 := 4096

/-- `struct xmefFile`. -/
structure XmefFile where
  offset : XmU32
  size : XmU32
  nameOffset : XmU32
  deriving DecidableEq, Repr

/-- `struct xmefPartition`. -/
structure XmefPartition where
  id : XmU32
  file : XmU32
  noCustomFiles : XmU32
  customFileTab : Fin CONFIG_MAX_NO_CUSTOMFILES → XmU32
  deriving DecidableEq

/-- `struct xmefContainerHdr`. -/
structure XmefContainerHdr where
  signature : XmU32
  version : XmU32
  flags : XmU32
  digest : Vector XmU8 XM_DIGEST_BYTES
  fileSize : XmU32
  partitionTabOffset : XmU32
  noPartitions : XmU32
  fileTabOffset : XmU32
  noFiles : XmU32
  strTabOffset : XmU32
  strLen : XmU32
  fileDataOffset : XmU32
  fileDataLen : XmU32
  deriving DecidableEq

def XM_PACKAGE_SIGNATURE : XmU32 := 0x24584354
def XMPACK_VERSION : XmU32 := 3
def XMPACK_SUBVERSION : XmU32 := 0
def XMPACK_REVISION : XmU32 := 0
def XMEF_CONTAINER_DIGEST : XmU32 := 0x1

-----------------------------------------------------------------------------------------
-- How the structures are laid out

def xmefFileCodec : Codec XmefFile XmU8 :=
  structCodec 3 (fun file => [file.offset, file.size, file.nameOffset])
    (fun
      | [offset, size, nameOffset] => { offset, size, nameOffset }
      | _ => { offset := 0, size := 0, nameOffset := 0 })
    (fun _ => rfl) (fun _ => rfl)

def xmefPartitionCodec : Codec XmefPartition XmU8 :=
  structCodec (3 + CONFIG_MAX_NO_CUSTOMFILES)
    (fun row => row.id :: row.file :: row.noCustomFiles :: List.ofFn row.customFileTab)
    (fun words =>
      { id := words.getD 0 0
        file := words.getD 1 0
        noCustomFiles := words.getD 2 0
        customFileTab := fun i => words.getD (3 + i) 0 })
    (fun row => by
      simp only [List.length_cons, List.length_ofFn]
      omega)
    (fun row => by
      have custom : (fun i : Fin CONFIG_MAX_NO_CUSTOMFILES =>
          (List.ofFn row.customFileTab).getD i 0) = row.customFileTab := by
        funext i
        simp [List.getD]
      simp [Nat.add_comm 3])

/-- The fields of a container header before the digest and after it. -/
def XmefContainerHdr.front (hdr : XmefContainerHdr) : List XmU32 :=
  [hdr.signature, hdr.version, hdr.flags]

def XmefContainerHdr.back (hdr : XmefContainerHdr) : List XmU32 :=
  [hdr.fileSize, hdr.partitionTabOffset, hdr.noPartitions, hdr.fileTabOffset, hdr.noFiles,
    hdr.strTabOffset, hdr.strLen, hdr.fileDataOffset, hdr.fileDataLen]

def containerHdrOf (front : List XmU32) (digest : Vector XmU8 XM_DIGEST_BYTES)
    (back : List XmU32) : XmefContainerHdr :=
  { signature := front.getD 0 0
    version := front.getD 1 0
    flags := front.getD 2 0
    digest
    fileSize := back.getD 0 0
    partitionTabOffset := back.getD 1 0
    noPartitions := back.getD 2 0
    fileTabOffset := back.getD 3 0
    noFiles := back.getD 4 0
    strTabOffset := back.getD 5 0
    strLen := back.getD 6 0
    fileDataOffset := back.getD 7 0
    fileDataLen := back.getD 8 0 }

def containerHdrCodec : Codec XmefContainerHdr XmU8 where
  size := 64
  encode hdr :=
    wordCodec.encodeTable hdr.front ++ hdr.digest.toList ++ wordCodec.encodeTable hdr.back
  decode bytes :=
    containerHdrOf (wordCodec.decodeTable 3 bytes) (vectorAt XM_DIGEST_BYTES bytes DIGEST_OFFSET)
      (wordCodec.decodeTable 9 (bytes.drop AFTER_DIGEST))
  length_encode hdr := by
    simp
    rfl
  decode_encode hdr := by
    have front : (wordCodec.encodeTable hdr.front).length = DIGEST_OFFSET :=
      wordCodec.length_encodeTable _
    have digest : vectorAt XM_DIGEST_BYTES (wordCodec.encodeTable hdr.front
        ++ hdr.digest.toList ++ wordCodec.encodeTable hdr.back) DIGEST_OFFSET = hdr.digest := by
      exact vectorAt_append front
    have both : (wordCodec.encodeTable hdr.front ++ hdr.digest.toList).length = AFTER_DIGEST := by
      rw [List.length_append, front, Vector.length_toList]
      rfl
    have before : wordCodec.decodeTable 3 (wordCodec.encodeTable hdr.front ++ hdr.digest.toList
        ++ wordCodec.encodeTable hdr.back) = hdr.front := by
      rw [List.append_assoc]
      exact wordCodec.decodeTable_encodeTable_append hdr.front _
    have after := wordCodec.decodeTable_encodeTable hdr.back
    rw [digest, before, List.drop_left' both]
    exact congrArg (containerHdrOf hdr.front hdr.digest) after

def containerHdrFormat : HdrFormat XmefContainerHdr where
  codec := containerHdrCodec
  digest hdr := hdr.digest
  setDigest hdr sum := { hdr with digest := sum }
  front hdr := wordCodec.encodeTable hdr.front
  back hdr := wordCodec.encodeTable hdr.back
  encode_eq _ := rfl
  length_front hdr := wordCodec.length_encodeTable hdr.front
  digest_setDigest _ _ := rfl
  front_setDigest _ _ := rfl
  back_setDigest _ _ := rfl

-----------------------------------------------------------------------------------------
-- The options of the packer

/-- A file of an option: a name with the offset after `@` (zero without one), or the file with a
number, after `#`.
-/
inductive FileArg
  | name (name : List XmU8) (offset : XmU32)
  | number (d : Int)
  deriving DecidableEq, Repr

inductive PackOption
  /-- `-p id:files` -/
  | p (id : Int) (files : List FileArg)
  /-- `-h files` -/
  | h (files : List FileArg)
  deriving DecidableEq, Repr

/-- The messages the packer ends with when it does not build a container. -/
inductive BuildError
  /-- "There isn't any file at position %d" -/
  | noFile (d : Int)
  /-- "Only %d customisation files are permitted" -/
  | customFiles
  /-- "XM configuration (xmc) file is missed" -/
  | xmcMissed
  /-- "Partition ID shall be a positive integer" -/
  | partitionId
  /-- "XM hypervisor has been alredy defined" -/
  | hypervisorDefined
  /-- "XM hypervisor missed" -/
  | hypervisorMissed
  /-- "File \"%s\" couldn't be opened" -/
  | notOpened (name : List XmU8)
  /-- "Error writting container" -/
  | write
  /-- "Container couldn't be built with the specified offsets" -/
  | offsets
  /-- "Unable to read the container file" -/
  | read
  deriving DecidableEq, Repr

/-- `struct file`. -/
structure NamedFile where
  name : List XmU8
  offset : XmU32
  deriving DecidableEq, Repr

/-- `partitionTab`, whose first row is the hypervisor's, and `fileTab`. -/
structure Tables where
  partitionTab : List XmefPartition
  fileTab : List NamedFile

/-- The position of a file in `fileTab`, after `AddFile` where it is named. -/
def filePos (fileTab : List NamedFile) : FileArg → Except BuildError (XmU32 × List NamedFile)
  | .name name offset => .ok (BitVec.ofNat 32 fileTab.length, fileTab ++ [{ name, offset }])
  | .number d =>
      if 0 ≤ d ∧ d < fileTab.length then
        .ok (BitVec.ofInt 32 d, fileTab)
      else
        .error (.noFile d)

def addCustomFile (row : XmefPartition × List NamedFile) (arg : FileArg)
    : Except BuildError (XmefPartition × List NamedFile) := do
  let (pos, fileTab) ← filePos row.2 arg
  if room : row.1.noCustomFiles.toNat < CONFIG_MAX_NO_CUSTOMFILES then
    pure
      ({ row.1 with
          customFileTab := Function.update row.1.customFileTab ⟨_, room⟩ pos
          noCustomFiles := row.1.noCustomFiles + 1 },
        fileTab)
  else
    throw .customFiles

/-- The files of an option: the first is the image, the others are its custom files. A row keeps
what it had when there are none.
-/
def rowFiles (row : XmefPartition) (fileTab : List NamedFile)
    : List FileArg → Except BuildError (XmefPartition × List NamedFile)
  | [] => .ok (row, fileTab)
  | arg :: customFiles => do
      let (pos, fileTab) ← filePos fileTab arg
      customFiles.foldlM addCustomFile ({ row with file := pos, noCustomFiles := 0 }, fileTab)

/-- `GetPartitionInfo`, in a row of which memory holds anything. -/
def getPartitionInfo (memory : Nat → XmefPartition) (t : Tables) (id : Int)
    (files : List FileArg) : Except BuildError Tables :=
  if id < 0 then
    .error .partitionId
  else
    (rowFiles { memory t.partitionTab.length with id := BitVec.ofInt 32 id } t.fileTab files).map
      fun (row, fileTab) => { partitionTab := t.partitionTab ++ [row], fileTab }

/-- `GetHypervisorInfo`. -/
def getHypervisorInfo (t : Tables) (hypervisor : XmefPartition) (files : List FileArg)
    : Except BuildError Tables := do
  let (row, fileTab) ← rowFiles { hypervisor with id := -1 } t.fileTab files
  if files.length < 2 then
    throw .xmcMissed
  else
    pure { partitionTab := row :: t.partitionTab.tail, fileTab }

/-- An option, with whether the hypervisor has been seen. -/
def packOption (memory : Nat → XmefPartition) (s : Bool × Tables)
    : PackOption → Except BuildError (Bool × Tables)
  | .p id files => (getPartitionInfo memory s.2 id files).map fun t => (s.1, t)
  | .h files =>
      if s.1 then
        .error .hypervisorDefined
      else
        (getHypervisorInfo s.2 (s.2.partitionTab.headD (memory 0)) files).map fun t => (true, t)

/-- The loop of `DoBuild` over the options. -/
def packOptions (memory : Nat → XmefPartition) (options : List PackOption)
    : Except BuildError Tables := do
  let s ← options.foldlM (packOption memory) (false, { partitionTab := [memory 0], fileTab := [] })
  if s.1 then
    pure s.2
  else
    throw .hypervisorMissed

-----------------------------------------------------------------------------------------
-- The files of the packer

/-- The files on the host, by name. -/
abbrev Host := List XmU8 → Option (List XmU8)

/-- `open`, which refuses a file that is too long. -/
def Host.openFile (host : Host) (name : List XmU8) : Option (List XmU8) :=
  (host name).filter fun bytes => decide (bytes.length ≤ OFF_MAX)

def slash : XmU8 := 0x2f

/-- `basename`. -/
def basename (path : List XmU8) : List XmU8 :=
  let stripped := path.rdropWhile (· == slash)
  if path = [] then
    [0x2e]
  else if stripped = [] then
    [slash]
  else
    stripped.rtakeWhile (· != slash)

/-- `xmefFileTab`, `fileData` and `strTab`. -/
structure Loaded where
  xmefFileTab : List XmefFile
  fileData : List XmU8
  strTab : List XmU8

/-- A round of the loop of `DoBuild` over the files. -/
def loadFile (host : Host) (l : Loaded) (file : NamedFile) : Except BuildError Loaded :=
  match host.openFile file.name with
  | none => .error (.notOpened file.name)
  | some bytes =>
      let entry : XmefFile :=
        { size := BitVec.ofNat 32 bytes.length
          offset := BitVec.ofNat 32 l.fileData.length
          nameOffset := BitVec.ofNat 32 l.strTab.length }
      .ok
        { xmefFileTab := l.xmefFileTab ++ [entry]
          fileData := l.fileData ++ bytes
          strTab := l.strTab ++ (basename file.name ++ [0]) }

def loadFiles (host : Host) (fileTab : List NamedFile) : Except BuildError Loaded :=
  fileTab.foldlM (loadFile host) { xmefFileTab := [], fileData := [], strTab := [] }

-----------------------------------------------------------------------------------------
-- Writing the container

/-- What the packer knows of a container while it writes the file. -/
structure Packing where
  fd : Fd
  pos : XmU32
  partitionTabOffset : XmU32
  strTabOffset : XmU32
  fileTabOffset : XmU32

/-- The tables before the files, with room for the file table. -/
def writeTables (t : Tables) (l : Loaded) : Except BuildError Packing := do
  let fd : Fd := { content := [], pos := 0 }
  let partitionTabOffset := alignTo (BitVec.ofNat 32 containerHdrCodec.size) 8
  let fd := (fd.lseek (BitVec.ofNat 32 containerHdrCodec.size)).lseek partitionTabOffset
  let fd ← fd.doWrite .write (xmefPartitionCodec.encodeTable t.partitionTab)
  let strTabOffset := alignTo
    (partitionTabOffset + BitVec.ofNat 32 (xmefPartitionCodec.size * t.partitionTab.length)) 8
  let fd ← (fd.lseek strTabOffset).doWrite .write l.strTab
  let fileTabOffset := alignTo (strTabOffset + BitVec.ofNat 32 l.strTab.length) 8
  let pos := alignTo
    (fileTabOffset + BitVec.ofNat 32 (xmefFileCodec.size * l.xmefFileTab.length)) 8
  pure { fd, pos, partitionTabOffset, strTabOffset, fileTabOffset }

/-- Where a file goes: where it is asked to, or after the last one. -/
def requestedPos (pos offset : XmU32) : Except BuildError XmU32 :=
  if offset ≠ 0 then
    if pos > offset then .error .offsets else .ok offset
  else
    .ok pos

/-- The loop of `WriteContainerToFile` over the files, with `size` bytes of `fileData` written. -/
def placeFiles (fileData : List XmU8) (fd : Fd) (pos size : XmU32)
    : List (NamedFile × XmefFile) → Except BuildError (Fd × XmU32 × List XmefFile)
  | [] => .ok (fd, pos, [])
  | (file, entry) :: files => do
      let requested ← requestedPos pos file.offset
      let pos := alignTo requested CONTAINER_PAGE_SIZE
      let fd ← (fd.lseek pos).doWrite .write (readAt fileData size.toNat entry.size.toNat)
      let (fd, last, placed) ←
        placeFiles fileData fd (pos + entry.size) (size + entry.size) files
      pure (fd, last, { entry with offset := pos } :: placed)

/-- What is left of building a container: the file, and the header, the tables and the file data
in memory.
-/
structure Built where
  container : List XmU8
  hdr : XmefContainerHdr
  partitionTab : List XmefPartition
  xmefFileTab : List XmefFile
  strTab : List XmU8
  fileData : List XmU8

/-- `WriteContainerToFile`. `fileDataOffset` is where the last file ends; where the first one
starts is never used.
-/
def writeContainerToFile (digest : Digest) (t : Tables) (l : Loaded) : Except BuildError Built := do
  let p ← writeTables t l
  let (fd, fileDataOffset, placed) ←
    placeFiles l.fileData p.fd p.pos 0 (t.fileTab.zip l.xmefFileTab)
  let fd ← (fd.lseek p.fileTabOffset).doWrite .write (xmefFileCodec.encodeTable placed)
  let (fileSize, fd) ← fd.fillWords .write
  let hdr : XmefContainerHdr :=
    { signature := XM_PACKAGE_SIGNATURE
      version := XM_SET_VERSION XMPACK_VERSION XMPACK_SUBVERSION XMPACK_REVISION
      flags := XMEF_CONTAINER_DIGEST
      digest := noDigest
      fileSize
      partitionTabOffset := p.partitionTabOffset
      noPartitions := BitVec.ofNat 32 t.partitionTab.length
      fileTabOffset := p.fileTabOffset
      noFiles := BitVec.ofNat 32 t.fileTab.length
      strTabOffset := p.strTabOffset
      strLen := BitVec.ofNat 32 l.strTab.length
      fileDataOffset
      fileDataLen := BitVec.ofNat 32 l.fileData.length }
  let (hdr, fd) ← containerHdrFormat.writeHdr .write .read digest fd hdr fileSize
  pure
    { container := fd.content
      hdr
      partitionTab := t.partitionTab
      xmefFileTab := placed
      strTab := l.strTab
      fileData := l.fileData }

/-- `DoBuild`. -/
def doBuild (digest : Digest) (host : Host) (memory : Nat → XmefPartition)
    (options : List PackOption) : Except BuildError Built := do
  let t ← packOptions memory options
  let l ← loadFiles host t.fileTab
  writeContainerToFile digest t l

-----------------------------------------------------------------------------------------
-- Reading the container

inductive ReadError
  /-- "Unable to read %s" -/
  | read
  /-- "\"%s\" is not a valid package" -/
  | notPackage
  /-- "Incorrect digest: container corrupted" -/
  | digest
  deriving DecidableEq, Repr

/-- What `ReadContainerFromFile` reads. Of the file data only the bytes that the file has are part
of it.
-/
structure ReadContainer where
  hdr : XmefContainerHdr
  partitionTab : List XmefPartition
  xmefFileTab : List XmefFile
  fileData : List XmU8
  strTab : List XmU8

/-- The entries of a table whose number is a signed word. -/
def entries (n : XmU32) : Nat := n.toInt.toNat

/-- `ReadContainerFromFile`. -/
def readContainerFromFile (digest : Digest) (file : List XmU8) : Except ReadError ReadContainer :=
  let fd : Fd := { content := file, pos := 0 }
  let (fileSize, fd) := fd.lseekEnd
  let (img, fd) := fd.readFrom 0 fileSize
  if img.length ≠ fileSize.toNat then
    .error .read
  else
    let computed := digest (withoutDigest img)
    let (bytes, fd) := fd.readFrom 0 (BitVec.ofNat 32 containerHdrCodec.size)
    let hdr := containerHdrCodec.decode bytes
    if hdr.signature ≠ XM_PACKAGE_SIGNATURE then
      .error .notPackage
    else if hdr.flags &&& XMEF_CONTAINER_DIGEST ≠ 0 ∧ computed ≠ hdr.digest then
      .error .digest
    else
      let (_, fd) := fd.readFrom 0 hdr.fileSize
      let (partitionTab, fd) := fd.readFrom hdr.partitionTabOffset
        (hdr.noPartitions * BitVec.ofNat 32 xmefPartitionCodec.size)
      let (xmefFileTab, fd) := fd.readFrom hdr.fileTabOffset
        (hdr.noFiles * BitVec.ofNat 32 xmefFileCodec.size)
      let (fileData, fd) := fd.readFrom hdr.fileDataOffset hdr.fileDataLen
      let (strTab, _) := fd.readFrom hdr.strTabOffset hdr.strLen
      .ok
        { hdr
          partitionTab := xmefPartitionCodec.decodeTable (entries hdr.noPartitions) partitionTab
          xmefFileTab := xmefFileCodec.decodeTable (entries hdr.noFiles) xmefFileTab
          fileData
          strTab }

-----------------------------------------------------------------------------------------
-- The check of the boot loader

inductive ContainerError
  | badSignature
  | incorrectVersion
  | unmatchingDigest
  deriving DecidableEq, Repr

/-- `struct xefContainerFile`, with the bytes the pointers point to. -/
structure XefContainerFile where
  hdr : XmefContainerHdr
  fileTab : List XmU8
  partitionTab : List XmU8
  image : List XmU8

/-- `ParseXefContainer`. The digest takes the header before it, zeros and the rest. -/
def parseXefContainer (digest : Digest) (img : List XmU8)
    : Except ContainerError XefContainerFile :=
  let hdr := containerHdrCodec.decode (readAt img 0 containerHdrCodec.size)
  if hdr.signature ≠ XM_PACKAGE_SIGNATURE then
    .error .badSignature
  else if XM_GET_VERSION hdr.version ≠ XMPACK_VERSION
      ∧ XM_GET_SUBVERSION hdr.version ≠ XMPACK_SUBVERSION then
    .error .incorrectVersion
  else
    let computed := digestAround digest (readAt img 0 DIGEST_OFFSET)
      (readAt img AFTER_DIGEST (hdr.fileSize - BitVec.ofNat 32 AFTER_DIGEST).toNat)
    if hdr.flags &&& XMEF_CONTAINER_DIGEST ≠ 0 ∧ computed ≠ hdr.digest then
      .error .unmatchingDigest
    else
      .ok
        { hdr
          fileTab := img.drop hdr.fileTabOffset.toNat
          partitionTab := img.drop hdr.partitionTabOffset.toNat
          image := img }

end XtratuM.Boot
