import XtratuM.Boot.Containers

/-! What building a container writes: where its tables and its files go, and what the file holds at
the end, when everything ends at offsets.
-/

namespace XtratuM.Boot

open ByteFiles

-----------------------------------------------------------------------------------------
-- The files that are loaded

/-- A file for a container, with its entries in the two tables. -/
structure PackedFile where
  file : NamedFile
  entry : XmefFile
  bytes : List XmU8
  size : entry.size.toNat = bytes.length

structure LoadedFiles (host : Host) (files : List PackedFile) (l : Loaded) : Prop where
  opened : ∀ packed ∈ files, host.openFile packed.file.name = some packed.bytes
  table : l.xmefFileTab = files.map PackedFile.entry
  data : l.fileData = files.flatMap PackedFile.bytes
  strings : l.strTab = files.flatMap fun packed => basename packed.file.name ++ [0]

theorem openFile_length {host : Host} {name bytes : List XmU8}
    (opened : host.openFile name = some bytes)
    : bytes.length ≤ OFF_MAX := by
  obtain ⟨_, short⟩ := Option.filter_eq_some_iff.mp opened
  simpa using short

theorem loadFile_loaded {host : Host} {l l' : Loaded} {file : NamedFile} {files : List PackedFile}
    (loaded : LoadedFiles host files l) (returned : loadFile host l file = .ok l')
    : ∃ packed, packed.file = file ∧ LoadedFiles host (files ++ [packed]) l' := by
  unfold loadFile at returned
  split at returned
  · cases returned
  · next bytes opened =>
      cases returned
      have size : (BitVec.ofNat 32 bytes.length).toNat = bytes.length := by
        have short := openFile_length opened
        unfold OFF_MAX at short
        rw [BitVec.toNat_ofNat]
        omega
      refine ⟨⟨file, ⟨BitVec.ofNat 32 l.fileData.length, BitVec.ofNat 32 bytes.length,
        BitVec.ofNat 32 l.strTab.length⟩, bytes, size⟩, rfl, ?_, ?_, ?_, ?_⟩
      · intro packed member
        rcases List.mem_append.mp member with member | member
        · exact loaded.opened packed member
        · rw [List.mem_singleton.mp member]
          exact opened
      · simp [loaded.table]
      · simp [loaded.data]
      · simp [loaded.strings]

theorem loadFiles_loaded {host : Host} {fileTab : List NamedFile} {l : Loaded}
    (returned : loadFiles host fileTab = .ok l)
    : ∃ files, files.map PackedFile.file = fileTab ∧ LoadedFiles host files l := by
  have run : ∀ {files : List PackedFile} {l₀ : Loaded}, LoadedFiles host files l₀ →
      fileTab.foldlM (loadFile host) l₀ = .ok l →
      ∃ more, more.map PackedFile.file = fileTab ∧ LoadedFiles host (files ++ more) l := by
    clear returned
    induction fileTab with
    | nil =>
        intro files l₀ loaded returned
        cases returned
        exact ⟨[], rfl, by simpa using loaded⟩
    | cons file fileTab ih =>
        intro files l₀ loaded steps
        obtain ⟨l₁, first, later⟩ := bind_eq_ok.mp steps
        obtain ⟨packed, same, loaded⟩ := loadFile_loaded loaded first
        obtain ⟨more, rfl, loaded⟩ := ih loaded later
        cases same
        exact ⟨packed :: more, rfl, by simpa using loaded⟩
  exact @run [] _ ⟨by simp, rfl, rfl, rfl⟩ returned

-----------------------------------------------------------------------------------------
-- Where everything goes

/-- The file that is asked for at an offset, which is zero where there is no request. -/
abbrev Request := XmU32 × List XmU8

/-- Where a file goes that comes after `pos`. -/
def startOf (pos : Nat) (offset : XmU32) : Nat :=
  alignUp (if offset ≠ 0 then offset.toNat else pos) CONTAINER_PAGE_SIZE.toNat

/-- The positions of the files, as unbounded numbers. -/
def layout : Nat → List Request → List (Nat × List XmU8)
  | _, [] => []
  | pos, (offset, bytes) :: files =>
      (startOf pos offset, bytes) :: layout (startOf pos offset + bytes.length) files

/-- Where the last file ends. -/
def layoutEnd : Nat → List Request → Nat
  | pos, [] => pos
  | pos, (offset, bytes) :: files => layoutEnd (startOf pos offset + bytes.length) files

/-- The size of the last file. -/
def lastSize : List Request → Nat
  | [] => 0
  | [file] => file.2.length
  | _ :: file :: files => lastSize (file :: files)

theorem layoutEnd_le {pos n : Nat} {files : List Request} (start : pos ≤ n)
    (below : ∀ place ∈ layout pos files, place.1 + place.2.length ≤ n)
    : layoutEnd pos files ≤ n := by
  induction files generalizing pos with
  | nil => exact start
  | cons file files ih =>
      exact ih (below _ List.mem_cons_self) fun place member =>
        below place (List.mem_cons_of_mem _ member)

/-- The last file starts at a page. -/
theorem layoutEnd_cons_mod (pos : Nat) (file : Request) (files : List Request)
    : layoutEnd pos (file :: files) % 4 = lastSize (file :: files) % 4 := by
  induction files generalizing pos file with
  | nil =>
      have page : startOf pos file.1 % 4096 = 0 := alignUp_mod _ _
      change (startOf pos file.1 + file.2.length) % 4 = file.2.length % 4
      omega
  | cons next files ih =>
      rw [layoutEnd, lastSize]
      exact ih _ next

theorem layoutEnd_mod {pos : Nat} (files : List Request) (words : pos % 4 = 0)
    : layoutEnd pos files % 4 = lastSize files % 4 := by
  cases files with
  | nil => exact words
  | cons file files => exact layoutEnd_cons_mod pos file files

def strTabStart (noPartitions : Nat) : Nat :=
  containerHdrCodec.size + xmefPartitionCodec.size * noPartitions

def fileTabStart (noPartitions strLen : Nat) : Nat :=
  alignUp (strTabStart noPartitions + strLen) 8

def fileTabEnd (noPartitions strLen noFiles : Nat) : Nat :=
  fileTabStart noPartitions strLen + xmefFileCodec.size * noFiles

def tablesEnd (noPartitions strLen noFiles : Nat) : Nat :=
  alignUp (fileTabEnd noPartitions strLen noFiles) 8

theorem strTabStart_eq (noPartitions : Nat) : strTabStart noPartitions = 64 + 24 * noPartitions :=
  rfl

theorem fileTabEnd_eq (noPartitions strLen noFiles : Nat)
    : fileTabEnd noPartitions strLen noFiles
      = fileTabStart noPartitions strLen + 12 * noFiles :=
  rfl

theorem le_fileTabStart (noPartitions strLen : Nat)
    : strTabStart noPartitions + strLen ≤ fileTabStart noPartitions strLen :=
  le_alignUp (by decide) _

theorem le_tablesEnd (noPartitions strLen noFiles : Nat)
    : fileTabEnd noPartitions strLen noFiles ≤ tablesEnd noPartitions strLen noFiles :=
  le_alignUp (by decide) _

/-- The requests of the options. -/
def fileRequests (host : Host) (fileTab : List NamedFile) : List Request :=
  fileTab.map fun file => (file.offset, (host.openFile file.name).getD [])

theorem fileRequests_eq {host : Host} {files : List PackedFile} {l : Loaded}
    (loaded : LoadedFiles host files l)
    : fileRequests host (files.map PackedFile.file)
      = files.map fun packed => (packed.file.offset, packed.bytes) := by
  rw [fileRequests, List.map_map]
  apply List.map_congr_left
  intro packed member
  simp [loaded.opened packed member]

-----------------------------------------------------------------------------------------
-- The tables

structure TablesWritten (t : Tables) (l : Loaded) (p : Packing) : Prop where
  below : strTabStart t.partitionTab.length + l.strTab.length ≤ OFF_MAX
  partitionTabOffset : p.partitionTabOffset.toNat = containerHdrCodec.size
  strTabOffset : p.strTabOffset.toNat = strTabStart t.partitionTab.length
  fileTabOffset
    : p.fileTabOffset.toNat = fileTabStart t.partitionTab.length l.strTab.length
  pos
    : fileTabEnd t.partitionTab.length l.strTab.length l.xmefFileTab.length ≤ OFF_MAX →
      p.pos.toNat = tablesEnd t.partitionTab.length l.strTab.length l.xmefFileTab.length
  partitionTab
    : HasBytes p.fd.content containerHdrCodec.size (xmefPartitionCodec.encodeTable t.partitionTab)
  strTab : HasBytes p.fd.content (strTabStart t.partitionTab.length) l.strTab
  length
    : p.fd.content.length ≤ strTabStart t.partitionTab.length + l.strTab.length

theorem writeTables_ok {t : Tables} {l : Loaded} {p : Packing} (written : writeTables t l = .ok p)
    : TablesWritten t l p := by
  unfold writeTables at written
  dsimp only at written
  obtain ⟨fd₁, first, written⟩ := bind_eq_ok.mp written
  obtain ⟨fd₂, second, written⟩ := bind_eq_ok.mp written
  cases written
  have hdrSize : containerHdrCodec.size = 64 := rfl
  have rowSize : xmefPartitionCodec.size = 24 := rfl
  have fileSize : xmefFileCodec.size = 12 := rfl
  have tabStart := strTabStart_eq t.partitionTab.length
  generalize partitionTabOffset : alignTo (BitVec.ofNat 32 containerHdrCodec.size) 8 = tab
    at first second
  have tabOffset : tab.toNat = 64 := by
    rw [← partitionTabOffset]
    rfl
  obtain ⟨room, content₁⟩ := doWrite_lseek first (by rw [tabOffset]; decide)
  rw [tabOffset, xmefPartitionCodec.length_encodeTable, rowSize] at room
  unfold OFF_MAX at room
  generalize strTabOffset : alignTo
    (tab + BitVec.ofNat 32 (xmefPartitionCodec.size * t.partitionTab.length)) 8 = str at second
  have strOffset : str.toNat = strTabStart t.partitionTab.length := by
    have sum : (tab + BitVec.ofNat 32 (xmefPartitionCodec.size * t.partitionTab.length)).toNat
        = strTabStart t.partitionTab.length := by
      rw [toNat_add_ofNat (by rw [tabOffset, rowSize]; omega), tabOffset, rowSize, tabStart]
    rw [← strTabOffset, alignTo_eight (by omega), sum]
    exact (eq_alignUp (Nat.le_refl _) (by omega) (by omega)).symm
  obtain ⟨room₂, content₂⟩ := doWrite_lseek second (by unfold OFF_MAX; omega)
  rw [strOffset] at room₂ content₂
  have files : (alignTo (str + BitVec.ofNat 32 l.strTab.length) 8).toNat
      = fileTabStart t.partitionTab.length l.strTab.length := by
    unfold OFF_MAX at room₂
    have sum := toNat_add_ofNat (x := str) (n := l.strTab.length) (by omega)
    rw [alignTo_eight (by omega), sum, strOffset]
    rfl
  have row : (xmefPartitionCodec.encodeTable t.partitionTab).length
      = 24 * t.partitionTab.length :=
    xmefPartitionCodec.length_encodeTable t.partitionTab
  refine ⟨room₂, tabOffset, strOffset, files, ?_, ?_, ?_, ?_⟩
  · intro below
    have ending := fileTabEnd_eq t.partitionTab.length l.strTab.length l.xmefFileTab.length
    unfold OFF_MAX at below
    have sum := toNat_add_ofNat (x := alignTo (str + BitVec.ofNat 32 l.strTab.length) 8)
      (n := xmefFileCodec.size * l.xmefFileTab.length) (by rw [files, fileSize]; omega)
    rw [files] at sum
    change _ = fileTabEnd _ _ _ at sum
    rw [alignTo_eight (by omega), sum]
    rfl
  · rw [content₂, content₁, tabOffset]
    exact (hasBytes_writeAt 0 [] 64 _).writeAt 0 (.inl (by omega))
  · rw [content₂]
    exact hasBytes_writeAt 0 _ _ _
  · rw [content₂]
    refine length_writeAt_le 0 ?_ (Nat.le_refl _)
    rw [content₁, tabOffset]
    exact length_writeAt_le 0 (Nat.zero_le _) (by omega)

-----------------------------------------------------------------------------------------
-- The files

/-- What is asked for a file that is loaded. -/
def PackedFile.request (packed : PackedFile) : Request := (packed.file.offset, packed.bytes)

theorem layoutEnd_cons (pos : Nat) (packed : PackedFile) (files : List PackedFile)
    : layoutEnd pos ((packed :: files).map PackedFile.request)
      = layoutEnd (startOf pos packed.file.offset + packed.bytes.length)
        (files.map PackedFile.request) :=
  rfl

/-- The bytes of a file are where its entry in the table says, and as many. -/
def HasFile (content : List XmU8) (entry : XmefFile) (bytes : List XmU8) : Prop :=
  entry.size.toNat = bytes.length ∧ HasBytes content entry.offset.toNat bytes

/-- What placing the files after `pos` leaves. -/
structure FilesPlaced (pos : Nat) (files : List PackedFile) (fd fd' : Fd) (last : XmU32)
    (placed : List XmefFile) : Prop where
  bytes
    : List.Forall₂ (fun entry packed => pos ≤ entry.offset.toNat
        ∧ HasFile fd'.content entry packed.bytes) placed files
  aligned : ∀ entry ∈ placed, entry.offset.toNat % CONTAINER_PAGE_SIZE.toNat = 0
  after : ∀ entry ∈ placed, pos ≤ entry.offset.toNat
  apart : placed.Pairwise fun a b => a.offset.toNat + a.size.toNat ≤ b.offset.toNat
  last : last.toNat = layoutEnd pos (files.map PackedFile.request)
  total
    : pos + (files.flatMap PackedFile.bytes).length
      ≤ layoutEnd pos (files.map PackedFile.request)
  length : fd'.content.length ≤ layoutEnd pos (files.map PackedFile.request)
  full
    : lastSize (files.map PackedFile.request) ≠ 0 →
      fd'.content.length = layoutEnd pos (files.map PackedFile.request)
  keeps
    : ∀ position bytes, position + bytes.length ≤ pos → HasBytes fd.content position bytes →
      HasBytes fd'.content position bytes

theorem requestedPos_ok {pos offset requested : XmU32}
    (returned : requestedPos pos offset = .ok requested)
    : requested.toNat = (if offset ≠ 0 then offset.toNat else pos.toNat)
      ∧ pos.toNat ≤ requested.toNat := by
  unfold requestedPos at returned
  split at returned
  · next given =>
      split at returned
      · cases returned
      · next below =>
          cases returned
          rw [if_pos given]
          exact ⟨rfl, BitVec.not_lt.mp below⟩
  · next free =>
      cases returned
      rw [if_neg free]
      exact ⟨rfl, Nat.le_refl _⟩

/-- A page after the position asked for, as far as words go. -/
theorem alignTo_page {pos offset requested : XmU32}
    (returned : requestedPos pos offset = .ok requested)
    : (alignTo requested CONTAINER_PAGE_SIZE).toNat = startOf pos.toNat offset % 2 ^ 32 := by
  have power : CONTAINER_PAGE_SIZE.toNat = 2 ^ 12 := rfl
  rw [alignTo_toNat requested power, startOf, (requestedPos_ok returned).1]

theorem le_startOf {pos offset requested : XmU32}
    (returned : requestedPos pos offset = .ok requested)
    : pos.toNat ≤ startOf pos.toNat offset := by
  obtain ⟨same, above⟩ := requestedPos_ok returned
  rw [startOf, ← same]
  exact above.trans (le_alignUp (by decide) _)

theorem placeFiles_placed {fileData : List XmU8} {files : List PackedFile} {fd fd' : Fd}
    {pos size last : XmU32} {placed : List XmefFile} {done : List XmU8}
    (returned : placeFiles fileData fd pos size
      (files.map fun packed => (packed.file, packed.entry)) = .ok (fd', last, placed))
    (data : fileData = done ++ files.flatMap PackedFile.bytes) (written : size.toNat = done.length)
    (room : done.length ≤ pos.toNat) (length : fd.content.length ≤ pos.toNat)
    (below : ∀ place ∈ layout pos.toNat (files.map PackedFile.request),
      place.1 + place.2.length ≤ OFF_MAX)
    : FilesPlaced pos.toNat files fd fd' last placed := by
  induction files generalizing fd pos size placed done with
  | nil =>
      cases returned
      exact ⟨.nil, by simp, by simp, .nil, rfl, Nat.le_refl _, length,
        fun some => absurd rfl some, fun _ _ _ holds => holds⟩
  | cons packed files ih =>
      obtain ⟨requested, asked, returned⟩ := bind_eq_ok.mp returned
      obtain ⟨fd₁, wrote, returned⟩ := bind_eq_ok.mp returned
      obtain ⟨⟨fd₂, end₂, placed₂⟩, rest, returned⟩ := bind_eq_ok.mp returned
      cases returned
      have start := alignTo_page asked
      have above := le_startOf asked
      have fits : startOf pos.toNat packed.file.offset + packed.bytes.length ≤ OFF_MAX :=
        below _ List.mem_cons_self
      have limit : OFF_MAX < 2 ^ 31 := by decide
      rw [Nat.mod_eq_of_lt (by omega)] at start
      have bytes : readAt fileData size.toNat packed.entry.size.toNat = packed.bytes := by
        rw [data, written, packed.size, List.flatMap_cons]
        simp [readAt]
      rw [bytes] at wrote
      obtain ⟨_, content⟩ := doWrite_lseek wrote (by omega)
      rw [start] at content
      have nextPos : (alignTo requested CONTAINER_PAGE_SIZE + packed.entry.size).toNat
          = startOf pos.toNat packed.file.offset + packed.bytes.length := by
        rw [BitVec.toNat_add, start, packed.size]
        omega
      have nextSize : (size + packed.entry.size).toNat = (done ++ packed.bytes).length := by
        rw [BitVec.toNat_add, written, packed.size, List.length_append]
        omega
      have tail := ih rest (by rw [data, List.flatMap_cons, List.append_assoc]) nextSize
        (by rw [nextPos, List.length_append]; omega)
        (by
          rw [nextPos, content]
          exact length_writeAt_le 0 (by omega) (Nat.le_refl _))
        (by
          rw [nextPos]
          intro place member
          exact below place (List.mem_cons_of_mem _ member))
      rw [nextPos] at tail
      have offset : ∀ entry ∈ placed₂,
          startOf pos.toNat packed.file.offset + packed.bytes.length ≤ entry.offset.toNat :=
        tail.after
      refine ⟨?_, ?_, ?_, ?_, tail.last, ?_, tail.length, ?_, ?_⟩
      · refine .cons ?_ (tail.bytes.imp fun entry packed found => ⟨by omega, found.2⟩)
        unfold HasFile
        dsimp only
        rw [start]
        refine ⟨above, packed.size, tail.keeps _ _ (Nat.le_refl _) ?_⟩
        rw [content]
        exact hasBytes_writeAt 0 _ _ _
      · intro entry member
        rcases List.mem_cons.mp member with rfl | member
        · dsimp only
          rw [start]
          exact alignUp_mod _ _
        · exact tail.aligned entry member
      · intro entry member
        rcases List.mem_cons.mp member with rfl | member
        · dsimp only
          rw [start]
          exact above
        · have after := offset entry member
          omega
      · refine .cons ?_ tail.apart
        intro entry member
        dsimp only
        rw [start, packed.size]
        exact offset entry member
      · have total := tail.total
        rw [List.flatMap_cons, List.length_append, layoutEnd_cons]
        omega
      · intro some
        cases files with
        | nil =>
            cases rest
            have bytes : packed.bytes ≠ [] := List.ne_nil_of_length_pos (Nat.pos_of_ne_zero some)
            rw [content, length_writeAt 0 _ _ bytes]
            exact Nat.max_eq_right (by omega)
        | cons next files =>
            rw [layoutEnd_cons]
            exact tail.full some
      · intro position old inside holds
        refine tail.keeps position old (by omega) ?_
        rw [content]
        exact holds.writeAt 0 (.inl (by omega))

/-- Files that the table has inside a file go where the layout says: nothing wraps around. -/
theorem placeFiles_below {fileData : List XmU8} {files : List PackedFile} {fd fd' : Fd}
    {pos size last : XmU32} {placed : List XmefFile}
    (returned : placeFiles fileData fd pos size
      (files.map fun packed => (packed.file, packed.entry)) = .ok (fd', last, placed))
    (inside : List.Forall₂ (fun entry packed => 0 < entry.offset.toNat
      ∧ entry.offset.toNat + packed.bytes.length ≤ OFF_MAX) placed files)
    : ∀ place ∈ layout pos.toNat (files.map PackedFile.request),
      place.1 + place.2.length ≤ OFF_MAX := by
  induction files generalizing fd pos size placed with
  | nil => simp [layout]
  | cons packed files ih =>
      obtain ⟨requested, asked, returned⟩ := bind_eq_ok.mp returned
      obtain ⟨fd₁, wrote, returned⟩ := bind_eq_ok.mp returned
      obtain ⟨⟨fd₂, end₂, placed₂⟩, rest, returned⟩ := bind_eq_ok.mp returned
      cases returned
      obtain ⟨⟨positive, fits⟩, insideRest⟩ := List.forall₂_cons.mp inside
      dsimp only at positive fits
      have limit : OFF_MAX < 2 ^ 31 := by decide
      have start : (alignTo requested CONTAINER_PAGE_SIZE).toNat
          = startOf pos.toNat packed.file.offset := by
        have page := alignTo_page asked
        have near : startOf pos.toNat packed.file.offset < 2 ^ 32 + 4096 := by
          have same := (requestedPos_ok asked).1
          have bound := requested.isLt
          unfold startOf
          rw [← same]
          exact (alignUp_lt (by decide) _).trans (Nat.add_lt_add_right bound _)
        have multiple : startOf pos.toNat packed.file.offset % 4096 = 0 := alignUp_mod _ _
        -- A position that wraps around is the start of the file.
        omega
      rw [start] at fits
      intro place member
      rcases List.mem_cons.mp member with rfl | member
      · exact fits
      · have next : (alignTo requested CONTAINER_PAGE_SIZE + packed.entry.size).toNat
            = startOf pos.toNat packed.file.offset + packed.bytes.length := by
          rw [BitVec.toNat_add, start, packed.size]
          omega
        have later := ih rest insideRest
        rw [next] at later
        exact later place member

-----------------------------------------------------------------------------------------
-- The container as a whole

/-- What a header says of itself. -/
structure Marked (hdr : XmefContainerHdr) (size : Nat) : Prop where
  signature : hdr.signature = XM_PACKAGE_SIGNATURE
  version : XM_GET_VERSION hdr.version = XMPACK_VERSION
  fileSize : hdr.fileSize.toNat = size

theorem packVersion
    : XM_GET_VERSION (XM_SET_VERSION XMPACK_VERSION XMPACK_SUBVERSION XMPACK_REVISION)
      = XMPACK_VERSION := by
  decide

theorem placeFiles_length {fileData : List XmU8} {files : List (NamedFile × XmefFile)} {fd fd' : Fd}
    {pos size last : XmU32} {placed : List XmefFile}
    (returned : placeFiles fileData fd pos size files = .ok (fd', last, placed))
    (short : fd.content.length ≤ OFF_MAX)
    : fd'.content.length ≤ OFF_MAX := by
  induction files generalizing fd pos size placed with
  | nil =>
      cases returned
      exact short
  | cons file files ih =>
      obtain ⟨requested, asked, returned⟩ := bind_eq_ok.mp returned
      obtain ⟨fd₁, wrote, returned⟩ := bind_eq_ok.mp returned
      obtain ⟨⟨fd₂, end₂, placed₂⟩, rest, returned⟩ := bind_eq_ok.mp returned
      cases returned
      exact ih rest (doWrite_length wrote (by rwa [fd.lseek_content]))

/-- A table of a container, where its header says and with as many entries. -/
structure TableInFile {α : Type} (codec : Codec α XmU8) (container : List XmU8)
    (offset n : XmU32) (table : List α) : Prop where
  holds : HasBytes container offset.toNat (codec.encodeTable table)
  count : n.toNat = table.length
  below : offset.toNat + codec.size * table.length ≤ OFF_MAX

/-- The files of a container fit when the tables and every file end at offsets. -/
structure FitsOffsets (noPartitions strLen : Nat) (files : List Request) : Prop where
  tables : tablesEnd noPartitions strLen files.length ≤ OFF_MAX
  files
    : ∀ place ∈ layout (tablesEnd noPartitions strLen files.length) files,
      place.1 + place.2.length ≤ OFF_MAX

/-- What building a container leaves when everything fits. -/
structure ContainerWritten (digest : Digest) (t : Tables) (l : Loaded) (files : List PackedFile)
    (built : Built) : Prop where
  tables
    : built.partitionTab = t.partitionTab ∧ built.strTab = l.strTab ∧ built.fileData = l.fileData
  short : built.container.length ≤ OFF_MAX
  marked : Marked built.hdr built.container.length
  sealed : ∃ rest, Sealed containerHdrFormat digest built.container built.hdr rest
  partitionTab
    : TableInFile xmefPartitionCodec built.container built.hdr.partitionTabOffset
      built.hdr.noPartitions built.partitionTab
  fileTab
    : TableInFile xmefFileCodec built.container built.hdr.fileTabOffset built.hdr.noFiles
      built.xmefFileTab
  strTab : HasBytes built.container built.hdr.strTabOffset.toNat built.strTab
  strLen : built.hdr.strLen.toNat = built.strTab.length
  partitionTabOffset : built.hdr.partitionTabOffset.toNat = containerHdrCodec.size
  strTabOffset : built.hdr.strTabOffset.toNat = strTabStart t.partitionTab.length
  fileTabOffset
    : built.hdr.fileTabOffset.toNat = fileTabStart t.partitionTab.length l.strTab.length
  bytes
    : List.Forall₂ (fun entry packed => HasFile built.container entry packed.bytes)
      built.xmefFileTab files
  aligned
    : ∀ entry ∈ built.xmefFileTab, entry.offset.toNat % CONTAINER_PAGE_SIZE.toNat = 0
  after
    : ∀ entry ∈ built.xmefFileTab,
      tablesEnd t.partitionTab.length l.strTab.length files.length ≤ entry.offset.toNat
  apart
    : built.xmefFileTab.Pairwise fun a b => a.offset.toNat + a.size.toNat ≤ b.offset.toNat
  fileDataOffset : built.hdr.fileDataOffset.toNat ≤ OFF_MAX
  fileDataLen : built.hdr.fileDataLen.toNat = built.fileData.length
  beyond
    : built.container.drop built.hdr.fileDataOffset.toNat
      = List.replicate (padding (lastSize (files.map PackedFile.request))) 0

/-- The file before its header is written. -/
structure BodyWritten (t : Tables) (l : Loaded) (files : List PackedFile)
    (placed : List XmefFile) (content : List XmU8) : Prop where
  partitionTab
    : HasBytes content containerHdrCodec.size (xmefPartitionCodec.encodeTable t.partitionTab)
  strTab : HasBytes content (strTabStart t.partitionTab.length) l.strTab
  fileTab
    : HasBytes content (fileTabStart t.partitionTab.length l.strTab.length)
      (xmefFileCodec.encodeTable placed)
  bytes
    : List.Forall₂ (fun entry packed =>
        tablesEnd t.partitionTab.length l.strTab.length files.length ≤ entry.offset.toNat
          ∧ HasFile content entry packed.bytes) placed files
  beyond
    : content.drop (layoutEnd (tablesEnd t.partitionTab.length l.strTab.length files.length)
        (files.map PackedFile.request))
      = List.replicate (padding (lastSize (files.map PackedFile.request))) 0

/-- The zeros after the last file are the padding of its size. -/
theorem drop_padding {content : List XmU8} {ending size : Nat} (within : content.length ≤ ending)
    (words : ending % 4 = size % 4) (full : size ≠ 0 → content.length = ending)
    : (content ++ List.replicate (padding content.length) 0).drop ending
      = List.replicate (padding size) 0 := by
  rw [List.drop_append, List.drop_of_length_le within, List.nil_append, List.drop_replicate]
  congr 1
  unfold padding
  by_cases none : size = 0
  · omega
  · have same := full none
    omega

theorem body_written {t : Tables} {l : Loaded} {files : List PackedFile} {p : Packing}
    {fd₁ fd₂ : Fd} {last : XmU32} {placed : List XmefFile} (tab : TablesWritten t l p)
    (below : tablesEnd t.partitionTab.length l.strTab.length files.length ≤ OFF_MAX)
    (filesPlaced : FilesPlaced (tablesEnd t.partitionTab.length l.strTab.length files.length)
      files p.fd fd₁ last placed)
    (table : (fd₁.lseek p.fileTabOffset).doWrite BuildError.write
      (xmefFileCodec.encodeTable placed) = .ok fd₂)
    : BodyWritten t l files placed
      (fd₂.content ++ List.replicate (padding fd₂.content.length) 0) := by
  have tabSize := strTabStart_eq t.partitionTab.length
  have strings := le_fileTabStart t.partitionTab.length l.strTab.length
  have fileTabSize := fileTabEnd_eq t.partitionTab.length l.strTab.length files.length
  have ending := le_tablesEnd t.partitionTab.length l.strTab.length files.length
  have rows : (xmefPartitionCodec.encodeTable t.partitionTab).length
      = 24 * t.partitionTab.length :=
    xmefPartitionCodec.length_encodeTable _
  have entriesSize : (xmefFileCodec.encodeTable placed).length = 12 * files.length := by
    rw [← filesPlaced.bytes.length_eq]
    exact xmefFileCodec.length_encodeTable _
  obtain ⟨_, content⟩ := doWrite_lseek table (by rw [tab.fileTabOffset]; omega)
  rw [tab.fileTabOffset] at content
  have hdrSize : containerHdrCodec.size = 64 := rfl
  refine ⟨?_, ?_, ?_, ?_, ?_⟩
  · have kept := filesPlaced.keeps _ _ (by omega) tab.partitionTab
    rw [content]
    exact (kept.writeAt 0 (.inl (by omega))).append _
  · have kept := filesPlaced.keeps _ _ (by omega) tab.strTab
    rw [content]
    exact (kept.writeAt 0 (.inl strings)).append _
  · rw [content]
    exact (hasBytes_writeAt 0 _ _ _).append _
  · refine filesPlaced.bytes.imp fun entry packed found => ?_
    rw [content]
    exact ⟨found.1, found.2.1, (found.2.2.writeAt 0 (.inr (by omega))).append _⟩
  · have after := filesPlaced.total
    apply drop_padding
    · rw [content]
      exact length_writeAt_le 0 filesPlaced.length (by omega)
    · apply layoutEnd_mod
      have eight : tablesEnd t.partitionTab.length l.strTab.length files.length % 8 = 0 :=
        alignUp_mod _ _
      omega
    · intro some
      have full := filesPlaced.full some
      apply Nat.le_antisymm
      · rw [content]
        exact length_writeAt_le 0 filesPlaced.length (by omega)
      · rw [← full, content]
        exact length_le_writeAt 0 _ _ _

theorem writeContainerToFile_written {digest : Digest} {host : Host} {t : Tables} {l : Loaded}
    {files : List PackedFile} {built : Built}
    (returned : writeContainerToFile digest t l = .ok built)
    (named : files.map PackedFile.file = t.fileTab) (loaded : LoadedFiles host files l)
    (some : t.partitionTab ≠ [])
    (fits : FitsOffsets t.partitionTab.length l.strTab.length (files.map PackedFile.request))
    : ContainerWritten digest t l files built := by
  obtain ⟨p, tables, returned⟩ := bind_eq_ok.mp returned
  obtain ⟨⟨fd₁, last, placed⟩, files₁, returned⟩ := bind_eq_ok.mp returned
  obtain ⟨fd₂, table, returned⟩ := bind_eq_ok.mp returned
  obtain ⟨⟨fileSize, fd₃⟩, padded, returned⟩ := bind_eq_ok.mp returned
  obtain ⟨⟨hdr, fd₄⟩, header, returned⟩ := bind_eq_ok.mp returned
  cases returned
  have tab := writeTables_ok tables
  have zipped : t.fileTab.zip l.xmefFileTab
      = files.map fun packed => (packed.file, packed.entry) := by
    rw [← named, loaded.table, List.zip_map']
  rw [zipped] at files₁
  have count : l.xmefFileTab.length = files.length := by rw [loaded.table, List.length_map]
  have requested : (files.map PackedFile.request).length = files.length := List.length_map _
  have below := fits.tables
  have places := fits.files
  rw [requested] at below places
  have ending := le_tablesEnd t.partitionTab.length l.strTab.length files.length
  have start := tab.pos (by rw [count]; omega)
  rw [count] at start
  have data : l.fileData = [] ++ files.flatMap PackedFile.bytes := loaded.data
  have placedFiles := placeFiles_placed files₁ data rfl (Nat.zero_le _)
    (by
      have strings := le_fileTabStart t.partitionTab.length l.strTab.length
      have fileTab := fileTabEnd_eq t.partitionTab.length l.strTab.length files.length
      have length := tab.length
      omega)
    (by rwa [start])
  rw [start] at placedFiles
  have short : fd₂.content.length ≤ OFF_MAX :=
    doWrite_length table (by
      rw [fd₁.lseek_content]
      exact placeFiles_length files₁ (tab.length.trans tab.below))
  obtain ⟨content, short₃, size⟩ := fillWords_ok padded short
  have body := body_written tab below placedFiles table
  rw [← content] at body
  have rows : (xmefPartitionCodec.encodeTable t.partitionTab).length
      = 24 * t.partitionTab.length :=
    xmefPartitionCodec.length_encodeTable _
  have positive := List.length_pos_iff.mpr some
  have long : containerHdrCodec.size ≤ fd₃.content.length :=
    (Nat.le_add_right _ _).trans
      (body.partitionTab.length_le (List.ne_nil_of_length_pos (by omega)))
  have sealed := writeHdr_sealed header rfl size long
  have formatSize : containerHdrFormat.codec.size = 64 := rfl
  obtain ⟨sum, same⟩ := writeHdr_hdr header
  dsimp only [containerHdrFormat] at same
  subst same
  have same := sealed.length long
  have hdrSize : containerHdrCodec.size = 64 := rfl
  have tabStart := strTabStart_eq t.partitionTab.length
  have strings := le_fileTabStart t.partitionTab.length l.strTab.length
  have fileTab := fileTabEnd_eq t.partitionTab.length l.strTab.length files.length
  have placedCount := placedFiles.bytes.length_eq
  have total := placedFiles.total
  have ended := layoutEnd_le below places
  refine ⟨⟨rfl, rfl, rfl⟩, same.le.trans short₃, ⟨rfl, packVersion, size.trans same.symm⟩,
    ⟨_, sealed⟩, ⟨?_, ?_, ?_⟩, ⟨?_, ?_, ?_⟩, ?_, ?_, tab.partitionTabOffset, tab.strTabOffset,
    tab.fileTabOffset, ?_, placedFiles.aligned, placedFiles.after, placedFiles.apart, ?_, ?_, ?_⟩
  · dsimp only
    rw [tab.partitionTabOffset]
    exact sealed.keeps (Nat.le_refl _) body.partitionTab
  · exact toNat_ofNat_of_le (by omega)
  · dsimp only
    rw [tab.partitionTabOffset]
    change 64 + 24 * _ ≤ _
    omega
  · dsimp only
    rw [tab.fileTabOffset]
    exact sealed.keeps (by omega) body.fileTab
  · dsimp only
    rw [← named, List.length_map, placedCount]
    exact toNat_ofNat_of_le (by omega)
  · dsimp only
    rw [tab.fileTabOffset, placedCount]
    exact ending.trans below
  · dsimp only
    rw [tab.strTabOffset]
    exact sealed.keeps (by omega) body.strTab
  · exact toNat_ofNat_of_le (by omega)
  · exact body.bytes.imp fun entry packed found =>
      ⟨found.2.1, sealed.keeps (by omega) found.2.2⟩
  · dsimp only
    rw [placedFiles.last]
    exact ended
  · dsimp only
    rw [← loaded.data] at total
    exact toNat_ofNat_of_le (by omega)
  · dsimp only
    rw [placedFiles.last, sealed.drop (by omega)]
    exact body.beyond

end XtratuM.Boot
