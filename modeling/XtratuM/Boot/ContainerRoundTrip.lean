import XtratuM.Boot.ContainerWriting

/-! Containers that are built and read back. The tables are read as they were written, the files
are where the file table says, and the boot loader accepts the container; the file data is another
matter, as the header tells where it ends.
-/

namespace XtratuM.Boot

open ByteFiles

-----------------------------------------------------------------------------------------
-- Reading a sealed container

theorem Sealed.parses {digest : Digest} {container rest : List XmU8} {hdr : XmefContainerHdr}
    (sealed : Sealed containerHdrFormat digest container hdr rest)
    (marked : Marked hdr container.length)
    : ∃ file, parseXefContainer digest container = .ok file := by
  have long : 64 ≤ container.length := sealed.long
  have decoded : containerHdrCodec.decode (readAt container 0 containerHdrCodec.size) = hdr :=
    sealed.hdr_eq
  have after : (hdr.fileSize - BitVec.ofNat 32 AFTER_DIGEST).toNat
      = (container.drop AFTER_DIGEST).length := by
    have offset : (BitVec.ofNat 32 AFTER_DIGEST).toNat = 28 := rfl
    rw [BitVec.toNat_sub_of_le, marked.fileSize, List.length_drop]
    · rfl
    · rw [BitVec.le_def, marked.fileSize, offset]
      omega
  have computed : digestAround digest (readAt container 0 DIGEST_OFFSET)
      (readAt container AFTER_DIGEST (hdr.fileSize - BitVec.ofNat 32 AFTER_DIGEST).toNat)
        = hdr.digest := by
    rw [after, readAt, readAt, List.take_length]
    exact sealed.digest_eq
  unfold parseXefContainer
  dsimp only
  rw [decoded, if_neg (not_not.mpr marked.signature),
    if_neg fun wrong => wrong.1 marked.version, computed, if_neg fun wrong => wrong.2 rfl]
  exact ⟨_, rfl⟩

/-- What is read of a sealed container whose offsets are not refused. -/
theorem Sealed.reads {digest : Digest} {container rest : List XmU8} {hdr : XmefContainerHdr}
    (sealed : Sealed containerHdrFormat digest container hdr rest)
    (marked : Marked hdr container.length)
    (short : container.length ≤ OFF_MAX)
    (offsets : ∀ offset ∈ [hdr.partitionTabOffset, hdr.fileTabOffset, hdr.fileDataOffset,
      hdr.strTabOffset], offset.toNat ≤ OFF_MAX)
    : readContainerFromFile digest container = .ok
        { hdr
          partitionTab := xmefPartitionCodec.decodeTable (entries hdr.noPartitions)
            (readAt container hdr.partitionTabOffset.toNat
              (hdr.noPartitions * BitVec.ofNat 32 xmefPartitionCodec.size).toNat)
          xmefFileTab := xmefFileCodec.decodeTable (entries hdr.noFiles)
            (readAt container hdr.fileTabOffset.toNat
              (hdr.noFiles * BitVec.ofNat 32 xmefFileCodec.size).toNat)
          fileData := readAt container hdr.fileDataOffset.toNat hdr.fileDataLen.toNat
          strTab := readAt container hdr.strTabOffset.toNat hdr.strLen.toNat } := by
  have limit : OFF_MAX < 2 ^ 31 := by decide
  have size : (BitVec.ofNat 32 container.length).toNat = container.length := by
    rw [BitVec.toNat_ofNat]
    omega
  have hdrSize : (BitVec.ofNat 32 containerHdrCodec.size).toNat = containerHdrCodec.size := rfl
  have decoded : containerHdrCodec.decode (container.take containerHdrCodec.size) = hdr :=
    sealed.hdr_eq
  have computed : digest (Boot.withoutDigest container) = hdr.digest := sealed.withoutDigest
  simp only [List.mem_cons, List.not_mem_nil, or_false, forall_eq_or_imp, forall_eq] at offsets
  obtain ⟨partitions, files, data, strings⟩ := offsets
  unfold readContainerFromFile Fd.lseekEnd
  simp only [Fd.readFrom_start, Fd.readFrom_content, size, List.take_length, ne_eq,
    not_true_eq_false, if_false, hdrSize, decoded, computed, marked.signature,
    Fd.readFrom_bytes _ partitions, Fd.readFrom_bytes _ files, Fd.readFrom_bytes _ data,
    Fd.readFrom_bytes _ strings]
  rw [if_neg fun wrong => wrong.2]

theorem TableInFile.read {α : Type} {codec : Codec α XmU8} {container : List XmU8}
    {offset n : XmU32} {table : List α} (inFile : TableInFile codec container offset n table)
    (positive : 0 < codec.size) (word : codec.size < 2 ^ 32)
    : codec.decodeTable (entries n)
        (readAt container offset.toNat (n * BitVec.ofNat 32 codec.size).toNat) = table := by
  have limit : OFF_MAX < 2 ^ 31 := by decide
  have below := inFile.below
  have few : table.length ≤ codec.size * table.length := Nat.le_mul_of_pos_left _ positive
  have count : entries n = table.length := by
    unfold entries
    rw [BitVec.toInt_eq_toNat_of_lt (by have := inFile.count; omega), inFile.count]
    rfl
  have size : (n * BitVec.ofNat 32 codec.size).toNat = (codec.encodeTable table).length := by
    rw [BitVec.toNat_mul, BitVec.toNat_ofNat, Nat.mod_eq_of_lt word, inFile.count,
      codec.length_encodeTable, Nat.mul_comm]
    omega
  rw [count, size, hasBytes_iff_readAt.mp inFile.holds, codec.decodeTable_encodeTable]

-----------------------------------------------------------------------------------------
-- The round trip

/-- What is read of a container is what was written, the files are in pages after the tables, one
after the other, and their bytes are where the file table says.
-/
structure ReadAsWritten (contents : List (List XmU8)) (built : Built) (read : ReadContainer)
    : Prop where
  partitionTab : read.partitionTab = built.partitionTab
  xmefFileTab : read.xmefFileTab = built.xmefFileTab
  strTab : read.strTab = built.strTab
  fileData : read.fileData = built.fileData
  bytes : List.Forall₂ (HasFile built.container) read.xmefFileTab contents
  aligned : ∀ entry ∈ read.xmefFileTab, entry.offset.toNat % CONTAINER_PAGE_SIZE.toNat = 0
  apart
    : read.xmefFileTab.Pairwise fun a b => a.offset.toNat + a.size.toNat ≤ b.offset.toNat
  afterPartitionTab
    : ∀ entry ∈ read.xmefFileTab,
      built.hdr.partitionTabOffset.toNat + xmefPartitionCodec.size * built.partitionTab.length
        ≤ entry.offset.toNat
  afterStrTab
    : ∀ entry ∈ read.xmefFileTab,
      built.hdr.strTabOffset.toNat + built.strTab.length ≤ entry.offset.toNat
  afterFileTab
    : ∀ entry ∈ read.xmefFileTab,
      built.hdr.fileTabOffset.toNat + xmefFileCodec.size * built.xmefFileTab.length
        ≤ entry.offset.toNat

/-- A container with these files reads back as it was written, and is accepted. -/
def RoundTrip (digest : Digest) (contents : List (List XmU8)) (built : Built) : Prop :=
  (∃ read, readContainerFromFile digest built.container = .ok read
    ∧ ReadAsWritten contents built read)
  ∧ ∃ file, parseXefContainer digest built.container = .ok file

/-- The size of the string table. -/
def namesLength (fileTab : List NamedFile) : Nat :=
  (fileTab.map fun file => (basename file.name).length + 1).sum

/-- The container that is asked for fits. -/
def FitsContainer (host : Host) (t : Tables) : Prop :=
  FitsOffsets t.partitionTab.length (namesLength t.fileTab) (fileRequests host t.fileTab)

/-- The files hold zeros only, no more than fill the last file to whole words. -/
def ZerosWithinPadding (files : List Request) : Prop :=
  (files.flatMap Prod.snd).length ≤ padding (lastSize files)
    ∧ ∀ byte ∈ files.flatMap Prod.snd, byte = 0

theorem take_replicate_eq {n : Nat} {data : List XmU8}
    : (List.replicate n 0).take data.length = data
      ↔ data.length ≤ n ∧ ∀ byte ∈ data, byte = 0 := by
  rw [List.take_replicate, eq_comm, List.eq_replicate_iff]
  constructor
  · rintro ⟨length, zeros⟩
    exact ⟨by omega, zeros⟩
  · rintro ⟨length, zeros⟩
    exact ⟨by omega, zeros⟩

theorem ContainerWritten.reads {digest : Digest} {t : Tables} {l : Loaded}
    {files : List PackedFile} {built : Built} (written : ContainerWritten digest t l files built)
    : readContainerFromFile digest built.container = .ok
        { hdr := built.hdr
          partitionTab := built.partitionTab
          xmefFileTab := built.xmefFileTab
          fileData := (List.replicate (padding (lastSize (files.map PackedFile.request))) 0).take
            built.fileData.length
          strTab := built.strTab } := by
  obtain ⟨rest, sealed⟩ := written.sealed
  have partitionTab := written.partitionTab.below
  have fileTab := written.fileTab.below
  have strings := le_fileTabStart t.partitionTab.length l.strTab.length
  have strTabOffset := written.strTabOffset
  have fileTabOffset := written.fileTabOffset
  rw [sealed.reads written.marked written.short, written.partitionTab.read (by decide) (by decide),
    written.fileTab.read (by decide) (by decide), written.strLen,
    hasBytes_iff_readAt.mp written.strTab, readAt, written.beyond, written.fileDataLen]
  simp only [List.mem_cons, List.not_mem_nil, or_false, forall_eq_or_imp, forall_eq]
  exact ⟨by omega, by omega, written.fileDataOffset, by omega⟩

theorem ContainerWritten.roundTrip_iff {digest : Digest} {host : Host} {t : Tables} {l : Loaded}
    {files : List PackedFile} {built : Built} (written : ContainerWritten digest t l files built)
    (loaded : LoadedFiles host files l)
    : RoundTrip digest (files.map PackedFile.bytes) built
      ↔ ZerosWithinPadding (files.map PackedFile.request) := by
  have data : built.fileData = (files.map PackedFile.request).flatMap Prod.snd := by
    rw [written.tables.2.2, loaded.data, List.flatMap_map]
    rfl
  have ending := le_tablesEnd t.partitionTab.length l.strTab.length files.length
  have fileTab := fileTabEnd_eq t.partitionTab.length l.strTab.length files.length
  have strings := le_fileTabStart t.partitionTab.length l.strTab.length
  unfold ZerosWithinPadding
  rw [← data, ← take_replicate_eq]
  constructor
  · rintro ⟨⟨read, returned, asWritten⟩, _⟩
    rw [written.reads] at returned
    cases returned
    exact asWritten.fileData
  · intro zeros
    obtain ⟨rest, sealed⟩ := written.sealed
    refine ⟨⟨_, written.reads, rfl, rfl, rfl, zeros, ?_, written.aligned, written.apart, ?_, ?_,
      ?_⟩, sealed.parses written.marked⟩
    · rw [List.forall₂_map_right_iff]
      exact written.bytes
    · intro entry member
      have after := written.after entry member
      rw [written.partitionTabOffset, written.tables.1]
      change strTabStart _ ≤ _
      omega
    · intro entry member
      have after := written.after entry member
      rw [written.strTabOffset, written.tables.2.1]
      omega
    · intro entry member
      have after := written.after entry member
      rw [written.fileTabOffset, written.bytes.length_eq]
      exact ending.trans after

theorem namesLength_eq {host : Host} {files : List PackedFile} {l : Loaded}
    (loaded : LoadedFiles host files l)
    : namesLength (files.map PackedFile.file) = l.strTab.length := by
  rw [loaded.strings, List.length_flatMap, namesLength, List.map_map]
  congr 1
  apply List.map_congr_left
  intro packed _
  simp

theorem forall₂_imp_mem {α β : Type} {R S : α → β → Prop} {as : List α} {bs : List β}
    (related : List.Forall₂ R as bs) (imp : ∀ a ∈ as, ∀ b ∈ bs, R a b → S a b)
    : List.Forall₂ S as bs := by
  induction related with
  | nil => exact .nil
  | cons first _ ih =>
      refine .cons (imp _ List.mem_cons_self _ List.mem_cons_self first) (ih ?_)
      intro a inA b inB
      exact imp a (List.mem_cons_of_mem _ inA) b (List.mem_cons_of_mem _ inB)

/-- Files that are where the file table says, in a container that could be written, fit. -/
theorem ReadAsWritten.fits {digest : Digest} {host : Host} {t : Tables} {l : Loaded}
    {files : List PackedFile} {built : Built} {read : ReadContainer}
    (asWritten : ReadAsWritten (files.map PackedFile.bytes) built read)
    (returned : writeContainerToFile digest t l = .ok built)
    (named : files.map PackedFile.file = t.fileTab) (loaded : LoadedFiles host files l)
    (some : ∀ packed ∈ files, packed.bytes ≠ [])
    : FitsOffsets t.partitionTab.length l.strTab.length (files.map PackedFile.request) := by
  obtain ⟨p, tables, returned⟩ := bind_eq_ok.mp returned
  obtain ⟨⟨fd₁, last, placed⟩, files₁, returned⟩ := bind_eq_ok.mp returned
  obtain ⟨fd₂, table, returned⟩ := bind_eq_ok.mp returned
  obtain ⟨⟨fileSize, fd₃⟩, padded, returned⟩ := bind_eq_ok.mp returned
  obtain ⟨⟨hdr, fd₄⟩, header, returned⟩ := bind_eq_ok.mp returned
  cases returned
  have tab := writeTables_ok tables
  have zipped : t.fileTab.zip l.xmefFileTab
      = files.map fun packed => (packed.file, packed.entry) := by
    rw [← named, loaded.table, List.zip_map']
  rw [zipped] at files₁
  have short₁ : fd₁.content.length ≤ OFF_MAX :=
    placeFiles_length files₁ (tab.length.trans tab.below)
  have short₂ : fd₂.content.length ≤ OFF_MAX :=
    doWrite_length table (by rwa [fd₁.lseek_content])
  obtain ⟨_, short₃, _⟩ := fillWords_ok padded short₂
  have short := writeHdr_length header short₃
  obtain ⟨sum, same⟩ := writeHdr_hdr header
  dsimp only [containerHdrFormat] at same
  subst same
  have entries : read.xmefFileTab = placed := asWritten.xmefFileTab
  have bytes := asWritten.bytes
  have after := asWritten.afterFileTab
  have aligned := asWritten.aligned
  rw [entries] at bytes after aligned
  rw [List.forall₂_map_right_iff] at bytes
  have count : l.xmefFileTab.length = files.length := by rw [loaded.table, List.length_map]
  have start := tab.fileTabOffset
  have tabStart := strTabStart_eq t.partitionTab.length
  have strings := le_fileTabStart t.partitionTab.length l.strTab.length
  have inside : List.Forall₂ (fun entry packed => 0 < entry.offset.toNat
      ∧ entry.offset.toNat + packed.bytes.length ≤ OFF_MAX) placed files := by
    apply forall₂_imp_mem bytes
    intro entry inTable packed inFiles found
    have ending := found.2.length_le (some packed inFiles)
    have behind := after entry inTable
    dsimp only at behind ending
    exact ⟨by omega, ending.trans short⟩
  have below : tablesEnd t.partitionTab.length l.strTab.length files.length ≤ OFF_MAX := by
    have fileTab := fileTabEnd_eq t.partitionTab.length l.strTab.length files.length
    have near : tablesEnd t.partitionTab.length l.strTab.length files.length
        < fileTabEnd t.partitionTab.length l.strTab.length files.length + 8 :=
      alignUp_lt (by decide) _
    have eight : tablesEnd t.partitionTab.length l.strTab.length files.length % 8 = 0 :=
      alignUp_mod _ _
    cases inside with
    | nil =>
        -- Without files there are no names either, and the tables end with the partitions.
        have nameless : l.strTab.length = 0 := by rw [loaded.strings]; rfl
        have nearTab : fileTabStart t.partitionTab.length l.strTab.length
            < strTabStart t.partitionTab.length + l.strTab.length + 8 :=
          alignUp_lt (by decide) _
        have eightTab : fileTabStart t.partitionTab.length l.strTab.length % 8 = 0 :=
          alignUp_mod _ _
        have room := tab.below
        rw [List.length_nil] at *
        omega
    | @cons entry packed placed files first _ =>
        have behind := after entry List.mem_cons_self
        have page := aligned entry List.mem_cons_self
        have count := bytes.length_eq
        have twelve : xmefFileCodec.size = 12 := rfl
        have pageSize : CONTAINER_PAGE_SIZE.toNat = 4096 := rfl
        dsimp only at behind
        rw [count, twelve, start] at behind
        rw [pageSize] at page
        omega
  have ending := le_tablesEnd t.partitionTab.length l.strTab.length files.length
  have position := tab.pos (by rw [count]; omega)
  have places := placeFiles_below files₁ inside
  rw [position, count] at places
  constructor
  · rw [List.length_map]
    exact below
  · rw [List.length_map]
    exact places

/-- The row of the hypervisor is always there. -/
theorem packOptions_ne_nil {memory : Nat → XmefPartition} {options : List PackOption} {t : Tables}
    (accepted : packOptions memory options = .ok t)
    : t.partitionTab ≠ [] := by
  have step : ∀ {s s' : Bool × Tables} {option : PackOption}, s.2.partitionTab ≠ [] →
      packOption memory s option = .ok s' → s'.2.partitionTab ≠ [] := by
    intro s s' option some returned
    cases option with
    | p id files =>
        obtain ⟨t', info, rfl⟩ := map_eq_ok.mp returned
        unfold getPartitionInfo at info
        split at info
        · cases info
        · obtain ⟨row, _, rfl⟩ := map_eq_ok.mp info
          simp
    | h files =>
        unfold packOption at returned
        dsimp only at returned
        split at returned
        · cases returned
        · obtain ⟨t', info, rfl⟩ := map_eq_ok.mp returned
          obtain ⟨⟨row, fileTab⟩, _, info⟩ := bind_eq_ok.mp info
          dsimp only at info
          split at info
          · cases info
          · cases info
            exact List.cons_ne_nil _ _
  have run : ∀ (options : List PackOption) {s s' : Bool × Tables}, s.2.partitionTab ≠ [] →
      options.foldlM (packOption memory) s = .ok s' → s'.2.partitionTab ≠ [] := by
    intro options
    induction options with
    | nil =>
        intro s s' some returned
        cases returned
        exact some
    | cons option options ih =>
        intro s s' some returned
        obtain ⟨s₁, first, later⟩ := bind_eq_ok.mp returned
        exact ih (step some first) later
  obtain ⟨s, returned, seen⟩ := bind_eq_ok.mp accepted
  split at seen
  · cases seen
    exact run options (List.cons_ne_nil _ _) returned
  · cases seen

/-- The tables and the files of a container that is built. -/
theorem doBuild_ok {digest : Digest} {host : Host} {memory : Nat → XmefPartition}
    {options : List PackOption} {built : Built}
    (accepted : doBuild digest host memory options = .ok built)
    : ∃ t l files, packOptions memory options = .ok t ∧ files.map PackedFile.file = t.fileTab
      ∧ LoadedFiles host files l ∧ writeContainerToFile digest t l = .ok built := by
  obtain ⟨t, tables, accepted⟩ := bind_eq_ok.mp accepted
  obtain ⟨l, loading, written⟩ := bind_eq_ok.mp accepted
  obtain ⟨files, named, loaded⟩ := loadFiles_loaded loading
  exact ⟨t, l, files, tables, named, loaded, written⟩

theorem fits_roundTrip_iff {digest : Digest} {host : Host} {memory : Nat → XmefPartition}
    {options : List PackOption} {built : Built} {t : Tables}
    (accepted : doBuild digest host memory options = .ok built)
    (tables : packOptions memory options = .ok t) (fits : FitsContainer host t)
    : RoundTrip digest ((fileRequests host t.fileTab).map Prod.snd) built
      ↔ ZerosWithinPadding (fileRequests host t.fileTab) := by
  obtain ⟨t', l, files, tables', named, loaded, written⟩ := doBuild_ok accepted
  cases tables.symm.trans tables'
  have requested : fileRequests host t.fileTab = files.map PackedFile.request := by
    rw [← named, fileRequests_eq loaded]
    rfl
  unfold FitsContainer at fits
  rw [requested, ← named, namesLength_eq loaded] at fits
  rw [requested, List.map_map]
  exact (writeContainerToFile_written written named loaded (packOptions_ne_nil tables) fits
    ).roundTrip_iff loaded

theorem roundTrip_fits {digest : Digest} {host : Host} {memory : Nat → XmefPartition}
    {options : List PackOption} {built : Built} {t : Tables}
    (accepted : doBuild digest host memory options = .ok built)
    (tables : packOptions memory options = .ok t)
    (some : ∀ file ∈ fileRequests host t.fileTab, file.2 ≠ [])
    (trip : RoundTrip digest ((fileRequests host t.fileTab).map Prod.snd) built)
    : FitsContainer host t := by
  obtain ⟨t', l, files, tables', named, loaded, written⟩ := doBuild_ok accepted
  cases tables.symm.trans tables'
  have requested : fileRequests host t.fileTab = files.map PackedFile.request := by
    rw [← named, fileRequests_eq loaded]
    rfl
  rw [requested, List.map_map] at trip
  rw [requested] at some
  obtain ⟨⟨read, _, asWritten⟩, _⟩ := trip
  unfold FitsContainer
  rw [requested, ← named, namesLength_eq loaded]
  exact asWritten.fits written named loaded fun packed member =>
    some _ (List.mem_map_of_mem member)

/-- A container whose tables and files end at offsets reads back as it was written just when its
files hold zeros only, no more than fill the last one to whole words; one without empty files that
reads back has all its tables and files there.
-/
theorem container_roundTrip_iff {digest : Digest} {host : Host} {memory : Nat → XmefPartition}
    {options : List PackOption} {built : Built}
    (accepted : doBuild digest host memory options = .ok built)
    : ∃ t, packOptions memory options = .ok t
      ∧ (FitsContainer host t →
        (RoundTrip digest ((fileRequests host t.fileTab).map Prod.snd) built
          ↔ ZerosWithinPadding (fileRequests host t.fileTab)))
      ∧ ((∀ file ∈ fileRequests host t.fileTab, file.2 ≠ []) →
        RoundTrip digest ((fileRequests host t.fileTab).map Prod.snd) built →
        FitsContainer host t) := by
  obtain ⟨t, l, files, tables, _⟩ := doBuild_ok accepted
  exact ⟨t, tables, fits_roundTrip_iff accepted tables, roundTrip_fits accepted tables⟩

/-- A host with two files, `a` and `b`. -/
def twoFiles (a b : List XmU8) : Host := fun name =>
  if name = [0x61] then some a else if name = [0x62] then some b else none

def hypervisorOption : List PackOption := [.h [.name [0x61] 0, .name [0x62] 0]]

def freshRow : Nat → XmefPartition := fun _ =>
  { id := 0, file := 0, noCustomFiles := 0, customFileTab := fun _ => 0 }

def lengthDigest : Digest := fun bytes => Vector.replicate _ (BitVec.ofNat 8 bytes.length)

theorem exists_ok {ε α : Type} {result : Except ε α} (returned : result.isOk = true)
    : ∃ a, result = .ok a := by
  cases result with
  | error _ => cases returned
  | ok a => exact ⟨a, rfl⟩

theorem container_roundTrip_zeros
    : ∃ built, doBuild lengthDigest (twoFiles [0] [0]) freshRow hypervisorOption = .ok built
      ∧ RoundTrip lengthDigest [[0], [0]] built := by
  obtain ⟨built, accepted⟩ := exists_ok (show (doBuild lengthDigest (twoFiles [0] [0]) freshRow
    hypervisorOption).isOk = true by decide +kernel)
  obtain ⟨t, tables, trip, _⟩ := container_roundTrip_iff accepted
  cases tables
  refine ⟨built, accepted, (trip ⟨by decide, by decide⟩).mpr ⟨by decide, by decide⟩⟩

/-- The file data is read from where the last file ends. -/
theorem container_fileData_lost
    : ∃ built,
      doBuild lengthDigest (twoFiles [1, 2] [3, 4, 5]) freshRow hypervisorOption = .ok built
      ∧ ¬ RoundTrip lengthDigest [[1, 2], [3, 4, 5]] built := by
  obtain ⟨built, accepted⟩ := exists_ok (show (doBuild lengthDigest (twoFiles [1, 2] [3, 4, 5])
    freshRow hypervisorOption).isOk = true by decide +kernel)
  refine ⟨built, accepted, ?_⟩
  intro trip
  have zeros := (fits_roundTrip_iff accepted rfl ⟨by decide, by decide⟩).mp trip
  exact absurd zeros.1 (by decide)

end XtratuM.Boot
