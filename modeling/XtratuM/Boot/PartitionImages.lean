import XtratuM.Boot.Lzss
import XtratuM.Kernel.PhysMm

/-! Partition images: the check of the packer on where their segments go, and the loader of the
resident software that puts them there. The image is not part of the memory it is loaded into.
-/

namespace XtratuM.Boot

/-- `struct xefSegment`. -/
structure XefSegment where
  physAddr : XmU32
  fileSize : XmU32
  offset : XmU32
  deriving DecidableEq, Repr

/-- `struct xefCustomFile`. -/
structure XefCustomFile where
  sAddr : XmU32
  size : XmU32
  deriving DecidableEq, Repr

def XEF_COMPRESSED : XmU32 := 0x4
def XEF_TYPE_MASK : XmU32 := 0xc0
def XEF_TYPE_HYPERVISOR : XmU32 := 0x00
def XEF_TYPE_PARTITION : XmU32 := 0x40
def XEF_TYPE_CUSTOMFILE : XmU32 := 0x80

/-- `struct xefFile`: fields of its header, its tables, and the bytes from `image` on. -/
structure XefFile where
  flags : XmU32
  imageLength : XmU32
  segmentTab : List XefSegment
  customFileTab : List XefCustomFile
  image : XmU32 → XmU8

/-- The parts of `struct xmc` that tell where memory is. -/
structure Xmc where
  size : XmU32
  physMemAreaTab : List XmcMemoryArea
  hpv : PartitionAreas
  partitionTab : List PartitionAreas

/-- The messages of `CheckPartition`, with the addresses they print. -/
inductive PackError
  /-- "XM or a partition expected" -/
  | xmOrPartitionExpected
  /-- "customization file expected" -/
  | customFileExpected (e : Nat)
  /-- "PartitionId %d: not valid" -/
  | partitionId (partId : Int)
  /-- "segment %d [0x%x- 0x%x] does not fit (XMC)" -/
  | segment (c d : XmU32)
  /-- "too big (%d bytes), partition \"%s\" only reserves %d bytes" -/
  | customFileTooBig (imageLength size : XmU32)
  /-- "Customization file \"%s\" (%d): [0x%x- 0x%x] does not fit (XMC)" -/
  | customFile (e : Nat) (c d : XmU32)
  /-- A use of an entry outside a table. -/
  | badAccess
  deriving DecidableEq, Repr

-----------------------------------------------------------------------------------------
-- The packer

/-- The areas of a partition. -/
def Xmc.areas (xmc : Xmc) (partId : Nat) : List XmcMemoryArea :=
  match xmc.partitionTab[partId]? with
  | none => []
  | some cfg => cfg.slice xmc.physMemAreaTab

/-- The areas an image is checked against. -/
def checkedAreas (xmc : Xmc) (partId : Int) (part : XefFile)
    : Except PackError (List XmcMemoryArea) :=
  if part.flags &&& XEF_TYPE_MASK = XEF_TYPE_HYPERVISOR then
    .ok (xmc.hpv.slice xmc.physMemAreaTab)
  else if partId < 0 ∨ partId ≥ xmc.partitionTab.length then
    .error (.partitionId partId)
  else
    .ok (xmc.areas partId.toNat)

/-- The range from `c` to `d` is inside the area that starts at `a`. -/
def fits (c d a size : XmU32) : Bool :=
  a ≤ c && d ≤ a + size

def checkSegment (areas : List XmcMemoryArea) (segment : XefSegment) : Except PackError Unit :=
  let c := segment.physAddr
  let d := c + segment.fileSize
  if areas.any fun area => fits c d area.startAddr area.size then
    .ok ()
  else
    .error (.segment c d)

/-- Where the end of custom file `e` is compared with: the hypervisor's file 0 is its
configuration.
-/
def customFileSize (xmc : Xmc) (hyp : Bool) (e : Nat) (custom : XefFile) : XmU32 :=
  if hyp ∧ e = 0 then xmc.size else custom.imageLength

def checkCustomFile (xmc : Xmc) (hyp : Bool) (areas : List XmcMemoryArea) (part : XefFile)
    (custom : XefFile × Nat) : Except PackError Unit :=
  match part.customFileTab[custom.2]? with
  | none => .error .badAccess
  | some file =>
      if file.size ≠ 0 ∧ file.size < custom.1.imageLength then
        .error (.customFileTooBig custom.1.imageLength file.size)
      else
        let c := file.sAddr
        let d := c + customFileSize xmc hyp custom.2 custom.1
        let start := fun area : XmcMemoryArea => if hyp then area.startAddr else area.mappedAt
        if areas.any fun area => fits c d (start area) area.size then
          .ok ()
        else
          .error (.customFile custom.2 c d)

def checkCustomType (custom : XefFile × Nat) : Except PackError Unit :=
  if custom.1.flags &&& XEF_TYPE_MASK = XEF_TYPE_CUSTOMFILE then
    .ok ()
  else
    .error (.customFileExpected custom.2)

def checkType (part : XefFile) : Except PackError Unit :=
  if part.flags &&& XEF_TYPE_MASK = XEF_TYPE_PARTITION
      ∨ part.flags &&& XEF_TYPE_MASK = XEF_TYPE_HYPERVISOR then
    .ok ()
  else
    .error .xmOrPartitionExpected

/-- `CheckPartition`. A number of custom files other than expected is only printed. -/
def checkPartition (xmc : Xmc) (partId : Int) (part : XefFile) (customTab : List XefFile)
    : Except PackError Unit := do
  checkType part
  customTab.zipIdx.forM checkCustomType
  let areas ← checkedAreas xmc partId part
  part.segmentTab.forM (checkSegment areas)
  let hyp := decide (part.flags &&& XEF_TYPE_MASK = XEF_TYPE_HYPERVISOR)
  customTab.zipIdx.forM (checkCustomFile xmc hyp areas part)

-----------------------------------------------------------------------------------------
-- The loader

/-- The area `XmcVAddr2PAddr` finds. -/
def mappedArea (mAreas : List XmcMemoryArea) (vAddr : XmU32) : Option XmcMemoryArea :=
  mAreas.find? fun area => area.mappedAt ≤ vAddr && vAddr ≤ area.mappedAt + area.size - 1

/-- `XmcVAddr2PAddr`, on an address that keeps its value when there is no translation. -/
def xmcVAddr2PAddr (mAreas : List XmcMemoryArea) (vAddr : XmU32) : XmU32 :=
  match mappedArea mAreas vAddr with
  | none => vAddr
  | some area => vAddr - area.mappedAt + area.startAddr

/-- A byte written to memory. -/
structure Write where
  address : XmU32
  byte : XmU8
  deriving DecidableEq, Repr

/-- The bytes a segment is made of, whether it is whole, and `textBuf`. -/
structure Unpacked where
  bytes : List XmU8
  whole : Bool
  textBuf : Nat → XmU8

/-- `memcpy`, or `Uncompress` on a compressed image. -/
def unpackSegment (file : XefFile) (segment : XefSegment) (textBuf : Nat → XmU8)
    : Except Stop Unpacked :=
  let data := fun i : Nat => file.image (segment.offset + BitVec.ofNat 32 i)
  if file.flags &&& XEF_COMPRESSED ≠ 0 then
    (uncompress data segment.fileSize textBuf).map fun done =>
      { bytes := done.written, whole := decide ((0 : Int) ≤ done.result), textBuf := done.textBuf }
  else
    .ok { bytes := (List.range segment.fileSize.toNat).map data, whole := true, textBuf }

/-- Bytes one after the other from an address on. -/
def writesAt (address : XmU32) (bytes : List XmU8) : List Write :=
  bytes.zipIdx.map fun byte => { address := address + BitVec.ofNat 32 byte.2, byte := byte.1 }

/-- The loop of `LoadXefFile` over the segments: the bytes written, in order. -/
def loadSegments (file : XefFile) (mAreas : List XmcMemoryArea)
    : List XefSegment → (Nat → XmU8) → Except Stop (List Write)
  | [], _ => .ok []
  | segment :: rest, textBuf => do
      let unpacked ← unpackSegment file segment textBuf
      let writes := writesAt (xmcVAddr2PAddr mAreas segment.physAddr) unpacked.bytes
      if unpacked.whole then
        let later ← loadSegments file mAreas rest unpacked.textBuf
        pure (writes ++ later)
      else
        pure writes

/-- What `LoadXefFile` writes. -/
def loadXefFile (file : XefFile) (mAreas : List XmcMemoryArea) (textBuf : Nat → XmU8)
    : Except Stop (List Write) :=
  loadSegments file mAreas file.segmentTab textBuf

-----------------------------------------------------------------------------------------
-- Writes

/-- The address is in the area. -/
def Holds (area : XmcMemoryArea) (address : XmU32) : Prop :=
  area.startAddr.toNat ≤ address.toNat
    ∧ address.toNat < area.startAddr.toNat + area.size.toNat

/-- Some area has the address. -/
def Covered (mAreas : List XmcMemoryArea) (address : XmU32) : Prop :=
  ∃ area ∈ mAreas, Holds area address

/-- The segments that are loaded, up to the first that cannot be uncompressed, and how many bytes
are written for each.
-/
def loadedSegments (file : XefFile)
    : List XefSegment → (Nat → XmU8) → Except Stop (List (XefSegment × Nat))
  | [], _ => .ok []
  | segment :: rest, textBuf => do
      let unpacked ← unpackSegment file segment textBuf
      if unpacked.whole then
        let later ← loadedSegments file rest unpacked.textBuf
        pure ((segment, unpacked.bytes.length) :: later)
      else
        pure [(segment, unpacked.bytes.length)]

theorem writesAt_covered {mAreas : List XmcMemoryArea} {address : XmU32} {bytes : List XmU8}
    : (∀ write ∈ writesAt address bytes, Covered mAreas write.address)
      ↔ ∀ k < bytes.length, Covered mAreas (address + BitVec.ofNat 32 k) := by
  constructor
  · intro covered k inside
    refine covered ⟨address + BitVec.ofNat 32 k, bytes[k]⟩
      (List.mem_map.mpr ⟨(bytes[k], k), ?_, rfl⟩)
    exact List.mem_zipIdx_iff_getElem?.mpr (List.getElem?_eq_getElem inside)
  · intro covered write member
    obtain ⟨⟨byte, k⟩, listed, rfl⟩ := List.mem_map.mp member
    have inside := List.mem_zipIdx_iff_getElem?.mp listed
    exact covered k (List.getElem?_eq_some_iff.mp inside).1

theorem unpackSegment_returns (file : XefFile) (segment : XefSegment) (textBuf : Nat → XmU8)
    : ∃ unpacked, unpackSegment file segment textBuf = .ok unpacked
      ∧ unpacked.bytes.length ≤ segment.fileSize.toNat := by
  unfold unpackSegment
  dsimp only
  split
  · obtain ⟨done, returned, within⟩ := uncompress_returns
      (fun i => file.image (segment.offset + BitVec.ofNat 32 i)) segment.fileSize textBuf
    rw [returned]
    exact ⟨_, rfl, within⟩
  · exact ⟨_, rfl, by simp⟩

/-- The loader returns, and its writes are those of the segments it loads. -/
theorem loadSegments_returns (file : XefFile) (mAreas : List XmcMemoryArea)
    (segments : List XefSegment) (textBuf : Nat → XmU8)
    : ∃ writes loaded, loadSegments file mAreas segments textBuf = .ok writes
      ∧ loadedSegments file segments textBuf = .ok loaded
      ∧ (∀ load ∈ loaded, load.1 ∈ segments ∧ load.2 ≤ load.1.fileSize.toNat)
      ∧ ((∀ write ∈ writes, Covered mAreas write.address)
        ↔ ∀ load ∈ loaded, ∀ k < load.2,
          Covered mAreas (xmcVAddr2PAddr mAreas load.1.physAddr + BitVec.ofNat 32 k)) := by
  induction segments generalizing textBuf with
  | nil => exact ⟨[], [], rfl, rfl, by simp, by simp⟩
  | cons segment rest ih =>
      obtain ⟨unpacked, returned, size⟩ := unpackSegment_returns file segment textBuf
      obtain ⟨writes, loaded, later, laterLoaded, sizes, covered⟩ := ih unpacked.textBuf
      unfold loadSegments loadedSegments
      simp only [returned, ok_bind, later, laterLoaded]
      cases unpacked.whole with
      | false =>
          refine ⟨_, _, rfl, rfl, ?_, ?_⟩
          · intro load member
            rw [List.mem_singleton.mp member]
            exact ⟨List.mem_cons_self, size⟩
          · rw [writesAt_covered]
            simp
      | true =>
          refine ⟨_, _, rfl, rfl, ?_, ?_⟩
          · intro load member
            rcases List.mem_cons.mp member with rfl | member
            · exact ⟨List.mem_cons_self, size⟩
            · exact ⟨List.mem_cons_of_mem _ (sizes load member).1, (sizes load member).2⟩
          · rw [List.forall_mem_append, List.forall_mem_cons, writesAt_covered, covered]

-----------------------------------------------------------------------------------------
-- The packer and the loader

theorem forM_ok {α : Type} {check : α → Except PackError Unit} {list : List α}
    (passed : list.forM check = .ok ()) {a : α} (member : a ∈ list)
    : check a = .ok () := by
  induction list with
  | nil => cases member
  | cons first rest ih =>
      have steps : (check first >>= fun _ => rest.forM check) = .ok () := passed
      obtain ⟨_, here, later⟩ := bind_eq_ok.mp steps
      rcases List.mem_cons.mp member with rfl | member
      · exact here
      · exact ih later member

/-- A segment that passes lies in one of the areas, unless it reaches the end of the address
space.
-/
theorem checkSegment_covered {areas : List XmcMemoryArea} {segment : XefSegment}
    (passed : checkSegment areas segment = .ok ())
    (short : segment.physAddr.toNat + segment.fileSize.toNat < 2 ^ 32) {k : Nat}
    (inside : k < segment.fileSize.toNat)
    : Covered areas (segment.physAddr + BitVec.ofNat 32 k) := by
  unfold checkSegment at passed
  dsimp only at passed
  split at passed
  · next found =>
      obtain ⟨area, member, fit⟩ := List.any_eq_true.mp found
      refine ⟨area, member, ?_⟩
      have start := area.size.isLt
      simp only [fits, Bool.and_eq_true, decide_eq_true_eq, BitVec.le_def, BitVec.toNat_add]
        at fit
      simp only [Holds, BitVec.toNat_add, BitVec.toNat_ofNat]
      omega
  · cases passed

/-- The addresses of an area left from an offset on. -/
def room (area : XmcMemoryArea) (offset : XmU32) : Nat :=
  min area.size.toNat (2 ^ 32 - area.startAddr.toNat) - offset.toNat

/-- A segment of which the loader writes `n` bytes fits in the areas: what goes over the end of
the area it is translated with lies in an area again; without translation, it is one of a partition
and ends below the end of the address space, or it lies in the areas.
-/
def Fits (mAreas : List XmcMemoryArea) (part : XefFile) (segment : XefSegment) (n : Nat) : Prop :=
  match mappedArea mAreas segment.physAddr with
  | some area =>
      ∀ k < n, room area (segment.physAddr - area.mappedAt) ≤ k →
        Covered mAreas
          (segment.physAddr - area.mappedAt + area.startAddr + BitVec.ofNat 32 k)
  | none =>
      (part.flags &&& XEF_TYPE_MASK = XEF_TYPE_PARTITION
        ∧ segment.physAddr.toNat + segment.fileSize.toNat < 2 ^ 32)
        ∨ ∀ k < n, Covered mAreas (segment.physAddr + BitVec.ofNat 32 k)

theorem checkPartition_segments {xmc : Xmc} {partId : Int} {part : XefFile}
    {customTab : List XefFile} (accepted : checkPartition xmc partId part customTab = .ok ())
    (own : part.flags &&& XEF_TYPE_MASK = XEF_TYPE_PARTITION)
    : ∀ segment ∈ part.segmentTab, checkSegment (xmc.areas partId.toNat) segment = .ok () := by
  obtain ⟨_, _, accepted⟩ := bind_eq_ok.mp accepted
  obtain ⟨_, _, accepted⟩ := bind_eq_ok.mp accepted
  obtain ⟨areas, found, accepted⟩ := bind_eq_ok.mp accepted
  obtain ⟨_, passed, _⟩ := bind_eq_ok.mp accepted
  have different : part.flags &&& XEF_TYPE_MASK ≠ XEF_TYPE_HYPERVISOR := by
    rw [own]
    decide
  rw [checkedAreas, if_neg different] at found
  split at found
  · cases found
  · cases found
    intro segment member
    exact forM_ok passed member

theorem fits_iff {xmc : Xmc} {partId : Int} {part : XefFile} {customTab : List XefFile}
    (accepted : checkPartition xmc partId part customTab = .ok ()) {segment : XefSegment}
    (member : segment ∈ part.segmentTab) {n : Nat} (size : n ≤ segment.fileSize.toNat)
    : (∀ k < n, Covered (xmc.areas partId.toNat)
        (xmcVAddr2PAddr (xmc.areas partId.toNat) segment.physAddr + BitVec.ofNat 32 k))
      ↔ Fits (xmc.areas partId.toNat) part segment n := by
  unfold Fits xmcVAddr2PAddr
  cases found : mappedArea (xmc.areas partId.toNat) segment.physAddr with
  | none =>
      constructor
      · exact Or.inr
      · intro fit k inside
        rcases fit with ⟨own, short⟩ | covered
        · exact checkSegment_covered (checkPartition_segments accepted own segment member) short
            (by omega)
        · exact covered k inside
  | some area =>
      dsimp only
      constructor
      · intro covered k inside _
        exact covered k inside
      · intro rest k inside
        by_cases beyond : room area (segment.physAddr - area.mappedAt) ≤ k
        · exact rest k inside beyond
        · refine ⟨area, List.mem_of_find?_eq_some found, ?_⟩
          have start := area.startAddr.isLt
          unfold room at beyond
          generalize segment.physAddr - area.mappedAt = offset at beyond ⊢
          simp only [Holds, BitVec.toNat_add, BitVec.toNat_ofNat]
          omega

/-- What the packer accepts for a partition, the loader puts into the areas of the partition just
when every segment it loads fits in them.
-/
theorem loadXefFile_covered_iff {xmc : Xmc} {partId : Int} {part : XefFile}
    {customTab : List XefFile} (accepted : checkPartition xmc partId part customTab = .ok ())
    (textBuf : Nat → XmU8)
    : ∃ writes loaded, loadXefFile part (xmc.areas partId.toNat) textBuf = .ok writes
      ∧ loadedSegments part part.segmentTab textBuf = .ok loaded
      ∧ ((∀ write ∈ writes, Covered (xmc.areas partId.toNat) write.address)
        ↔ ∀ load ∈ loaded, Fits (xmc.areas partId.toNat) part load.1 load.2) := by
  obtain ⟨writes, loaded, returned, segments, sizes, covered⟩ :=
    loadSegments_returns part (xmc.areas partId.toNat) part.segmentTab textBuf
  refine ⟨writes, loaded, returned, segments, covered.trans ?_⟩
  refine forall_congr' fun load => forall_congr' fun member => ?_
  exact fits_iff accepted (sizes load member).1 (sizes load member).2

/-- A partition with 64 KB at 32 MB, which it sees at `mappedAt`, and a page at 64 MB, which it
sees at 32 MB.
-/
def twoAreas (mappedAt page : XmU32) : Xmc :=
  { size := 0
    physMemAreaTab := [⟨0x2000000, mappedAt, 0x10000, 0, 0⟩, ⟨0x4000000, page, 0x1000, 0, 0⟩]
    hpv := ⟨0, 0⟩
    partitionTab := [⟨0, 2⟩] }

/-- An image with one segment at 32 MB. -/
def oneSegment (fileSize : XmU32) : XefFile :=
  { flags := XEF_TYPE_PARTITION
    imageLength := fileSize
    segmentTab := [⟨0x2000000, fileSize, 0⟩]
    customFileTab := []
    image := fun _ => 0 }

theorem loadXefFile_covered_oneSegment
    : ∃ writes, loadXefFile (oneSegment 2) ((twoAreas 0x2000000 0x4000000).areas 0) (fun _ => 0)
        = .ok writes
      ∧ ∀ write ∈ writes, Covered ((twoAreas 0x2000000 0x4000000).areas 0) write.address := by
  have accepted : checkPartition (twoAreas 0x2000000 0x4000000) 0 (oneSegment 2) [] = .ok () := rfl
  obtain ⟨writes, loaded, returned, segments, covered⟩ :=
    loadXefFile_covered_iff accepted fun _ => 0
  refine ⟨writes, returned, covered.mpr ?_⟩
  cases segments
  intro load member
  rw [List.mem_singleton.mp member]
  intro k inside beyond
  have few : k < 2 := inside
  have many : 0x10000 ≤ k := beyond
  omega

/-- The packer compares the segment with the 64 KB, the loader translates its first byte with the
page: the byte after the page belongs to nobody.
-/
theorem segment_loaded_outside
    : checkPartition (twoAreas 0x5000000 0x2000000) 0 (oneSegment 0x1001) [] = .ok ()
      ∧ ∃ writes, loadXefFile (oneSegment 0x1001) ((twoAreas 0x5000000 0x2000000).areas 0)
          (fun _ => 0) = .ok writes
        ∧ ¬ ∀ write ∈ writes, Covered ((twoAreas 0x5000000 0x2000000).areas 0) write.address := by
  obtain ⟨writes, loaded, returned, segments, _, covered⟩ :=
    loadSegments_returns (oneSegment 0x1001) ((twoAreas 0x5000000 0x2000000).areas 0)
      (oneSegment 0x1001).segmentTab fun _ => 0
  refine ⟨rfl, writes, returned, ?_⟩
  intro inside
  cases segments
  have bytes := covered.mp inside _ List.mem_cons_self 0x1000
  have outside : Covered ((twoAreas 0x5000000 0x2000000).areas 0) 0x4001000 := by
    apply bytes
    rw [List.length_map, List.length_range]
    decide
  obtain ⟨area, member, holds⟩ := outside
  rcases List.mem_cons.mp member with rfl | member
  · exact absurd holds (by unfold Holds; decide)
  · rw [List.mem_singleton.mp member] at holds
    exact absurd holds (by unfold Holds; decide)

end XtratuM.Boot
