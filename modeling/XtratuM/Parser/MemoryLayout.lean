import XtratuM.Kernel.PhysMm
import XtratuM.Library.Ranks
import XtratuM.Parser.Document

/-! Memory regions and areas: the checks made as each element is read, the region an area is
given, and the sorting of both tables at the end of the document.
-/

namespace XtratuM.Parser

def XM_MEM_AREA_SHARED : XmU32 := 1 <<< 0

/-- The elements that declare memory, in the order of the document: a `Region`, the areas of the
hypervisor, of the resident software or of a memory block, and those of a partition. The region
an area belongs to is not yet known.
-/
inductive MemElement
  | region (region : XmcMemoryRegion)
  | areas (areas : List XmcMemoryArea)
  | partition (areas : List XmcMemoryArea)
  deriving DecidableEq, Repr

/-- An entry of `rsvPhysPages`. -/
structure RsvPhysPages where
  address : XmU32
  noPag : XmU32

/-- `xmcMemRegTab`, `xmcMemAreaTab` and the areas of each partition. -/
structure MemoryLayout where
  tables : MemoryTables
  partitions : List PartitionAreas
  deriving DecidableEq, Repr

-----------------------------------------------------------------------------------------
-- Checks of an element

/-- The test on two ranges that lets the parser `continue`. -/
def apart (s0 e0 s1 e1 : XmU32) : Bool :=
  e1 ≤ s0 || e0 ≤ s1

/-- `CheckMemoryRegion`, against the regions before this one. -/
def memoryRegionError (earlier : List XmcMemoryRegion) (region : XmcMemoryRegion)
    : Option ParseError :=
  if region.startAddr &&& (PAGE_SIZE - 1) ≠ 0 then
    some (.unalignedRegion region.startAddr)
  else if region.size &&& (PAGE_SIZE - 1) ≠ 0 then
    some (.regionSize region.size)
  else
    earlier.findSome? fun other =>
      if apart region.startAddr region.last other.startAddr other.last then
        none
      else
        some (.regionsOverlap region.startAddr region.last other.startAddr other.last)

/-- `(s0>=s1)&&(e0<=e1)`. -/
def covers (region : XmcMemoryRegion) (area : XmcMemoryArea) : Bool :=
  region.startAddr ≤ area.startAddr && area.last ≤ region.last

/-- The loop of `CheckPhysMemArea` over the regions, from entry `e` on. -/
def findRegion (area : XmcMemoryArea) : List XmcMemoryRegion → Nat → Option Nat → Option Nat
  | [], _, found => found
  | region :: rest, e, found =>
      findRegion area rest (e + 1) (if covers region area then some e else found)

/-- The tests of `CheckPhysMemArea` made before that loop. -/
def physMemAreaError (rsvPhysPages : List RsvPhysPages) (area : XmcMemoryArea)
    : Option ParseError :=
  if area.startAddr &&& (PAGE_SIZE - 1) ≠ 0 then
    some (.unalignedArea area.startAddr)
  else if area.size &&& (PAGE_SIZE - 1) ≠ 0 then
    some (.areaSize area.size)
  else
    rsvPhysPages.findSome? fun reserved =>
      let s1 := reserved.address
      let e1 := s1 + reserved.noPag * PAGE_SIZE - 1
      if e1 < area.startAddr || area.last ≤ s1 then
        none
      else
        some (.reservedArea area.startAddr area.last s1 e1)

/-- The test it makes after it, against an area before this one. -/
def areaOverlapError (area other : XmcMemoryArea) : Option ParseError :=
  if apart area.startAddr area.last other.startAddr other.last then
    none
  else if other.flags &&& area.flags &&& XM_MEM_AREA_SHARED = XM_MEM_AREA_SHARED then
    none
  else
    some (.areasOverlap area.startAddr area.last other.startAddr other.last)

/-- `CheckPhysMemArea`. -/
def checkPhysMemArea (rsvPhysPages : List RsvPhysPages) (tables : MemoryTables)
    (area : XmcMemoryArea) : Except ParseError Nat :=
  match physMemAreaError rsvPhysPages area with
  | some e => .error e
  | none =>
      match findRegion area tables.xmcMemRegTab 0 none with
      | none => .error (.notCovered area.startAddr area.last)
      | some found =>
          match tables.xmcPhysMemAreaTab.findSome? (areaOverlapError area) with
          | some e => .error e
          | none => .ok found

/-- `CheckMemAreaPerPart`. -/
def memAreaPerPartError : List XmcMemoryArea → Option ParseError
  | [] => none
  | area :: rest =>
      let s0 := area.mappedAt
      let e0 := s0 + area.size - 1
      (rest.findSome? fun other =>
        let s1 := other.mappedAt
        let e1 := s1 + other.size - 1
        if apart s0 e0 s1 e1 then none else some (.virtualAreasOverlap s0 e0 s1 e1)).or
          (memAreaPerPartError rest)

-----------------------------------------------------------------------------------------
-- Elements

/-- `Region_NH1`. -/
def regionNH1 (s : MemoryLayout) (region : XmcMemoryRegion) : Except ParseError MemoryLayout :=
  match memoryRegionError s.tables.xmcMemRegTab region with
  | some e => .error e
  | none =>
      .ok { s with tables.xmcMemRegTab := s.tables.xmcMemRegTab ++ [region] }

/-- `Area_NH1` and `MemoryBlockD_NH1`. -/
def areaNH1 (rsvPhysPages : List RsvPhysPages) (s : MemoryLayout) (area : XmcMemoryArea)
    : Except ParseError MemoryLayout :=
  (checkPhysMemArea rsvPhysPages s.tables area).map fun found =>
    { s with
      tables.xmcPhysMemAreaTab :=
        s.tables.xmcPhysMemAreaTab ++ [{ area with memoryRegionOffset := found }] }

/-- `Partition_NH2`: the partition has the areas read since its `Partition_NH0`. -/
def partitionNH2 (before : MemoryLayout) (areas : List XmcMemoryArea) (s : MemoryLayout)
    : Except ParseError MemoryLayout :=
  match memAreaPerPartError areas with
  | some e => .error e
  | none =>
      .ok
        { s with
          partitions :=
            s.partitions ++
              [{ physicalMemoryAreasOffset := before.tables.xmcPhysMemAreaTab.length
                 noPhysicalMemoryAreas := areas.length }] }

/-- The handlers of an element. -/
def memElement (rsvPhysPages : List RsvPhysPages) (s : MemoryLayout)
    : MemElement → Except ParseError MemoryLayout
  | .region region => regionNH1 s region
  | .areas areas => areas.foldlM (areaNH1 rsvPhysPages) s
  | .partition areas => do
      let after ← areas.foldlM (areaNH1 rsvPhysPages) s
      partitionNH2 s areas after

-----------------------------------------------------------------------------------------
-- Sorting

/-- `qsort` with `CmpMemArea`. -/
def sortAreas (areas : List XmcMemoryArea) : List XmcMemoryArea :=
  areas.insertionSort fun area other => area.startAddr ≤ other.startAddr

/-- A round of `SortPhysMemAreas`, with its `CheckAllMemAreas`. -/
def sortPartition (tab : List XmcMemoryArea) (cfg : PartitionAreas)
    : Except ParseError (List XmcMemoryArea) :=
  let areas := (tab.drop cfg.physicalMemoryAreasOffset).take cfg.noPhysicalMemoryAreas
  let sorted := sortAreas areas
  match Ranks.firstUnsorted (sorted.map fun area => area.startAddr.toNat) with
  | some startAddr => .error (.unsortedArea startAddr)
  | none =>
      .ok (tab.take cfg.physicalMemoryAreasOffset ++ sorted
        ++ tab.drop (cfg.physicalMemoryAreasOffset + cfg.noPhysicalMemoryAreas))

/-- `SortPhysMemAreas`. -/
def sortPhysMemAreas (s : MemoryLayout) : Except ParseError (List XmcMemoryArea) :=
  s.partitions.foldlM sortPartition s.tables.xmcPhysMemAreaTab

/-- `SortMemRegions`, with its `CheckAllMemReg`. -/
def sortMemRegions (tab : List XmcMemoryRegion) : Except ParseError (List XmcMemoryRegion) :=
  let sorted := tab.insertionSort fun region other => region.startAddr ≤ other.startAddr
  match Ranks.firstUnsorted (sorted.map fun region => region.startAddr.toNat) with
  | some startAddr => .error (.unsortedRegion startAddr)
  | none => .ok sorted

/-- The tables after the elements have been read and `SystemDescription_NH2` has run. -/
def memoryLayout (rsvPhysPages : List RsvPhysPages) (doc : List MemElement)
    : Except ParseError MemoryLayout := do
  let s ← doc.foldlM (memElement rsvPhysPages) { tables := ⟨[], []⟩, partitions := [] }
  let xmcPhysMemAreaTab ← sortPhysMemAreas s
  let xmcMemRegTab ← sortMemRegions s.tables.xmcMemRegTab
  pure { s with tables := { xmcMemRegTab, xmcPhysMemAreaTab } }

-----------------------------------------------------------------------------------------
-- Regions of areas

def MemElement.regions : MemElement → List XmcMemoryRegion
  | .region r => [r]
  | .areas _ => []
  | .partition _ => []

def MemElement.memAreas : MemElement → List XmcMemoryArea
  | .region _ => []
  | .areas list => list
  | .partition list => list

def regionsOf (doc : List MemElement) : List XmcMemoryRegion :=
  doc.flatMap MemElement.regions

/-- Every area of the document, with the regions listed before it. -/
def placements : List XmcMemoryRegion → List MemElement
    → List (List XmcMemoryRegion × XmcMemoryArea)
  | _, [] => []
  | earlier, element :: rest =>
      element.memAreas.map (fun area => (earlier, area))
        ++ placements (earlier ++ element.regions) rest

theorem regionsOf_snoc (doc : List MemElement) (element : MemElement)
    : regionsOf (doc ++ [element]) = regionsOf doc ++ element.regions := by
  simp [regionsOf]

theorem placements_snoc (earlier : List XmcMemoryRegion) (doc : List MemElement)
    (element : MemElement)
    : placements earlier (doc ++ [element])
      = placements earlier doc
        ++ element.memAreas.map fun area => (earlier ++ regionsOf doc, area) := by
  induction doc generalizing earlier with
  | nil => simp [placements, regionsOf]
  | cons first rest ih => simp [placements, ih, regionsOf]

/-- Region `i` is the last of a list to cover the area. -/
structure LastCovering (regions : List XmcMemoryRegion) (area : XmcMemoryArea) (i : Nat)
    : Prop where
  covering : ∃ region, regions[i]? = some region ∧ covers region area = true
  last : ∀ j region, i < j → regions[j]? = some region → covers region area = false

theorem findRegion_snoc (area : XmcMemoryArea) (regions : List XmcMemoryRegion)
    (region : XmcMemoryRegion) (e : Nat) (found : Option Nat)
    : findRegion area (regions ++ [region]) e found
      = if covers region area then some (e + regions.length)
        else findRegion area regions e found := by
  induction regions generalizing e found with
  | nil => simp [findRegion]
  | cons first rest ih => simp [findRegion, ih, Nat.add_assoc, Nat.add_comm 1]

theorem lastCovering_snoc {area : XmcMemoryArea} (regions : List XmcMemoryRegion)
    {region : XmcMemoryRegion} (covering : covers region area = true) {i : Nat}
    : LastCovering (regions ++ [region]) area i ↔ i = regions.length := by
  constructor
  · intro here
    obtain ⟨other, entry, _⟩ := here.covering
    have below := (List.getElem?_eq_some_iff.mp entry).1
    rw [List.length_append, List.length_singleton] at below
    by_cases earlier : i < regions.length
    · have uncovered := here.last regions.length region earlier List.getElem?_concat_length
      rw [covering] at uncovered
      cases uncovered
    · omega
  · intro same
    subst same
    refine ⟨⟨region, List.getElem?_concat_length, covering⟩, ?_⟩
    intro j other later entry
    have below := (List.getElem?_eq_some_iff.mp entry).1
    rw [List.length_append, List.length_singleton] at below
    omega

theorem lastCovering_skip {area : XmcMemoryArea} (regions : List XmcMemoryRegion)
    {region : XmcMemoryRegion} (uncovered : covers region area = false) {i : Nat}
    : LastCovering (regions ++ [region]) area i ↔ LastCovering regions area i := by
  have entries : ∀ (j : Nat) other,
      (regions ++ [region])[j]? = some other → covers other area = true →
      regions[j]? = some other := by
    intro j other entry covering
    rcases Nat.lt_trichotomy j regions.length with below | last | above
    · rwa [List.getElem?_append_left below] at entry
    · rw [last, List.getElem?_concat_length] at entry
      rw [← Option.some.inj entry, uncovered] at covering
      cases covering
    · rw [List.getElem?_eq_none (by simp; omega)] at entry
      cases entry
  constructor
  · intro here
    obtain ⟨other, entry, covering⟩ := here.covering
    refine ⟨⟨other, entries i other entry covering, covering⟩, ?_⟩
    intro j later above found
    exact here.last j later above
      (by rw [List.getElem?_append_left (List.getElem?_eq_some_iff.mp found).1, found])
  · intro here
    obtain ⟨other, entry, covering⟩ := here.covering
    refine ⟨⟨other, ?_, covering⟩, ?_⟩
    · rw [List.getElem?_append_left (List.getElem?_eq_some_iff.mp entry).1, entry]
    · intro j later above found
      cases here' : covers later area with
      | false => rfl
      | true =>
          rw [here.last j later above (entries j later found here')] at here'
          cases here'

/-- The loop finds the last region that covers the area. -/
theorem findRegion_eq_some {area : XmcMemoryArea} {regions : List XmcMemoryRegion} {i : Nat}
    : findRegion area regions 0 none = some i ↔ LastCovering regions area i := by
  induction regions using List.reverseRecOn with
  | nil =>
      refine iff_of_false (by simp [findRegion]) ?_
      intro here
      obtain ⟨_, entry, _⟩ := here.covering
      cases entry
  | append_singleton regions region ih =>
      rw [findRegion_snoc]
      cases covering : covers region area with
      | true => simp [lastCovering_snoc regions covering, eq_comm]
      | false => simp [lastCovering_skip regions covering, ih]

-----------------------------------------------------------------------------------------
-- Reading

theorem memoryRegionError_none {earlier : List XmcMemoryRegion} {region : XmcMemoryRegion}
    (clean : memoryRegionError earlier region = none)
    : PageAligned region.startAddr ∧ PageAligned region.size := by
  unfold memoryRegionError at clean
  split at clean
  · cases clean
  · next start =>
      split at clean
      · cases clean
      · next size =>
          exact ⟨and_pageSize_eq_zero.mp (not_not.mp start),
            and_pageSize_eq_zero.mp (not_not.mp size)⟩

theorem physMemAreaError_none {rsvPhysPages : List RsvPhysPages} {area : XmcMemoryArea}
    (clean : physMemAreaError rsvPhysPages area = none)
    : PageAligned area.startAddr ∧ PageAligned area.size := by
  unfold physMemAreaError at clean
  split at clean
  · cases clean
  · next start =>
      split at clean
      · cases clean
      · next size =>
          exact ⟨and_pageSize_eq_zero.mp (not_not.mp start),
            and_pageSize_eq_zero.mp (not_not.mp size)⟩

/-- An area that passes its checks lies in the last region that covers it. -/
theorem checkPhysMemArea_returns {rsvPhysPages : List RsvPhysPages} {tables : MemoryTables}
    {area : XmcMemoryArea} {found : Nat}
    (returned : checkPhysMemArea rsvPhysPages tables area = .ok found)
    : LastCovering tables.xmcMemRegTab area found
      ∧ PageAligned area.startAddr ∧ PageAligned area.size := by
  unfold checkPhysMemArea at returned
  cases clean : physMemAreaError rsvPhysPages area with
  | some e => simp [clean] at returned
  | none =>
      cases region : findRegion area tables.xmcMemRegTab 0 none with
      | none => simp [clean, region] at returned
      | some i =>
          cases overlap : tables.xmcPhysMemAreaTab.findSome? (areaOverlapError area) with
          | some e => simp [clean, region, overlap] at returned
          | none =>
              simp only [clean, region, overlap] at returned
              rw [← Except.ok.inj returned]
              exact ⟨findRegion_eq_some.mp region, physMemAreaError_none clean⟩

/-- Some areas have been read against the regions known before them. -/
structure AreasRead (before : MemoryLayout) (seen : List XmcMemoryArea) (s : MemoryLayout)
    : Prop where
  regions : s.tables.xmcMemRegTab = before.tables.xmcMemRegTab
  partitions : s.partitions = before.partitions
  length : s.tables.xmcPhysMemAreaTab.length
    = before.tables.xmcPhysMemAreaTab.length + seen.length
  areas : ∀ area, area ∈ s.tables.xmcPhysMemAreaTab
    ↔ area ∈ before.tables.xmcPhysMemAreaTab
      ∨ ∃ a ∈ seen, ∃ i, LastCovering before.tables.xmcMemRegTab a i
        ∧ area = { a with memoryRegionOffset := i }
  covered : ∀ a ∈ seen, (∃ i, LastCovering before.tables.xmcMemRegTab a i)
    ∧ PageAligned a.startAddr ∧ PageAligned a.size

theorem lastCovering_unique {regions : List XmcMemoryRegion} {area : XmcMemoryArea} {i j : Nat}
    (first : LastCovering regions area i) (second : LastCovering regions area j)
    : i = j := by
  have found := findRegion_eq_some.mpr first
  rw [findRegion_eq_some.mpr second] at found
  exact (Option.some.inj found).symm

theorem areaNH1_read (rsvPhysPages : List RsvPhysPages) (before : MemoryLayout)
    (seen : List XmcMemoryArea) (s : MemoryLayout) (area : XmcMemoryArea) (s' : MemoryLayout)
    (read : AreasRead before seen s) (returned : areaNH1 rsvPhysPages s area = .ok s')
    : AreasRead before (seen ++ [area]) s' := by
  unfold areaNH1 at returned
  cases checked : checkPhysMemArea rsvPhysPages s.tables area with
  | error e => rw [checked] at returned; cases returned
  | ok found =>
      rw [checked] at returned
      cases returned
      obtain ⟨covering, aligned⟩ := checkPhysMemArea_returns checked
      rw [read.regions] at covering
      constructor
      · exact read.regions
      · exact read.partitions
      · simp [read.length, Nat.add_assoc]
      · intro other
        simp only [List.mem_append, List.mem_singleton, read.areas, or_and_right, exists_or,
          exists_eq_left, or_assoc]
        refine or_congr_right (or_congr_right ?_)
        constructor
        · intro same
          exact ⟨found, covering, same⟩
        · intro ⟨i, here, same⟩
          rw [same, lastCovering_unique here covering]
      · intro a member
        rcases List.mem_append.mp member with earlier | last
        · exact read.covered a earlier
        · rw [List.mem_singleton.mp last]
          exact ⟨⟨found, covering⟩, aligned⟩

/-- The elements read so far have given the tables. -/
structure Read (seen : List MemElement) (s : MemoryLayout) : Prop where
  regions : s.tables.xmcMemRegTab = regionsOf seen
  aligned : ∀ region ∈ regionsOf seen,
    PageAligned region.startAddr ∧ PageAligned region.size
  areas : ∀ area, area ∈ s.tables.xmcPhysMemAreaTab
    ↔ ∃ p ∈ placements [] seen, ∃ i, LastCovering p.1 p.2 i
      ∧ area = { p.2 with memoryRegionOffset := i }
  covered : ∀ p ∈ placements [] seen, (∃ i, LastCovering p.1 p.2 i)
    ∧ PageAligned p.2.startAddr ∧ PageAligned p.2.size
  partitions : ∀ cfg ∈ s.partitions, cfg.Inside s.tables

theorem Read.region {seen : List MemElement} {s s' : MemoryLayout} {region : XmcMemoryRegion}
    (read : Read seen s) (returned : regionNH1 s region = .ok s')
    : Read (seen ++ [.region region]) s' := by
  unfold regionNH1 at returned
  cases clean : memoryRegionError s.tables.xmcMemRegTab region with
  | some e => rw [clean] at returned; cases returned
  | none =>
      rw [clean] at returned
      cases returned
      have same : placements [] (seen ++ [.region region]) = placements [] seen := by
        rw [placements_snoc]
        simp [MemElement.memAreas]
      constructor
      · rw [regionsOf_snoc, read.regions]
        rfl
      · intro other member
        rw [regionsOf_snoc] at member
        rcases List.mem_append.mp member with earlier | last
        · exact read.aligned other earlier
        · rw [List.mem_singleton.mp last]
          exact memoryRegionError_none clean
      · rw [same]
        exact read.areas
      · rw [same]
        exact read.covered
      · exact read.partitions

/-- The areas of an element, whoever they belong to. -/
theorem Read.memAreas {seen : List MemElement} {s s' : MemoryLayout} (element : MemElement)
    (read : Read seen s) (alone : element.regions = [])
    (areas : AreasRead s element.memAreas s') {partitions : List PartitionAreas}
    (inside : ∀ cfg ∈ partitions, cfg.Inside s'.tables)
    : Read (seen ++ [element]) { s' with partitions } := by
  have regions : regionsOf (seen ++ [element]) = regionsOf seen := by
    rw [regionsOf_snoc, alone, List.append_nil]
  have known := areas.regions.trans read.regions
  have placed : placements [] (seen ++ [element])
      = placements [] seen ++ element.memAreas.map fun area => (regionsOf seen, area) :=
    placements_snoc [] seen element
  constructor
  · rw [regions]
    exact known
  · rw [regions]
    exact read.aligned
  · intro area
    rw [areas.areas, read.areas, placed, read.regions]
    simp only [List.mem_append, List.mem_map, or_and_right, exists_or]
    refine or_congr_right ⟨?_, ?_⟩
    · intro ⟨a, member, i, covering, same⟩
      exact ⟨(regionsOf seen, a), ⟨a, member, rfl⟩, i, covering, same⟩
    · intro ⟨_, ⟨a, member, rfl⟩, i, covering, same⟩
      exact ⟨a, member, i, covering, same⟩
  · intro p member
    rw [placed] at member
    rcases List.mem_append.mp member with earlier | here
    · exact read.covered p earlier
    · obtain ⟨a, listed, rfl⟩ := List.mem_map.mp here
      have covered := areas.covered a listed
      rwa [read.regions] at covered
  · exact inside

theorem areas_read {rsvPhysPages : List RsvPhysPages} {areas : List XmcMemoryArea}
    {s s' : MemoryLayout} (returned : areas.foldlM (areaNH1 rsvPhysPages) s = .ok s')
    : AreasRead s areas s' := by
  have nothing : AreasRead s [] s := ⟨rfl, rfl, rfl, by simp, by simp⟩
  have read := foldlM_preserves (P := AreasRead s) (areaNH1_read rsvPhysPages s) nothing returned
  rwa [List.nil_append] at read

/-- One more element. -/
theorem memElement_read (rsvPhysPages : List RsvPhysPages) (seen : List MemElement)
    (s : MemoryLayout) (element : MemElement) (s' : MemoryLayout) (read : Read seen s)
    (returned : memElement rsvPhysPages s element = .ok s')
    : Read (seen ++ [element]) s' := by
  cases element with
  | region r => exact read.region returned
  | areas list =>
      have areas := areas_read returned
      have inside : ∀ cfg ∈ s'.partitions, cfg.Inside s'.tables := by
        intro cfg member
        rw [areas.partitions] at member
        exact (read.partitions cfg member).trans (by rw [areas.length]; exact Nat.le_add_right _ _)
      exact Read.memAreas (.areas list) read rfl areas inside
  | partition list =>
      obtain ⟨after, returned, checked⟩ := bind_eq_ok.mp returned
      have areas := areas_read returned
      unfold partitionNH2 at checked
      cases clean : memAreaPerPartError list with
      | some e => rw [clean] at checked; cases checked
      | none =>
          rw [clean] at checked
          cases checked
          refine Read.memAreas (.partition list) read rfl areas ?_
          intro cfg member
          rcases List.mem_append.mp member with earlier | last
          · rw [areas.partitions] at earlier
            exact (read.partitions cfg earlier).trans
              (by rw [areas.length]; exact Nat.le_add_right _ _)
          · rw [List.mem_singleton.mp last, PartitionAreas.Inside, areas.length]

-----------------------------------------------------------------------------------------
-- Sorted tables

/-- Sorting the areas of a partition moves no other area. -/
theorem sortPartition_perm {tab tab' : List XmcMemoryArea} {cfg : PartitionAreas}
    (returned : sortPartition tab cfg = .ok tab')
    : tab'.Perm tab := by
  unfold sortPartition at returned
  dsimp only at returned
  split at returned
  · cases returned
  · cases returned
    have split : tab = tab.take cfg.physicalMemoryAreasOffset
        ++ (tab.drop cfg.physicalMemoryAreasOffset).take cfg.noPhysicalMemoryAreas
        ++ tab.drop (cfg.physicalMemoryAreasOffset + cfg.noPhysicalMemoryAreas) := by
      rw [List.append_assoc, ← List.drop_drop, List.take_append_drop, List.take_append_drop]
    have sorted := List.perm_insertionSort
      (fun area other : XmcMemoryArea => area.startAddr ≤ other.startAddr)
      ((tab.drop cfg.physicalMemoryAreasOffset).take cfg.noPhysicalMemoryAreas)
    conv_rhs => rw [split]
    exact (sorted.append_left _).append_right _

theorem sortPhysMemAreas_perm {s : MemoryLayout} {tab : List XmcMemoryArea}
    (returned : sortPhysMemAreas s = .ok tab)
    : tab.Perm s.tables.xmcPhysMemAreaTab := by
  unfold sortPhysMemAreas at returned
  exact @foldlM_preserves _ _ _ sortPartition
    (fun _ tab => tab.Perm s.tables.xmcPhysMemAreaTab)
    (fun _ _ _ _ perm stepped => (sortPartition_perm stepped).trans perm) [] _ _ _
    (.refl _) returned

/-- The regions come out in ascending order, which `CheckAllMemReg` tests. -/
theorem sortMemRegions_sorted {tab tab' : List XmcMemoryRegion}
    (returned : sortMemRegions tab = .ok tab')
    : tab'.Perm tab
      ∧ tab'.Pairwise fun region other => region.startAddr.toNat < other.startAddr.toNat := by
  unfold sortMemRegions at returned
  dsimp only at returned
  split at returned
  · cases returned
  · next ascending =>
      cases returned
      refine ⟨List.perm_insertionSort _ tab, ?_⟩
      exact List.pairwise_map.mp (Ranks.firstUnsorted_eq_none ascending)

/-- What the tables of an accepted document are made of. -/
theorem memoryLayout_read {rsvPhysPages : List RsvPhysPages} {doc : List MemElement}
    {cfg : MemoryLayout} (accepted : memoryLayout rsvPhysPages doc = .ok cfg)
    : ∃ s, Read doc s ∧ cfg.partitions = s.partitions
      ∧ cfg.tables.xmcPhysMemAreaTab.Perm s.tables.xmcPhysMemAreaTab
      ∧ cfg.tables.xmcMemRegTab.Perm (regionsOf doc)
      ∧ cfg.tables.xmcMemRegTab.Pairwise fun region other =>
          region.startAddr.toNat < other.startAddr.toNat := by
  unfold memoryLayout at accepted
  obtain ⟨s, elements, accepted⟩ := bind_eq_ok.mp accepted
  obtain ⟨areas, sortedAreas, accepted⟩ := bind_eq_ok.mp accepted
  obtain ⟨regions, sortedRegions, accepted⟩ := bind_eq_ok.mp accepted
  cases accepted
  have nothing : Read [] { tables := ⟨[], []⟩, partitions := [] } :=
    ⟨rfl, by simp [regionsOf], by simp [placements], by simp [placements], by simp⟩
  have read := foldlM_preserves (P := Read) (memElement_read rsvPhysPages) nothing elements
  rw [List.nil_append] at read
  obtain ⟨perm, ascending⟩ := sortMemRegions_sorted sortedRegions
  rw [read.regions] at perm
  exact ⟨s, read, rfl, sortPhysMemAreas_perm sortedAreas, perm, ascending⟩

-----------------------------------------------------------------------------------------
-- Regions in place

/-- The region contains every address of the area. -/
def Contains (region : XmcMemoryRegion) (area : XmcMemoryArea) : Prop :=
  region.startAddr.toNat ≤ area.startAddr.toNat
    ∧ area.startAddr.toNat + area.size.toNat ≤ region.startAddr.toNat + region.size.toNat

/-- Every area points at a region that contains it, where the kernel finds each of its pages; so
`PmmFindPage` answers with the page it is asked for.
-/
structure PointsAtItsRegions (cfg : MemoryLayout) : Prop where
  regions : ∀ area ∈ cfg.tables.xmcPhysMemAreaTab,
    ∃ region, Located cfg.tables area region ∧ Contains region area
  pages : ∀ areas ∈ cfg.partitions, ∀ pAddr, ∃ found,
    pmmFindPage cfg.tables areas pAddr = .ok found
      ∧ ∀ ref, found = some ref →
        ∃ region, cfg.tables.xmcMemRegTab[ref.region]? = some region
          ∧ ref.page = region.pageOf (pAddr &&& PAGE_MASK)
          ∧ region.Denotes (pAddr &&& PAGE_MASK)

/-- Of the regions listed before the area, the last to cover it has the position of a region
that contains it: as many regions of the document start below that one. No area takes the whole
address space for its own, as one of size 0 at address 0 does in 32 bits.
-/
def InPlace (doc : List MemElement) : Prop :=
  ∀ p ∈ placements [] doc, ¬ (p.2.startAddr = 0 ∧ p.2.size = 0)
    ∧ ∃ i, LastCovering p.1 p.2 i
      ∧ ∃ region ∈ regionsOf doc, Contains region p.2
        ∧ Ranks.rank (fun other => other.startAddr.toNat) (regionsOf doc) region = i

/-- The pages of an area that a region contains are pages of the region. -/
theorem denotes_of_contains {region : XmcMemoryRegion} {area : XmcMemoryArea}
    (start : PageAligned region.startAddr) (size : PageAligned region.size)
    (contains : Contains region area) (proper : ¬ (area.startAddr = 0 ∧ area.size = 0))
    {pAddr : XmU32} (page : PageAligned pAddr) (low : area.startAddr ≤ pAddr)
    (high : pAddr ≤ area.last)
    : region.Denotes pAddr := by
  have pageSize : PAGE_SIZE.toNat = 4096 := rfl
  have one : (1 : XmU32).toNat = 1 := rfl
  have nonempty : ¬ (area.startAddr.toNat = 0 ∧ area.size.toNat = 0) := by
    intro ⟨zero, empty⟩
    exact proper ⟨BitVec.eq_of_toNat_eq zero, BitVec.eq_of_toNat_eq empty⟩
  unfold PageAligned at start size page
  unfold Contains at contains
  simp only [XmcMemoryArea.last, BitVec.le_def, BitVec.toNat_sub, BitVec.toNat_add, pageSize, one]
    at start size page low high
  have before : region.startAddr.toNat ≤ pAddr.toNat := by omega
  have inside : pAddr.toNat < region.startAddr.toNat + region.size.toNat := by omega
  have distance : (pAddr - region.startAddr).toNat
      = pAddr.toNat - region.startAddr.toNat := BitVec.toNat_sub_of_le before
  unfold XmcMemoryRegion.Denotes
  rw [pageSize]
  simp only [XmcMemoryRegion.pageOf, PAGE_SHIFT, BitVec.toNat_ushiftRight,
    Nat.shiftRight_eq_div_pow, distance]
  omega

/-- No region has all the pages there are. -/
theorem not_located_everything {tables : MemoryTables} {area : XmcMemoryArea}
    {region : XmcMemoryRegion} (everything : area.startAddr = 0 ∧ area.size = 0)
    : ¬ Located tables area region := by
  intro located
  have inside : ∀ pAddr, area.startAddr ≤ pAddr ∧ pAddr ≤ area.last := by
    intro pAddr
    rw [XmcMemoryArea.last, everything.1, everything.2]
    exact ⟨BitVec.le_def.mpr (Nat.zero_le _), BitVec.le_def.mpr (Nat.le_of_lt_succ pAddr.isLt)⟩
  have bottom := located.pages 0 rfl (inside 0).1 (inside 0).2
  have top := located.pages 0xFFFFF000 rfl (inside _).1 (inside _).2
  have pageSize : PAGE_SIZE.toNat = 4096 := rfl
  have start : region.startAddr = 0 := by
    apply BitVec.eq_of_toNat_eq
    have sum := bottom.2
    rw [pageSize] at sum
    exact (Nat.add_eq_zero_iff.mp sum).1
  have page : (region.pageOf 0xFFFFF000).toNat = 0xFFFFF := by
    rw [XmcMemoryRegion.pageOf, start]
    rfl
  have bound := top.1
  have size := region.size.isLt
  rw [page, pageSize] at bound
  omega

/-- The areas of an accepted document point at their regions just when these are in place. -/
theorem memoryLayout_points {rsvPhysPages : List RsvPhysPages} {doc : List MemElement}
    {cfg : MemoryLayout} (accepted : memoryLayout rsvPhysPages doc = .ok cfg)
    : PointsAtItsRegions cfg ↔ InPlace doc := by
  obtain ⟨s, read, partitions, areas, regions, ascending⟩ := memoryLayout_read accepted
  have position : ∀ (i : Nat) region, cfg.tables.xmcMemRegTab[i]? = some region
      ↔ region ∈ regionsOf doc
        ∧ Ranks.rank (fun other => other.startAddr.toNat) (regionsOf doc) region = i := by
    intro i region
    rw [Ranks.getElem?_eq_some_iff ascending, regions.mem_iff, Ranks.rank_perm regions]
  constructor
  · intro points p member
    obtain ⟨⟨i, covering⟩, _⟩ := read.covered p member
    have stored : { p.2 with memoryRegionOffset := i } ∈ cfg.tables.xmcPhysMemAreaTab :=
      areas.mem_iff.mpr ((read.areas _).mpr ⟨p, member, i, covering, rfl⟩)
    obtain ⟨region, located, contains⟩ := points.regions _ stored
    obtain ⟨listed, rank⟩ := (position i region).mp located.entry
    refine ⟨?_, i, covering, region, listed, contains, rank⟩
    intro everything
    refine absurd located (not_located_everything ?_)
    exact everything
  · intro inPlace
    have located : ∀ area ∈ cfg.tables.xmcPhysMemAreaTab,
        ∃ region, Located cfg.tables area region ∧ Contains region area := by
      intro area stored
      obtain ⟨p, member, i, covering, rfl⟩ := (read.areas _).mp (areas.mem_iff.mp stored)
      obtain ⟨proper, j, last, region, listed, contains, rank⟩ := inPlace p member
      rw [lastCovering_unique last covering] at rank
      obtain ⟨start, size⟩ := read.aligned region listed
      refine ⟨region, ⟨(position i region).mpr ⟨listed, rank⟩, ?_⟩, contains⟩
      intro pAddr page low high
      exact denotes_of_contains start size contains proper page low high
    refine ⟨located, ?_⟩
    intro cfg' member pAddr
    rw [partitions] at member
    have inside : cfg'.Inside cfg.tables := by
      rw [PartitionAreas.Inside, areas.length_eq]
      exact read.partitions cfg' member
    apply pmmFindPage_denotes inside
    · intro area stored
      obtain ⟨p, member, i, covering, rfl⟩ := (read.areas _).mp (areas.mem_iff.mp stored)
      exact (read.covered p member).2
    · intro area stored
      obtain ⟨region, here, _⟩ := located area stored
      exact ⟨region, here⟩

-----------------------------------------------------------------------------------------
-- Ascending documents

theorem placements_start {earlier : List XmcMemoryRegion} {doc : List MemElement}
    {p : List XmcMemoryRegion × XmcMemoryArea} (member : p ∈ placements earlier doc)
    : ∃ rest, earlier ++ regionsOf doc = p.1 ++ rest := by
  induction doc generalizing earlier with
  | nil => cases member
  | cons element rest ih =>
      rcases List.mem_append.mp member with here | later
      · obtain ⟨area, _, rfl⟩ := List.mem_map.mp here
        exact ⟨regionsOf (element :: rest), rfl⟩
      · obtain ⟨others, start⟩ := ih later
        refine ⟨others, ?_⟩
        rw [← start]
        simp [regionsOf]

/-- A proper range of addresses. -/
def Proper (startAddr size : XmU32) : Prop :=
  0 < size.toNat ∧ startAddr.toNat + size.toNat ≤ 2 ^ 32

instance (startAddr size : XmU32) : Decidable (Proper startAddr size) :=
  inferInstanceAs (Decidable (_ ∧ _))

theorem contains_of_covers {region : XmcMemoryRegion} {area : XmcMemoryArea}
    (proper : Proper region.startAddr region.size) (properArea : Proper area.startAddr area.size)
    (covering : covers region area = true)
    : Contains region area := by
  have one : (1 : XmU32).toNat = 1 := rfl
  unfold Proper at proper properArea
  simp only [covers, Bool.and_eq_true, decide_eq_true_eq, XmcMemoryRegion.last,
    XmcMemoryArea.last, BitVec.le_def, BitVec.toNat_sub, BitVec.toNat_add, one] at covering
  unfold Contains
  omega

/-- Regions listed in ascending order are in place. -/
theorem inPlace_of_ascending {rsvPhysPages : List RsvPhysPages} {doc : List MemElement}
    {cfg : MemoryLayout} (accepted : memoryLayout rsvPhysPages doc = .ok cfg)
    (ascending : (regionsOf doc).Pairwise fun region other =>
      region.startAddr.toNat < other.startAddr.toNat)
    (regions : ∀ region ∈ regionsOf doc, Proper region.startAddr region.size)
    (areas : ∀ p ∈ placements [] doc, Proper p.2.startAddr p.2.size)
    : InPlace doc := by
  obtain ⟨s, read, _⟩ := memoryLayout_read accepted
  intro p member
  obtain ⟨⟨i, last⟩, _⟩ := read.covered p member
  obtain ⟨region, entry, covering⟩ := last.covering
  obtain ⟨rest, start⟩ := placements_start member
  have listed : (regionsOf doc)[i]? = some region := by
    rw [← List.nil_append (regionsOf doc), start,
      List.getElem?_append_left (List.getElem?_eq_some_iff.mp entry).1, entry]
  obtain ⟨known, rank⟩ := (Ranks.getElem?_eq_some_iff ascending).mp listed
  refine ⟨?_, i, last, region, known,
    contains_of_covers (regions region known) (areas p member) covering, rank⟩
  intro everything
  have nonempty := (areas p member).1
  rw [everything.2] at nonempty
  exact Nat.lt_irrefl 0 nonempty

/-- Memory below 640 KB and from 16 MB on, the hypervisor at 16 MB, a partition at 32 MB. -/
def lowMemory : XmcMemoryRegion := ⟨0x0, 0xA0000, XMC_REG_FLAG_PGTAB⟩
def highMemory : XmcMemoryRegion := ⟨0x1000000, 0x2000000, XMC_REG_FLAG_PGTAB⟩
def ownAreas : List MemElement :=
  [.areas [⟨0x1000000, 0xFC000000, 0x400000, 0, 0⟩],
    .partition [⟨0x2000000, 0x2000000, 0x100000, 0, 0⟩]]

theorem memoryLayout_points_ascending
    : ∃ cfg, memoryLayout [] (.region lowMemory :: .region highMemory :: ownAreas) = .ok cfg
      ∧ PointsAtItsRegions cfg := by
  have accepted : memoryLayout [] (.region lowMemory :: .region highMemory :: ownAreas) = .ok _ :=
    rfl
  refine ⟨_, accepted, (memoryLayout_points accepted).mpr ?_⟩
  apply inPlace_of_ascending accepted
  · decide
  · decide
  · decide

/-- With the regions the other way round, the areas keep the position their region had before
the sort: the kernel takes entry 0x2000 of the 0xA0 pages of the other region.
-/
theorem descending_regions_misplaced
    : ∃ cfg, memoryLayout [] (.region highMemory :: .region lowMemory :: ownAreas) = .ok cfg
      ∧ cfg.tables.xmcMemRegTab = [lowMemory, highMemory]
      ∧ pmmFindPage cfg.tables ⟨1, 1⟩ 0x2000000
        = .ok (some { region := 0, page := 0x2000, flags := 0 })
      ∧ ¬ PointsAtItsRegions cfg := by
  have accepted : memoryLayout [] (.region highMemory :: .region lowMemory :: ownAreas) = .ok _ :=
    rfl
  refine ⟨_, accepted, rfl, rfl, ?_⟩
  intro points
  obtain ⟨found, returned, denotes⟩ := points.pages ⟨1, 1⟩ (by decide) 0x2000000
  have page : found = some { region := 0, page := 0x2000, flags := 0 } :=
    Except.ok.inj (returned.symm.trans rfl)
  obtain ⟨region, entry, _, bound, _⟩ := denotes _ page
  have other : region = lowMemory := (Option.some.inj entry).symm
  rw [other] at bound
  revert bound
  decide

end XtratuM.Parser
