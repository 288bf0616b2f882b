import Mathlib.Data.List.Pairwise
import Mathlib.Order.CompletePartialOrder
import Mathlib.Order.Interval.Set.Disjoint
import XtratuM.Kernel.UserPages
import XtratuM.Library.Tables
import XtratuM.Parser.MemoryLayout

/-! What the checks of the memory areas are for: the areas of an accepted document are disjoint
pieces of its regions, and the page tables of a partition can show them.
-/

namespace XtratuM.Parser

open Guest (CONFIG_XM_OFFSET)
open Reachability UserPages

def areasOf (doc : List MemElement) : List XmcMemoryArea :=
  doc.flatMap MemElement.memAreas

/-- The areas of each partition. -/
def MemElement.owned : MemElement → List (List XmcMemoryArea)
  | .region _ => []
  | .areas _ => []
  | .partition list => [list]

def partitionsOf (doc : List MemElement) : List (List XmcMemoryArea) :=
  doc.flatMap MemElement.owned

/-- A range of addresses, as integers. -/
def addresses (startAddr size : XmU32) : Set Nat :=
  Set.Ico startAddr.toNat (startAddr.toNat + size.toNat)

/-- The addresses at which an area is mapped. -/
def mappedAddresses (area : XmcMemoryArea) : Set Nat :=
  addresses area.mappedAt area.size

/-- Whole pages that end at or below 2^32. -/
def Pages (startAddr size : XmU32) : Prop :=
  PageAligned startAddr ∧ PageAligned size ∧ startAddr.toNat + size.toNat ≤ 2 ^ 32

/-- The memory map separates its areas, and no `ASSERT` fails when the pages of a partition are
mapped.
-/
structure Separated (cfg : MemoryLayout) : Prop where
  regions : ∀ region ∈ cfg.tables.xmcMemRegTab, Pages region.startAddr region.size
  areas : ∀ area ∈ cfg.tables.xmcPhysMemAreaTab, Pages area.startAddr area.size
  disjoint : cfg.tables.xmcMemRegTab.Pairwise fun region other =>
    Disjoint (addresses region.startAddr region.size) (addresses other.startAddr other.size)
  inside : ∀ area ∈ cfg.tables.xmcPhysMemAreaTab, ∃ region ∈ cfg.tables.xmcMemRegTab,
    addresses area.startAddr area.size ⊆ addresses region.startAddr region.size
  shared : cfg.tables.xmcPhysMemAreaTab.Pairwise fun area other =>
    (addresses area.startAddr area.size ∩ addresses other.startAddr other.size).Nonempty →
      area.flags &&& XM_MEM_AREA_SHARED = XM_MEM_AREA_SHARED
        ∧ other.flags &&& XM_MEM_AREA_SHARED = XM_MEM_AREA_SHARED
  mapped : ∀ partition ∈ cfg.partitions, ∀ area ∈ mappedAreas cfg.tables partition,
    PageAligned area.mappedAt ∧ area.mappedAt.toNat + area.size.toNat ≤ CONFIG_XM_OFFSET.toNat
  virtual : ∀ partition ∈ cfg.partitions, (mappedAreas cfg.tables partition).Pairwise
    fun area other => Disjoint (mappedAddresses area) (mappedAddresses other)
  assertions : ∀ partition ∈ cfg.partitions, ∀ area ∈ mappedAreas cfg.tables partition,
    ∀ fuel, ∀ page ∈ areaPages area fuel area.startAddr area.mappedAt,
    ∀ start past s, start.Start → Reach (Maps cfg.tables partition) start past s →
    ∀ pT flags, vmMapUserPage cfg.tables partition pT page.1 page.2 flags s ≠ .error .assertion

/-- What the checks leave to the author of the document: no range goes over the end of the
address space, the empty region at address 0, which covers every area, has no area with bytes, and
the areas a partition sees start on a page and end below `CONFIG_XM_OFFSET`.
-/
structure Sound (doc : List MemElement) : Prop where
  regions : ∀ region ∈ regionsOf doc, region.startAddr.toNat + region.size.toNat ≤ 2 ^ 32
  areas : ∀ area ∈ areasOf doc, area.startAddr.toNat + area.size.toNat ≤ 2 ^ 32
  proper : ∀ region ∈ regionsOf doc, region.startAddr = 0 ∧ region.size = 0 →
    ∀ area ∈ areasOf doc, area.size = 0
  mapped : ∀ areas ∈ partitionsOf doc, ∀ area ∈ areas,
    area.flags &&& XM_MEM_AREA_UNMAPPED = 0 →
      ¬ (area.startAddr = 0 ∧ area.size = 0) ∧ PageAligned area.mappedAt
        ∧ area.mappedAt.toNat + area.size.toNat ≤ CONFIG_XM_OFFSET.toNat

-----------------------------------------------------------------------------------------
-- Ranges

/-- The test of the parser on ranges of whole pages that do not wrap. -/
theorem disjoint_of_apart {s0 n0 s1 n1 : XmU32} (first : Pages s0 n0) (second : Pages s1 n1)
    (passed : apart s0 (s0 + n0 - 1) s1 (s1 + n1 - 1) = true)
    : Disjoint (addresses s0 n0) (addresses s1 n1) := by
  have one : (1 : XmU32).toNat = 1 := rfl
  have pageSize : PAGE_SIZE.toNat = 4096 := rfl
  obtain ⟨start0, size0, end0⟩ := first
  obtain ⟨start1, size1, end1⟩ := second
  simp only [apart, Bool.or_eq_true, decide_eq_true_eq, BitVec.le_def, BitVec.toNat_sub,
    BitVec.toNat_add, one] at passed
  rw [addresses, addresses, Set.Ico_disjoint_Ico]
  rw [PageAligned, pageSize] at start0 size0 start1 size1
  omega

/-- A region covers the bytes of an area that has some, or it is empty and at address 0. -/
theorem subset_of_covers {region : XmcMemoryRegion} {area : XmcMemoryArea}
    (covering : covers region area = true)
    (end0 : region.startAddr.toNat + region.size.toNat ≤ 2 ^ 32)
    (end1 : area.startAddr.toNat + area.size.toNat ≤ 2 ^ 32)
    (proper : region.startAddr = 0 ∧ region.size = 0 → area.size = 0)
    : addresses area.startAddr area.size ⊆ addresses region.startAddr region.size := by
  have one : (1 : XmU32).toNat = 1 := rfl
  have bytes : region.startAddr.toNat = 0 ∧ region.size.toNat = 0 → area.size.toNat = 0 := by
    intro ⟨start, size⟩
    rw [proper ⟨BitVec.eq_of_toNat_eq start, BitVec.eq_of_toNat_eq size⟩]
    rfl
  simp only [covers, Bool.and_eq_true, decide_eq_true_eq, XmcMemoryRegion.last,
    XmcMemoryArea.last, BitVec.le_def, BitVec.toNat_sub, BitVec.toNat_add, one] at covering
  intro address
  simp only [addresses, Set.mem_Ico]
  omega

-----------------------------------------------------------------------------------------
-- Reading

theorem apart_comm (s0 e0 s1 e1 : XmU32) : apart s0 e0 s1 e1 = apart s1 e1 s0 e0 :=
  Bool.or_comm _ _

def RegionsApart (region other : XmcMemoryRegion) : Prop :=
  apart region.startAddr region.last other.startAddr other.last = true

/-- Two areas that `CheckPhysMemArea` lets stand beside each other. -/
def AreasApart (area other : XmcMemoryArea) : Prop :=
  apart area.startAddr area.last other.startAddr other.last = true
    ∨ area.flags &&& XM_MEM_AREA_SHARED = XM_MEM_AREA_SHARED
      ∧ other.flags &&& XM_MEM_AREA_SHARED = XM_MEM_AREA_SHARED

/-- Two areas that `CheckMemAreaPerPart` lets stand beside each other. -/
def MappedApart (area other : XmcMemoryArea) : Prop :=
  apart area.mappedAt (area.mappedAt + area.size - 1) other.mappedAt
    (other.mappedAt + other.size - 1) = true

theorem areasApart_symm {area other : XmcMemoryArea} (stand : AreasApart area other)
    : AreasApart other area := by
  rcases stand with separate | ⟨flagged, otherFlagged⟩
  · rw [apart_comm] at separate
    exact Or.inl separate
  · exact Or.inr ⟨otherFlagged, flagged⟩

theorem regionsApart_symm {region other : XmcMemoryRegion} (stand : RegionsApart region other)
    : RegionsApart other region := by
  rwa [RegionsApart, apart_comm]

theorem mappedApart_symm {area other : XmcMemoryArea} (stand : MappedApart area other)
    : MappedApart other area := by
  rwa [MappedApart, apart_comm]

/-- A bit that two words have together is a bit of each. -/
theorem and_eq_of_and_and_eq {word other mask : XmU32} (both : word &&& other &&& mask = mask)
    : word &&& mask = mask ∧ other &&& mask = mask := by
  constructor
  · rw [← both, ← BitVec.and_assoc, ← BitVec.and_assoc, BitVec.and_self]
  · rw [← both, ← BitVec.and_assoc, ← BitVec.and_assoc, BitVec.and_comm other,
      BitVec.and_assoc word, BitVec.and_self]

theorem areaOverlapError_none {area other : XmcMemoryArea}
    (clean : areaOverlapError area other = none)
    : AreasApart other area := by
  unfold areaOverlapError at clean
  split at clean
  · next separate =>
      exact areasApart_symm (Or.inl separate)
  · split at clean
    · next flagged =>
        exact Or.inr (and_eq_of_and_and_eq flagged)
    · cases clean

theorem checkPhysMemArea_apart {rsvPhysPages : List RsvPhysPages} {tables : MemoryTables}
    {area : XmcMemoryArea} {found : Nat}
    (returned : checkPhysMemArea rsvPhysPages tables area = .ok found)
    : ∀ other ∈ tables.xmcPhysMemAreaTab, AreasApart other area := by
  unfold checkPhysMemArea at returned
  split at returned
  · cases returned
  · split at returned
    · cases returned
    · split at returned
      · cases returned
      · next clean =>
          intro other member
          exact areaOverlapError_none (List.findSome?_eq_none_iff.mp clean other member)

theorem memoryRegionError_apart {earlier : List XmcMemoryRegion} {region : XmcMemoryRegion}
    (clean : memoryRegionError earlier region = none)
    : ∀ other ∈ earlier, RegionsApart other region := by
  unfold memoryRegionError at clean
  split at clean
  · cases clean
  · split at clean
    · cases clean
    · intro other member
      have passed := List.findSome?_eq_none_iff.mp clean other member
      split at passed
      · next separate =>
          exact regionsApart_symm separate
      · cases passed

theorem memAreaPerPartError_none {areas : List XmcMemoryArea}
    (clean : memAreaPerPartError areas = none)
    : areas.Pairwise MappedApart := by
  induction areas with
  | nil => exact .nil
  | cons area rest ih =>
      unfold memAreaPerPartError at clean
      obtain ⟨first, later⟩ := Option.or_eq_none_iff.mp clean
      refine .cons ?_ (ih later)
      intro other member
      have passed := List.findSome?_eq_none_iff.mp first other member
      dsimp only at passed
      split at passed
      · next separate => exact separate
      · cases passed

/-- An area but for the region it is given. -/
def unplaced (area : XmcMemoryArea) : XmcMemoryArea :=
  { area with memoryRegionOffset := 0 }

/-- Some areas stand after those known before them. -/
structure AreasKept (before : MemoryLayout) (seen : List XmcMemoryArea) (s : MemoryLayout)
    : Prop where
  regions : s.tables.xmcMemRegTab = before.tables.xmcMemRegTab
  partitions : s.partitions = before.partitions
  areas : s.tables.xmcPhysMemAreaTab.map unplaced
    = before.tables.xmcPhysMemAreaTab.map unplaced ++ seen.map unplaced
  apart : s.tables.xmcPhysMemAreaTab.Pairwise AreasApart

theorem areaNH1_kept (rsvPhysPages : List RsvPhysPages) (before : MemoryLayout)
    (seen : List XmcMemoryArea) (s : MemoryLayout) (area : XmcMemoryArea) (s' : MemoryLayout)
    (kept : AreasKept before seen s) (returned : areaNH1 rsvPhysPages s area = .ok s')
    : AreasKept before (seen ++ [area]) s' := by
  unfold areaNH1 at returned
  cases checked : checkPhysMemArea rsvPhysPages s.tables area with
  | error e => rw [checked] at returned; cases returned
  | ok found =>
      rw [checked] at returned
      cases returned
      constructor
      · exact kept.regions
      · exact kept.partitions
      · simp [kept.areas, unplaced]
      · apply List.pairwise_append.mpr
        refine ⟨kept.apart, List.pairwise_singleton _ _, ?_⟩
        intro other member last inserted
        rw [List.mem_singleton.mp inserted]
        exact checkPhysMemArea_apart checked other member

theorem areas_kept {rsvPhysPages : List RsvPhysPages} {areas : List XmcMemoryArea}
    {s s' : MemoryLayout} (stand : s.tables.xmcPhysMemAreaTab.Pairwise AreasApart)
    (returned : areas.foldlM (areaNH1 rsvPhysPages) s = .ok s')
    : AreasKept s areas s' := by
  have nothing : AreasKept s [] s := ⟨rfl, rfl, by simp, stand⟩
  have kept := foldlM_preserves (P := AreasKept s) (areaNH1_kept rsvPhysPages s) nothing returned
  rwa [List.nil_append] at kept

/-- The elements read so far stand in the tables, apart from each other. -/
structure Kept (seen : List MemElement) (s : MemoryLayout) : Prop where
  regions : s.tables.xmcMemRegTab = regionsOf seen
  regionsApart : (regionsOf seen).Pairwise RegionsApart
  areas : s.tables.xmcPhysMemAreaTab.map unplaced = (areasOf seen).map unplaced
  areasApart : s.tables.xmcPhysMemAreaTab.Pairwise AreasApart
  partitions : List.Forall₂ (fun partition areas =>
    partition.slice (s.tables.xmcPhysMemAreaTab.map unplaced) = areas.map unplaced)
    s.partitions (partitionsOf seen)
  ordered : s.partitions.Pairwise fun partition other =>
    partition.physicalMemoryAreasOffset + partition.noPhysicalMemoryAreas
      ≤ other.physicalMemoryAreasOffset
  inside : ∀ partition ∈ s.partitions, partition.Inside s.tables
  mappedApart : ∀ areas ∈ partitionsOf seen, areas.Pairwise MappedApart

/-- Entries after those of a partition do not matter to it. -/
theorem slice_append {partition : PartitionAreas} {tab : List XmcMemoryArea}
    (inside : partition.physicalMemoryAreasOffset + partition.noPhysicalMemoryAreas ≤ tab.length)
    (more : List XmcMemoryArea)
    : partition.slice (tab ++ more) = partition.slice tab := by
  unfold PartitionAreas.slice
  rw [List.drop_append_of_le_length (by omega), List.take_append_of_le_length]
  rw [List.length_drop]
  omega

theorem Kept.region {seen : List MemElement} {s s' : MemoryLayout} {region : XmcMemoryRegion}
    (kept : Kept seen s) (returned : regionNH1 s region = .ok s')
    : Kept (seen ++ [.region region]) s' := by
  unfold regionNH1 at returned
  cases clean : memoryRegionError s.tables.xmcMemRegTab region with
  | some e => rw [clean] at returned; cases returned
  | none =>
      rw [clean] at returned
      cases returned
      rw [kept.regions] at clean
      have areas : areasOf (seen ++ [.region region]) = areasOf seen := by
        simp [areasOf, MemElement.memAreas]
      have partitions : partitionsOf (seen ++ [.region region]) = partitionsOf seen := by
        simp [partitionsOf, MemElement.owned]
      constructor
      · rw [regionsOf_snoc, kept.regions]
        rfl
      · rw [regionsOf_snoc]
        apply List.pairwise_append.mpr
        refine ⟨kept.regionsApart, List.pairwise_singleton _ _, ?_⟩
        intro other member last inserted
        rw [List.mem_singleton.mp inserted]
        exact memoryRegionError_apart clean other member
      · rw [areas]
        exact kept.areas
      · exact kept.areasApart
      · rw [partitions]
        exact kept.partitions
      · exact kept.ordered
      · exact kept.inside
      · rw [partitions]
        exact kept.mappedApart

/-- The areas of an element that belong to no partition. -/
theorem Kept.areasElement {seen : List MemElement} {s s' : MemoryLayout}
    {list : List XmcMemoryArea} (kept : Kept seen s) (areas : AreasKept s list s')
    : Kept (seen ++ [.areas list]) s' := by
  have tab : s'.tables.xmcPhysMemAreaTab.map unplaced
      = s.tables.xmcPhysMemAreaTab.map unplaced ++ list.map unplaced := areas.areas
  have regions : regionsOf (seen ++ [.areas list]) = regionsOf seen := by
    simp [regionsOf, MemElement.regions]
  have partitions : partitionsOf (seen ++ [.areas list]) = partitionsOf seen := by
    simp [partitionsOf, MemElement.owned]
  constructor
  · rw [regions]
    exact areas.regions.trans kept.regions
  · rw [regions]
    exact kept.regionsApart
  · simp [tab, kept.areas, areasOf, MemElement.memAreas]
  · exact areas.apart
  · rw [partitions, areas.partitions]
    have same : ∀ partition ∈ s.partitions,
        partition.slice (s'.tables.xmcPhysMemAreaTab.map unplaced)
          = partition.slice (s.tables.xmcPhysMemAreaTab.map unplaced) := by
      intro partition member
      rw [tab, slice_append]
      rw [List.length_map]
      exact kept.inside partition member
    refine List.Forall₂.imp ?_ ((List.forall₂_and_left _ _).mpr ⟨same, kept.partitions⟩)
    intro partition owned related
    exact related.1.trans related.2
  · rw [areas.partitions]
    exact kept.ordered
  · intro partition member
    rw [areas.partitions] at member
    have grown := congrArg List.length tab
    have inside := kept.inside partition member
    simp only [List.length_append, List.length_map] at grown
    unfold PartitionAreas.Inside at inside ⊢
    omega
  · rw [partitions]
    exact kept.mappedApart

/-- The areas read last are those of a partition. -/
theorem Kept.partition {seen : List MemElement} {before s : MemoryLayout}
    {list : List XmcMemoryArea} (known : Kept seen before) (areas : AreasKept before list s)
    (kept : Kept (seen ++ [.areas list]) s) (stand : list.Pairwise MappedApart)
    : Kept (seen ++ [.partition list])
        { s with
          partitions :=
            s.partitions ++ [⟨before.tables.xmcPhysMemAreaTab.length, list.length⟩] } := by
  have regions : regionsOf (seen ++ [.partition list]) = regionsOf (seen ++ [.areas list]) := by
    simp [regionsOf, MemElement.regions]
  have all : areasOf (seen ++ [.partition list]) = areasOf (seen ++ [.areas list]) := by
    simp [areasOf, MemElement.memAreas]
  have partitions : partitionsOf (seen ++ [.partition list])
      = partitionsOf (seen ++ [.areas list]) ++ [list] := by
    simp [partitionsOf, MemElement.owned]
  have length := congrArg List.length areas.areas
  simp only [List.length_append, List.length_map] at length
  constructor
  · rw [regions]
    exact kept.regions
  · rw [regions]
    exact kept.regionsApart
  · rw [all]
    exact kept.areas
  · exact kept.areasApart
  · rw [partitions]
    refine List.rel_append kept.partitions (.cons ?_ .nil)
    simp only [PartitionAreas.slice, areas.areas]
    rw [List.drop_left' (List.length_map _), List.take_of_length_le (by simp)]
  · apply List.pairwise_append.mpr
    refine ⟨kept.ordered, List.pairwise_singleton _ _, ?_⟩
    intro partition member last added
    rw [List.mem_singleton.mp added]
    rw [areas.partitions] at member
    exact known.inside partition member
  · intro partition member
    rcases List.mem_append.mp member with earlier | added
    · exact kept.inside partition earlier
    · rw [List.mem_singleton.mp added, PartitionAreas.Inside, length]
  · rw [partitions]
    intro owned member
    rcases List.mem_append.mp member with earlier | added
    · exact kept.mappedApart owned earlier
    · rw [List.mem_singleton.mp added]
      exact stand

theorem memElement_kept (rsvPhysPages : List RsvPhysPages) (seen : List MemElement)
    (s : MemoryLayout) (element : MemElement) (s' : MemoryLayout) (kept : Kept seen s)
    (returned : memElement rsvPhysPages s element = .ok s')
    : Kept (seen ++ [element]) s' := by
  cases element with
  | region region => exact kept.region returned
  | areas list => exact kept.areasElement (areas_kept kept.areasApart returned)
  | partition list =>
      obtain ⟨after, returned, checked⟩ := bind_eq_ok.mp returned
      have areas := areas_kept kept.areasApart returned
      unfold partitionNH2 at checked
      cases clean : memAreaPerPartError list with
      | some e => rw [clean] at checked; cases checked
      | none =>
          rw [clean] at checked
          cases checked
          exact Kept.partition kept areas (kept.areasElement areas) (memAreaPerPartError_none clean)

-----------------------------------------------------------------------------------------
-- Sorting

/-- Partitions with no entry in common. -/
def SlicesApart (partition other : PartitionAreas) : Prop :=
  partition.physicalMemoryAreasOffset + partition.noPhysicalMemoryAreas
      ≤ other.physicalMemoryAreasOffset
    ∨ other.physicalMemoryAreasOffset + other.noPhysicalMemoryAreas
      ≤ partition.physicalMemoryAreasOffset

instance : Std.Symm SlicesApart := ⟨fun _ _ separate => Or.symm separate⟩

theorem getElem?_slice (partition : PartitionAreas) (tab : List XmcMemoryArea) (i : Nat)
    : (partition.slice tab)[i]?
      = if i < partition.noPhysicalMemoryAreas then
          tab[partition.physicalMemoryAreasOffset + i]?
        else
          none := by
  simp [PartitionAreas.slice, List.getElem?_take, List.getElem?_drop]

theorem sortAreas_perm (areas : List XmcMemoryArea) : (sortAreas areas).Perm areas :=
  List.perm_insertionSort _ _

theorem sortAreas_slice_length {tab : List XmcMemoryArea} {partition : PartitionAreas}
    (inside : partition.physicalMemoryAreasOffset + partition.noPhysicalMemoryAreas ≤ tab.length)
    : (sortAreas (partition.slice tab)).length = partition.noPhysicalMemoryAreas := by
  rw [(sortAreas_perm _).length_eq, PartitionAreas.slice, List.length_take, List.length_drop]
  omega

/-- Sorting the areas of a partition sorts them. -/
theorem sortPartition_own {tab tab' : List XmcMemoryArea} {partition : PartitionAreas}
    (inside : partition.physicalMemoryAreasOffset + partition.noPhysicalMemoryAreas ≤ tab.length)
    (returned : sortPartition tab partition = .ok tab')
    : partition.slice tab' = sortAreas (partition.slice tab)
      ∧ (partition.slice tab').Pairwise fun area other =>
        area.startAddr.toNat < other.startAddr.toNat := by
  unfold sortPartition at returned
  dsimp only at returned
  split at returned
  · cases returned
  · next ascending =>
      cases returned
      have length := sortAreas_slice_length inside
      have front : (tab.take partition.physicalMemoryAreasOffset).length
          = partition.physicalMemoryAreasOffset := by
        rw [List.length_take]
        omega
      have own : partition.slice (tab.take partition.physicalMemoryAreasOffset
          ++ sortAreas (partition.slice tab)
          ++ tab.drop (partition.physicalMemoryAreasOffset + partition.noPhysicalMemoryAreas))
          = sortAreas (partition.slice tab) := by
        rw [slice_append (by rw [List.length_append, front, length]), PartitionAreas.slice,
          List.drop_left' front, List.take_of_length_le length.le]
      refine ⟨own, ?_⟩
      change (partition.slice (tab.take partition.physicalMemoryAreasOffset
        ++ sortAreas (partition.slice tab)
        ++ tab.drop (partition.physicalMemoryAreasOffset
          + partition.noPhysicalMemoryAreas))).Pairwise _
      rw [own]
      exact List.pairwise_map.mp (Ranks.firstUnsorted_eq_none ascending)

/-- It leaves the areas of the other partitions. -/
theorem sortPartition_apart {tab tab' : List XmcMemoryArea} {partition other : PartitionAreas}
    (inside : partition.physicalMemoryAreasOffset + partition.noPhysicalMemoryAreas ≤ tab.length)
    (returned : sortPartition tab partition = .ok tab') (separate : SlicesApart partition other)
    : other.slice tab' = other.slice tab := by
  unfold sortPartition at returned
  dsimp only at returned
  split at returned
  · cases returned
  · cases returned
    have length := sortAreas_slice_length inside
    have front : (tab.take partition.physicalMemoryAreasOffset).length
        = partition.physicalMemoryAreasOffset := by
      rw [List.length_take]
      omega
    change other.slice (tab.take partition.physicalMemoryAreasOffset
      ++ sortAreas (partition.slice tab)
      ++ tab.drop (partition.physicalMemoryAreasOffset + partition.noPhysicalMemoryAreas)) = _
    apply List.ext_getElem?
    intro i
    rw [getElem?_slice, getElem?_slice]
    split
    · next within =>
        unfold SlicesApart at separate
        rcases separate with after | before
        · rw [List.getElem?_append_right (by rw [List.length_append, front, length]; omega),
            List.getElem?_drop, List.length_append, front, length]
          congr 1
          omega
        · rw [List.getElem?_append_left (by rw [List.length_append, front, length]; omega),
            List.getElem?_append_left (by rw [front]; omega), List.getElem?_take, if_pos]
          omega
    · rfl

/-- Sorting the areas of a partition permutes them and leaves those of the others. -/
theorem sortPartition_slice {tab tab' : List XmcMemoryArea} {partition other : PartitionAreas}
    (inside : partition.physicalMemoryAreasOffset + partition.noPhysicalMemoryAreas ≤ tab.length)
    (returned : sortPartition tab partition = .ok tab')
    (stand : partition = other ∨ SlicesApart partition other)
    : (other.slice tab').Perm (other.slice tab) := by
  rcases stand with rfl | separate
  · rw [(sortPartition_own inside returned).1]
    exact sortAreas_perm _
  · rw [sortPartition_apart inside returned separate]

/-- So does sorting those of one partition after the other. -/
theorem sortPartitions_slice {partitions : List PartitionAreas} {tab tab' : List XmcMemoryArea}
    {other : PartitionAreas}
    (inside : ∀ partition ∈ partitions,
      partition.physicalMemoryAreasOffset + partition.noPhysicalMemoryAreas ≤ tab.length)
    (stand : ∀ partition ∈ partitions, partition = other ∨ SlicesApart partition other)
    (returned : partitions.foldlM sortPartition tab = .ok tab')
    : (other.slice tab').Perm (other.slice tab) := by
  induction partitions generalizing tab with
  | nil =>
      cases returned
      exact .refl _
  | cons partition rest ih =>
      rw [List.foldlM_cons] at returned
      obtain ⟨next, sorted, returned⟩ := bind_eq_ok.mp returned
      have first := sortPartition_slice (inside partition List.mem_cons_self) sorted
        (stand partition List.mem_cons_self)
      refine (ih ?_ ?_ returned).trans first
      · intro later member
        rw [(sortPartition_perm sorted).length_eq]
        exact inside later (List.mem_cons_of_mem _ member)
      · intro later member
        exact stand later (List.mem_cons_of_mem _ member)

/-- Each partition is left with sorted areas, when no two partitions have areas in common. -/
theorem sortPartitions_sorted {partitions : List PartitionAreas} {tab tab' : List XmcMemoryArea}
    (inside : ∀ partition ∈ partitions,
      partition.physicalMemoryAreasOffset + partition.noPhysicalMemoryAreas ≤ tab.length)
    (separate : partitions.Pairwise SlicesApart)
    (returned : partitions.foldlM sortPartition tab = .ok tab')
    : (∀ partition ∈ partitions, (partition.slice tab').Pairwise fun area other =>
        area.startAddr.toNat < other.startAddr.toNat)
      ∧ ∀ other, (∀ partition ∈ partitions, SlicesApart partition other) →
        other.slice tab' = other.slice tab := by
  induction partitions generalizing tab with
  | nil =>
      cases returned
      exact ⟨by simp, fun _ _ => rfl⟩
  | cons first rest ih =>
      rw [List.foldlM_cons] at returned
      obtain ⟨next, stepped, returned⟩ := bind_eq_ok.mp returned
      obtain ⟨apart, separate⟩ := List.pairwise_cons.mp separate
      have within := inside first List.mem_cons_self
      have length := (sortPartition_perm stepped).length_eq
      obtain ⟨sorted, left⟩ := ih
        (fun partition member => length ▸ inside partition (List.mem_cons_of_mem _ member))
        separate returned
      constructor
      · intro partition member
        rcases List.mem_cons.mp member with rfl | later
        · rw [left partition fun other listed => Or.symm (apart other listed)]
          exact (sortPartition_own within stepped).2
        · exact sorted partition later
      · intro other stands
        rw [left other fun partition listed => stands partition (List.mem_cons_of_mem _ listed)]
        exact sortPartition_apart within stepped (stands first List.mem_cons_self)

theorem elements_kept {rsvPhysPages : List RsvPhysPages} {doc : List MemElement}
    {s : MemoryLayout}
    (elements : doc.foldlM (memElement rsvPhysPages) { tables := ⟨[], []⟩, partitions := [] }
      = .ok s)
    : Kept doc s := by
  have nothing : Kept [] { tables := ⟨[], []⟩, partitions := [] } :=
    ⟨rfl, .nil, rfl, .nil, .nil, .nil, by simp, by simp [partitionsOf]⟩
  have kept := foldlM_preserves (P := Kept) (memElement_kept rsvPhysPages) nothing elements
  rwa [List.nil_append] at kept

/-- What has become of the elements of an accepted document. -/
theorem memoryLayout_kept {rsvPhysPages : List RsvPhysPages} {doc : List MemElement}
    {cfg : MemoryLayout} (accepted : memoryLayout rsvPhysPages doc = .ok cfg)
    : ∃ s, Kept doc s ∧ cfg.partitions = s.partitions
      ∧ cfg.tables.xmcPhysMemAreaTab.Perm s.tables.xmcPhysMemAreaTab
      ∧ ∀ partition ∈ s.partitions,
        (partition.slice cfg.tables.xmcPhysMemAreaTab).Perm
          (partition.slice s.tables.xmcPhysMemAreaTab) := by
  unfold memoryLayout at accepted
  obtain ⟨s, elements, accepted⟩ := bind_eq_ok.mp accepted
  obtain ⟨areas, sortedAreas, accepted⟩ := bind_eq_ok.mp accepted
  obtain ⟨regions, sortedRegions, accepted⟩ := bind_eq_ok.mp accepted
  cases accepted
  have kept := elements_kept elements
  refine ⟨s, kept, rfl, sortPhysMemAreas_perm sortedAreas, ?_⟩
  intro partition member
  refine sortPartitions_slice kept.inside ?_ sortedAreas
  intro other listed
  have separate : s.partitions.Pairwise SlicesApart := kept.ordered.imp Or.inl
  by_cases same : other = partition
  · exact Or.inl same
  · exact Or.inr (separate.forall listed member same)

/-- The areas of a partition of an accepted document are sorted. -/
theorem memoryLayout_sorted {rsvPhysPages : List RsvPhysPages} {doc : List MemElement}
    {cfg : MemoryLayout} (accepted : memoryLayout rsvPhysPages doc = .ok cfg)
    : ∀ partition ∈ cfg.partitions,
      (partition.slice cfg.tables.xmcPhysMemAreaTab).Pairwise fun area other =>
        area.startAddr.toNat < other.startAddr.toNat := by
  unfold memoryLayout at accepted
  obtain ⟨s, elements, accepted⟩ := bind_eq_ok.mp accepted
  obtain ⟨areas, sortedAreas, accepted⟩ := bind_eq_ok.mp accepted
  obtain ⟨regions, _, accepted⟩ := bind_eq_ok.mp accepted
  cases accepted
  have kept := elements_kept elements
  exact (sortPartitions_sorted kept.inside (kept.ordered.imp Or.inl) sortedAreas).1

/-- What the checks give of an accepted document. -/
structure Accepted (doc : List MemElement) (cfg : MemoryLayout) : Prop where
  regions : cfg.tables.xmcMemRegTab.Perm (regionsOf doc)
  alignedRegions : ∀ region ∈ regionsOf doc,
    PageAligned region.startAddr ∧ PageAligned region.size
  regionsApart : cfg.tables.xmcMemRegTab.Pairwise RegionsApart
  areas : (cfg.tables.xmcPhysMemAreaTab.map unplaced).Perm ((areasOf doc).map unplaced)
  alignedAreas : ∀ area ∈ areasOf doc, PageAligned area.startAddr ∧ PageAligned area.size
  covered : ∀ area ∈ areasOf doc, ∃ region ∈ regionsOf doc, covers region area = true
  areasApart : cfg.tables.xmcPhysMemAreaTab.Pairwise AreasApart
  partitions : List.Forall₂ (fun partition owned =>
    ((partition.slice cfg.tables.xmcPhysMemAreaTab).map unplaced).Perm (owned.map unplaced))
    cfg.partitions (partitionsOf doc)
  inside : ∀ partition ∈ cfg.partitions, partition.Inside cfg.tables
  mappedApart : ∀ partition ∈ cfg.partitions,
    (partition.slice cfg.tables.xmcPhysMemAreaTab).Pairwise MappedApart

theorem exists_placement (earlier : List XmcMemoryRegion) {doc : List MemElement}
    {area : XmcMemoryArea} (member : area ∈ areasOf doc)
    : ∃ p ∈ placements earlier doc, p.2 = area := by
  induction doc generalizing earlier with
  | nil => cases member
  | cons element rest ih =>
      rw [areasOf, List.flatMap_cons] at member
      rcases List.mem_append.mp member with here | later
      · exact ⟨(earlier, area),
          List.mem_append_left _ (List.mem_map.mpr ⟨area, here, rfl⟩), rfl⟩
      · obtain ⟨p, listed, same⟩ := ih (earlier ++ element.regions) later
        exact ⟨p, List.mem_append_right _ listed, same⟩

/-- Tables of the same areas have areas mapped apart together. -/
theorem mappedApart_of_perm {list other : List XmcMemoryArea}
    (same : (list.map unplaced).Perm (other.map unplaced)) (stand : other.Pairwise MappedApart)
    : list.Pairwise MappedApart := by
  have unplacedOther : (other.map unplaced).Pairwise MappedApart := List.pairwise_map.mpr stand
  have unplacedList : (list.map unplaced).Pairwise MappedApart :=
    (same.pairwise_iff mappedApart_symm).mpr unplacedOther
  have stands := List.pairwise_map.mp unplacedList
  exact stands

theorem memoryLayout_accepts {rsvPhysPages : List RsvPhysPages} {doc : List MemElement}
    {cfg : MemoryLayout} (accepted : memoryLayout rsvPhysPages doc = .ok cfg)
    : Accepted doc cfg := by
  obtain ⟨_, read, _, _, regions, _⟩ := memoryLayout_read accepted
  obtain ⟨s, kept, partitions, areas, slices⟩ := memoryLayout_kept accepted
  have related : List.Forall₂ (fun partition owned =>
      ((partition.slice cfg.tables.xmcPhysMemAreaTab).map unplaced).Perm (owned.map unplaced))
      s.partitions (partitionsOf doc) := by
    refine List.Forall₂.imp ?_ ((List.forall₂_and_left _ _).mpr ⟨slices, kept.partitions⟩)
    intro partition owned ⟨sorted, same⟩
    have mapped := sorted.map unplaced
    rw [← same]
    simpa [PartitionAreas.slice] using mapped
  constructor
  · exact regions
  · exact read.aligned
  · exact (regions.pairwise_iff regionsApart_symm).mpr kept.regionsApart
  · rw [← kept.areas]
    exact areas.map unplaced
  · intro area member
    obtain ⟨p, listed, rfl⟩ := exists_placement [] member
    exact (read.covered p listed).2
  · intro area member
    obtain ⟨p, listed, rfl⟩ := exists_placement [] member
    obtain ⟨⟨i, last⟩, _⟩ := read.covered p listed
    obtain ⟨region, entry, covering⟩ := last.covering
    obtain ⟨rest, known⟩ := placements_start listed
    refine ⟨region, ?_, covering⟩
    rw [← List.nil_append (regionsOf doc), known]
    exact List.mem_append_left _ (List.mem_of_getElem? entry)
  · exact (areas.pairwise_iff areasApart_symm).mpr kept.areasApart
  · rw [partitions]
    exact related
  · intro partition member
    rw [partitions] at member
    rw [PartitionAreas.Inside, areas.length_eq]
    exact kept.inside partition member
  · intro partition member
    rw [partitions] at member
    obtain ⟨owned, listed, same⟩ := Tables.exists_related related member
    exact mappedApart_of_perm same (kept.mappedApart owned listed)

-----------------------------------------------------------------------------------------
-- Separation

theorem fields_of_unplaced {area other : XmcMemoryArea} (same : unplaced area = unplaced other)
    : area.startAddr = other.startAddr ∧ area.mappedAt = other.mappedAt
      ∧ area.size = other.size ∧ area.flags = other.flags := by
  injection same with startAddr mappedAt size flags
  exact ⟨startAddr, mappedAt, size, flags⟩

theorem exists_unplaced {list others : List XmcMemoryArea}
    (same : (list.map unplaced).Perm (others.map unplaced)) {area : XmcMemoryArea}
    (member : area ∈ list)
    : ∃ other ∈ others, unplaced area = unplaced other := by
  have listed := same.mem_iff.mp (List.mem_map_of_mem member)
  obtain ⟨other, member, equal⟩ := List.mem_map.mp listed
  exact ⟨other, member, equal.symm⟩

theorem Accepted.pages {doc : List MemElement} {cfg : MemoryLayout} (facts : Accepted doc cfg)
    (sound : Sound doc)
    : (∀ region ∈ cfg.tables.xmcMemRegTab, Pages region.startAddr region.size)
      ∧ ∀ area ∈ cfg.tables.xmcPhysMemAreaTab, Pages area.startAddr area.size := by
  constructor
  · intro region member
    have listed := facts.regions.mem_iff.mp member
    obtain ⟨start, size⟩ := facts.alignedRegions region listed
    exact ⟨start, size, sound.regions region listed⟩
  · intro area member
    obtain ⟨other, listed, same⟩ := exists_unplaced facts.areas member
    obtain ⟨startAddr, _, size, _⟩ := fields_of_unplaced same
    rw [startAddr, size]
    exact ⟨(facts.alignedAreas other listed).1, (facts.alignedAreas other listed).2,
      sound.areas other listed⟩

/-- The areas a partition sees are what the document says of them. -/
theorem Accepted.mapped {doc : List MemElement} {cfg : MemoryLayout} (facts : Accepted doc cfg)
    (sound : Sound doc) {partition : PartitionAreas} (member : partition ∈ cfg.partitions)
    {area : XmcMemoryArea} (shown : area ∈ mappedAreas cfg.tables partition)
    : area ∈ cfg.tables.xmcPhysMemAreaTab ∧ ¬ (area.startAddr = 0 ∧ area.size = 0)
      ∧ PageAligned area.mappedAt
      ∧ area.mappedAt.toNat + area.size.toNat ≤ CONFIG_XM_OFFSET.toNat := by
  obtain ⟨listed, unmapped⟩ := List.mem_filter.mp shown
  obtain ⟨owned, partitionListed, same⟩ := Tables.exists_related facts.partitions member
  obtain ⟨other, here, equal⟩ := exists_unplaced same listed
  obtain ⟨startAddr, mappedAt, size, flags⟩ := fields_of_unplaced equal
  rw [flags] at unmapped
  rw [startAddr, mappedAt, size]
  exact ⟨List.mem_of_mem_drop (List.mem_of_mem_take listed),
    sound.mapped owned partitionListed other here (of_decide_eq_true unmapped)⟩

/-- The assertions of `VmMapUserPage` hold for every page of an area. -/
theorem Accepted.assertions {doc : List MemElement} {cfg : MemoryLayout}
    (facts : Accepted doc cfg) (sound : Sound doc) {partition : PartitionAreas}
    (member : partition ∈ cfg.partitions) {area : XmcMemoryArea}
    (shown : area ∈ mappedAreas cfg.tables partition) {fuel : Nat} {page : XmU32 × XmU32}
    (visited : page ∈ areaPages area fuel area.startAddr area.mappedAt) {s : PageTables}
    (installed : Installed cfg.tables partition s) (pT flags : XmU32)
    : vmMapUserPage cfg.tables partition pT page.1 page.2 flags s ≠ .error .assertion := by
  obtain ⟨listed, proper, aligned, below⟩ := facts.mapped sound member shown
  have pages := (facts.pages sound).2
  obtain ⟨start, size, _⟩ := pages area listed
  obtain ⟨k, inside, rfl⟩ := areaPages_inside start size proper visited
  have pageSize : PAGE_SIZE.toNat = 4096 := rfl
  have top : CONFIG_XM_OFFSET.toNat = 0xFC000000 := rfl
  apply vmMapUserPage_no_assertion installed
  · apply pmmFindPage_no_assertion (facts.inside partition member)
    intro other known
    exact ⟨(pages other known).1, (pages other known).2.1⟩
  · simp only [PageAligned, pageFrom, BitVec.toNat_add, BitVec.toNat_ofNat, pageSize] at start ⊢
    omega
  · simp only [PageAligned, pageFrom, BitVec.toNat_add, BitVec.toNat_ofNat, pageSize] at aligned ⊢
    omega
  · rw [pageSize] at inside
    rw [top] at below
    simp only [pageFrom, BitVec.lt_def, BitVec.toNat_add, BitVec.toNat_ofNat, pageSize, top]
    omega

theorem Accepted.separated {doc : List MemElement} {cfg : MemoryLayout}
    (facts : Accepted doc cfg) (sound : Sound doc)
    : Separated cfg := by
  obtain ⟨regions, areas⟩ := facts.pages sound
  constructor
  · exact regions
  · exact areas
  · refine facts.regionsApart.imp_of_mem ?_
    intro region other first second separate
    exact disjoint_of_apart (regions region first) (regions other second) separate
  · intro area member
    obtain ⟨other, listed, same⟩ := exists_unplaced facts.areas member
    obtain ⟨startAddr, _, size, _⟩ := fields_of_unplaced same
    obtain ⟨region, known, covering⟩ := facts.covered other listed
    refine ⟨region, facts.regions.mem_iff.mpr known, ?_⟩
    rw [startAddr, size]
    apply subset_of_covers covering (sound.regions region known) (sound.areas other listed)
    intro empty
    exact sound.proper region known empty other listed
  · refine facts.areasApart.imp_of_mem ?_
    intro area other first second stand common
    rcases stand with separate | flagged
    · have disjoint := disjoint_of_apart (areas area first) (areas other second) separate
      exact absurd (Set.disjoint_iff_inter_eq_empty.mp disjoint) common.ne_empty
    · exact flagged
  · intro partition member area shown
    exact (facts.mapped sound member shown).2.2
  · intro partition member
    have sub : (mappedAreas cfg.tables partition).Pairwise MappedApart :=
      (facts.mappedApart partition member).sublist List.filter_sublist
    refine sub.imp_of_mem ?_
    intro area other first second separate
    have virtualPages : ∀ area ∈ mappedAreas cfg.tables partition,
        Pages area.mappedAt area.size := by
      intro area shown
      obtain ⟨listed, _, aligned, below⟩ := facts.mapped sound member shown
      exact ⟨aligned, (areas area listed).2.1, below.trans (by decide)⟩
    exact disjoint_of_apart (virtualPages area first) (virtualPages other second) separate
  · intro partition member area shown fuel page visited start past s initial run pT flags
    exact facts.assertions sound member shown visited (installed_of_reach initial run) pT flags

-----------------------------------------------------------------------------------------
-- Soundness

instance : Std.Symm RegionsApart := ⟨fun _ _ => regionsApart_symm⟩

/-- The empty region at address 0 stands alone. -/
theorem alone_of_everything {region other : XmcMemoryRegion}
    (everything : region.startAddr = 0 ∧ region.size = 0) (start : PageAligned other.startAddr)
    (size : PageAligned other.size) (stand : RegionsApart region other)
    : False := by
  have one : (1 : XmU32).toNat = 1 := rfl
  have zero : (0 : XmU32).toNat = 0 := rfl
  have pageSize : PAGE_SIZE.toNat = 4096 := rfl
  unfold RegionsApart at stand
  rw [XmcMemoryRegion.last, everything.1, everything.2] at stand
  simp only [apart, XmcMemoryRegion.last, Bool.or_eq_true, decide_eq_true_eq, BitVec.le_def,
    BitVec.toNat_sub, BitVec.toNat_add, one, zero] at stand
  rw [PageAligned, pageSize] at start size
  omega

/-- A cleared set of tables. -/
def noTables : PageTables :=
  { ptdL1 := fun _ => 0, ptdL2 := fun _ _ => 0, physPageTab := fun _ _ => ⟨.std, 0⟩ }

theorem noTables_start : noTables.Start :=
  ⟨fun _ => rfl, fun _ _ => Nat.zero_le 1⟩

theorem Separated.sound {doc : List MemElement} {cfg : MemoryLayout} (separated : Separated cfg)
    (facts : Accepted doc cfg)
    : Sound doc := by
  have stored : ∀ area ∈ areasOf doc, ∃ other ∈ cfg.tables.xmcPhysMemAreaTab,
      unplaced area = unplaced other := fun area member => exists_unplaced facts.areas.symm member
  constructor
  · intro region member
    exact (separated.regions region (facts.regions.mem_iff.mpr member)).2.2
  · intro area member
    obtain ⟨other, listed, same⟩ := stored area member
    obtain ⟨startAddr, _, size, _⟩ := fields_of_unplaced same
    rw [startAddr, size]
    exact (separated.areas other listed).2.2
  · intro region member everything area listed
    obtain ⟨other, known, same⟩ := stored area listed
    obtain ⟨startAddr, _, size, _⟩ := fields_of_unplaced same
    obtain ⟨around, placed, subset⟩ := separated.inside other known
    by_contra bytes
    have first : other.startAddr.toNat ∈ addresses other.startAddr other.size := by
      rw [size] at bytes
      have positive : other.size.toNat ≠ 0 := fun none => bytes (BitVec.eq_of_toNat_eq none)
      simp only [addresses, Set.mem_Ico]
      omega
    have within := subset first
    have different : region ≠ around := by
      rintro rfl
      rw [everything.1, everything.2] at within
      exact absurd within (by simp [addresses])
    obtain ⟨start, whole⟩ := facts.alignedRegions around (facts.regions.mem_iff.mp placed)
    exact alone_of_everything everything start whole
      (facts.regionsApart.forall (facts.regions.mem_iff.mpr member) placed different)
  · intro owned member area listed shown
    have reversed := facts.partitions.flip
    obtain ⟨partition, known, same⟩ := Tables.exists_related reversed member
    obtain ⟨other, here, equal⟩ := exists_unplaced same.symm listed
    obtain ⟨startAddr, mappedAt, size, flags⟩ := fields_of_unplaced equal
    rw [flags] at shown
    have seen : other ∈ mappedAreas cfg.tables partition :=
      List.mem_filter.mpr ⟨here, decide_eq_true shown⟩
    obtain ⟨aligned, below⟩ := separated.mapped partition known other seen
    rw [startAddr, mappedAt, size]
    refine ⟨?_, aligned, below⟩
    intro everything
    have low : other.mappedAt ≤ CONFIG_XM_OFFSET :=
      BitVec.le_def.mpr (le_trans (Nat.le_add_right _ _) below)
    obtain ⟨fuel, page, visited, above⟩ := areaPages_everything everything aligned low
    exact separated.assertions partition known other seen fuel page visited noTables [] noTables
      noTables_start .start 0 0 (vmMapUserPage_assertion noTables 0 page.1 0 above)

instance (address : XmU32) : Decidable (PageAligned address) :=
  inferInstanceAs (Decidable (_ = _))

/-- Nothing keeps a partition from seeing its area at the address of the hypervisor, where
`VmMapUserPage` cannot map it.
-/
def areaOverHypervisor : List MemElement :=
  [.region lowMemory, .region highMemory,
    .areas [⟨0x1000000, 0xFC000000, 0x400000, 0, 0⟩],
    .partition [⟨0x2000000, 0xFC000000, 0x100000, 0, 0⟩]]

end XtratuM.Parser
