import XtratuM.Kernel.PhysMm
import XtratuM.Library.Bisection

/-! `PmmFindArea`: the search for an area of a partition that contains a range of addresses. -/

namespace XtratuM

/-- The loop of `PmmFindArea` over the areas of a partition. -/
def findArea (tables : MemoryTables) (cfg : PartitionAreas) (pAddr size : XmU32)
    : Nat → Int → Int → Except Stop (Option XmcMemoryArea)
  | 0, _, _ => .error .diverges
  | fuel + 1, l, r =>
      if l ≤ r then
        let c := (l + r) / 2
        match tables.xmcPhysMemAreaTab[(c + cfg.physicalMemoryAreasOffset).toNat]? with
        | none => .error .badAccess
        | some memArea =>
            if pAddr < memArea.startAddr then
              findArea tables cfg pAddr size fuel l (c - 1)
            else if memArea.last < pAddr + size - 1 then
              findArea tables cfg pAddr size fuel (c + 1) r
            else do
              assert (memArea.startAddr ≤ pAddr ∧ pAddr + size - 1 ≤ memArea.last)
              pure (some memArea)
      else
        .ok none

/-- `PmmFindArea` for a partition: the flags it leaves when it returns 1. -/
def pmmFindArea (tables : MemoryTables) (cfg : PartitionAreas) (pAddr size : XmU32)
    : Except Stop (Option XmU32) := do
  let found ←
    findArea tables cfg pAddr size (cfg.noPhysicalMemoryAreas + 1) 0
      (cfg.noPhysicalMemoryAreas - 1)
  pure (found.map (·.flags))

-----------------------------------------------------------------------------------------
-- What is looked for and what is looked at

/-- The bytes of the range, as integers, are bytes of the area. -/
def XmcMemoryArea.Holds (memArea : XmcMemoryArea) (pAddr size : XmU32) : Prop :=
  memArea.startAddr.toNat ≤ pAddr.toNat
    ∧ pAddr.toNat + size.toNat ≤ memArea.startAddr.toNat + memArea.size.toNat

instance (memArea : XmcMemoryArea) (pAddr size : XmU32) : Decidable (memArea.Holds pAddr size) :=
  inferInstanceAs (Decidable (_ ∧ _))

/-- The lookup finds a range where an area holds it, with the flags of such an area. -/
structure ExactLookup (areas : List XmcMemoryArea) (pAddr size : XmU32) (found : Option XmU32)
    : Prop where
  held : ∀ flags, found = some flags →
    ∃ memArea ∈ areas, memArea.Holds pAddr size ∧ memArea.flags = flags
  complete : (∃ memArea ∈ areas, memArea.Holds pAddr size) → found.isSome = true

/-- The area ends after the range, both ends being computed in 32 bits. -/
def XmcMemoryArea.reaches (pAddr size : XmU32) (memArea : XmcMemoryArea) : Bool :=
  pAddr + size - 1 ≤ memArea.last

/-- The areas that halving a sorted table by start addresses comes by, of those that start at or
below the address.
-/
def areasTo (pAddr : XmU32) (areas : List XmcMemoryArea) : List XmcMemoryArea :=
  Bisection.visited (fun memArea => decide (pAddr < memArea.startAddr)) areas

/-- The range passes the end of the address space, and what is left of it below does not pass the
end of one of the areas that start at or below it.
-/
def WrapsInto (areas : List XmcMemoryArea) (pAddr size : XmU32) : Prop :=
  2 ^ 32 < pAddr.toNat + size.toNat
    ∧ ∃ memArea ∈ areas, memArea.startAddr ≤ pAddr
      ∧ pAddr.toNat + size.toNat ≤ memArea.startAddr.toNat + memArea.size.toNat + 2 ^ 32

instance (areas : List XmcMemoryArea) (pAddr size : XmU32)
    : Decidable (WrapsInto areas pAddr size) :=
  inferInstanceAs (Decidable (_ ∧ _))

/-- An area that holds the range, if any does, is among those that halving comes by. -/
def ComesByHolder (areas : List XmcMemoryArea) (pAddr size : XmU32) : Prop :=
  (∃ memArea ∈ areas, memArea.Holds pAddr size) →
    ∃ memArea ∈ areasTo pAddr areas, memArea.Holds pAddr size

/-- Of the areas that halving comes by, the first whose 32-bit end is not before that of the range
has the flags of one that holds the range, and there is such an area if the range is held at all.
This is what is left to say of tables with an area that is empty or not in the address space.
-/
structure DecidedByEnds (areas : List XmcMemoryArea) (pAddr size : XmU32) : Prop where
  first : ∀ before memArea after, areasTo pAddr areas = before ++ memArea :: after →
    memArea.reaches pAddr size = true → (∀ other ∈ before, other.reaches pAddr size = false) →
    ∃ held ∈ areas, held.Holds pAddr size ∧ held.flags = memArea.flags
  reached : (∃ memArea ∈ areas, memArea.Holds pAddr size) →
    ∃ memArea ∈ areasTo pAddr areas, memArea.reaches pAddr size = true

-----------------------------------------------------------------------------------------
-- The search

/-- The entries of a partition are those from its offset on. -/
theorem slice_entry {tables : MemoryTables} {cfg : PartitionAreas} {i : Nat}
    {memArea : XmcMemoryArea} (entry : (cfg.slice tables.xmcPhysMemAreaTab)[i]? = some memArea)
    : tables.xmcPhysMemAreaTab[((0 : Nat) + (i : Int) + cfg.physicalMemoryAreasOffset).toNat]?
      = some memArea := by
  have index : ((0 : Nat) + (i : Int) + cfg.physicalMemoryAreasOffset).toNat
      = cfg.physicalMemoryAreasOffset + i := by omega
  unfold PartitionAreas.slice at entry
  rw [List.getElem?_take] at entry
  split at entry
  · rw [index, ← List.getElem?_drop]
    exact entry
  · cases entry

theorem slice_length {tables : MemoryTables} {cfg : PartitionAreas} (inside : cfg.Inside tables)
    : (cfg.slice tables.xmcPhysMemAreaTab).length = cfg.noPhysicalMemoryAreas := by
  unfold PartitionAreas.Inside at inside
  rw [PartitionAreas.slice, List.length_take, List.length_drop]
  omega

/-- The assertion of `PmmFindArea` holds where it is made. -/
theorem findArea_loop (tables : MemoryTables) (cfg : PartitionAreas) (pAddr size : XmU32)
    (fuel : Nat) (l r : Int)
    : findArea tables cfg pAddr size fuel l r
      = Bisection.loop
          (fun c => tables.xmcPhysMemAreaTab[(c + cfg.physicalMemoryAreasOffset).toNat]?)
          (fun memArea => decide (pAddr < memArea.startAddr))
          (fun memArea => decide (memArea.last < pAddr + size - 1))
          (.error .diverges) (.error .badAccess) (.ok none) (fun memArea => .ok (some memArea))
          fuel l r := by
  induction fuel generalizing l r with
  | zero => rfl
  | succ fuel ih =>
      unfold findArea Bisection.loop
      simp only [ih, decide_eq_true_eq]
      by_cases more : l ≤ r
      · simp only [if_pos more]
        cases tables.xmcPhysMemAreaTab[((l + r) / 2 + cfg.physicalMemoryAreasOffset).toNat]? with
        | none => rfl
        | some memArea =>
            by_cases beyond : pAddr < memArea.startAddr
            · simp only [if_pos beyond]
            · by_cases passed : memArea.last < pAddr + size - 1
              · simp only [if_neg beyond, if_pos passed]
              · have holds : memArea.startAddr ≤ pAddr ∧ pAddr + size - 1 ≤ memArea.last :=
                  ⟨BitVec.not_lt.mp beyond, BitVec.not_lt.mp passed⟩
                simp only [if_neg beyond, if_neg passed, assert_of holds, ok_bind]
                rfl
      · simp only [if_neg more]

/-- The loop returns the first area to end after the range that halving comes by. -/
theorem findArea_eq {tables : MemoryTables} {cfg : PartitionAreas} (inside : cfg.Inside tables)
    (pAddr size : XmU32)
    : findArea tables cfg pAddr size (cfg.noPhysicalMemoryAreas + 1) 0
        (cfg.noPhysicalMemoryAreas - 1)
      = .ok ((areasTo pAddr (cfg.slice tables.xmcPhysMemAreaTab)).find?
          (XmcMemoryArea.reaches pAddr size)) := by
  have looped := Bisection.loop_eq (l := 0)
    (fun c => tables.xmcPhysMemAreaTab[(c + cfg.physicalMemoryAreasOffset).toNat]?)
    (fun memArea => decide (pAddr < memArea.startAddr))
    (fun memArea => decide (memArea.last < pAddr + size - 1))
    (.error .diverges) (.error .badAccess) (.ok none)
    (fun memArea => (.ok (some memArea) : Except Stop (Option XmcMemoryArea)))
    (cfg.slice tables.xmcPhysMemAreaTab) (fun i memArea entry => slice_entry entry)
    (Nat.lt_succ_self _)
  have reaches : (fun memArea : XmcMemoryArea => !decide (memArea.last < pAddr + size - 1))
      = XmcMemoryArea.reaches pAddr size := by
    funext memArea
    simp only [XmcMemoryArea.reaches, ← decide_not, BitVec.not_lt]
  rw [slice_length inside, Nat.cast_zero, Int.zero_add, ← findArea_loop, reaches] at looped
  rw [looped, areasTo]
  cases (Bisection.visited _ _).find? _ with
  | none => rfl
  | some memArea => rfl

theorem pmmFindArea_eq {tables : MemoryTables} {cfg : PartitionAreas} (inside : cfg.Inside tables)
    (pAddr size : XmU32)
    : pmmFindArea tables cfg pAddr size
      = .ok (((areasTo pAddr (cfg.slice tables.xmcPhysMemAreaTab)).find?
          (XmcMemoryArea.reaches pAddr size)).map (·.flags)) := by
  unfold pmmFindArea
  rw [findArea_eq inside]
  rfl

/-- A lookup answers, and it is exact when the ends decide it rightly, and only then. -/
theorem pmmFindArea_exact_iff {tables : MemoryTables} {cfg : PartitionAreas}
    (inside : cfg.Inside tables) (pAddr size : XmU32)
    : ∃ found, pmmFindArea tables cfg pAddr size = .ok found
      ∧ (ExactLookup (cfg.slice tables.xmcPhysMemAreaTab) pAddr size found
        ↔ DecidedByEnds (cfg.slice tables.xmcPhysMemAreaTab) pAddr size) := by
  refine ⟨_, pmmFindArea_eq inside pAddr size, ?_⟩
  generalize cfg.slice tables.xmcPhysMemAreaTab = areas
  constructor
  · intro lookup
    constructor
    · intro before memArea after split reaches fails
      have found : (areasTo pAddr areas).find? (XmcMemoryArea.reaches pAddr size)
          = some memArea := by
        refine List.find?_eq_some_iff_append.mpr ⟨reaches, before, after, split, ?_⟩
        simpa using fails
      exact lookup.held memArea.flags (by rw [found]; rfl)
    · intro held
      have found := lookup.complete held
      rw [Option.isSome_map, List.find?_isSome] at found
      exact found
  · intro decided
    constructor
    · intro flags found
      obtain ⟨memArea, first, rfl⟩ := Option.map_eq_some_iff.mp found
      obtain ⟨reaches, before, after, split, fails⟩ := List.find?_eq_some_iff_append.mp first
      exact decided.first before memArea after split reaches (by simpa using fails)
    · intro held
      rw [Option.isSome_map, List.find?_isSome]
      exact decided.reached held

-----------------------------------------------------------------------------------------
-- Areas that do not overlap

theorem areasTo_mem {pAddr : XmU32} {areas : List XmcMemoryArea} {memArea : XmcMemoryArea}
    (member : memArea ∈ areasTo pAddr areas)
    : memArea ∈ areas ∧ memArea.startAddr ≤ pAddr := by
  unfold areasTo at member
  refine ⟨(Bisection.visited_sublist areas).subset member, ?_⟩
  have starts := Bisection.not_beyond_of_visited member
  exact BitVec.not_lt.mp (of_decide_eq_false starts)

/-- An area of the address space. -/
structure XmcMemoryArea.Whole (memArea : XmcMemoryArea) : Prop where
  positive : 0 < memArea.size.toNat
  fits : memArea.startAddr.toNat + memArea.size.toNat ≤ 2 ^ 32

instance (memArea : XmcMemoryArea) : Decidable memArea.Whole :=
  decidable_of_iff (_ ∧ _)
    ⟨fun both => ⟨both.1, both.2⟩, fun whole => ⟨whole.positive, whole.fits⟩⟩

theorem XmcMemoryArea.Whole.last_toNat {memArea : XmcMemoryArea} (whole : memArea.Whole)
    : memArea.last.toNat = memArea.startAddr.toNat + memArea.size.toNat - 1 := by
  have positive := whole.positive
  have fits := whole.fits
  have one : (1 : XmU32).toNat = 1 := rfl
  simp only [XmcMemoryArea.last, BitVec.toNat_sub, BitVec.toNat_add, one]
  omega

theorem range_last (pAddr : XmU32) {size : XmU32} (positive : 0 < size.toNat)
    : (pAddr + size - 1).toNat
      = if pAddr.toNat + size.toNat ≤ 2 ^ 32 then pAddr.toNat + size.toNat - 1
        else pAddr.toNat + size.toNat - 1 - 2 ^ 32 := by
  have bound := size.isLt
  have one : (1 : XmU32).toNat = 1 := rfl
  simp only [BitVec.toNat_sub, BitVec.toNat_add, one]
  split <;> omega

/-- The ends, compared in 32 bits, tell that an area holds the range, or that what wraps of the
range ends in or before it.
-/
theorem XmcMemoryArea.Whole.reaches_iff {memArea : XmcMemoryArea} (whole : memArea.Whole)
    {pAddr size : XmU32} (positive : 0 < size.toNat) (starts : memArea.startAddr ≤ pAddr)
    : memArea.reaches pAddr size = true
      ↔ memArea.Holds pAddr size
        ∨ 2 ^ 32 < pAddr.toNat + size.toNat
          ∧ pAddr.toNat + size.toNat ≤ memArea.startAddr.toNat + memArea.size.toNat + 2 ^ 32 := by
  have last := whole.last_toNat
  have nonempty := whole.positive
  have fits := whole.fits
  have rangeLast := range_last pAddr positive
  rw [BitVec.le_def] at starts
  unfold XmcMemoryArea.reaches XmcMemoryArea.Holds
  rw [decide_eq_true_eq, BitVec.le_def, last, rangeLast]
  split <;> omega

/-- A range that passes the end of the address space is held by no area in it. -/
theorem XmcMemoryArea.Holds.noWrap {memArea : XmcMemoryArea} {pAddr size : XmU32}
    (holds : memArea.Holds pAddr size) (whole : memArea.Whole)
    : pAddr.toNat + size.toNat ≤ 2 ^ 32 :=
  holds.2.trans whole.fits

/-- Among whole areas, a lookup goes wrong by what wraps of the range, or by halving past the areas
that hold it.
-/
theorem decidedByEnds_whole {areas : List XmcMemoryArea} {pAddr size : XmU32}
    (positive : 0 < size.toNat) (whole : ∀ memArea ∈ areas, memArea.Whole)
    : DecidedByEnds areas pAddr size
      ↔ ¬WrapsInto (areasTo pAddr areas) pAddr size ∧ ComesByHolder areas pAddr size := by
  have reaches {memArea : XmcMemoryArea} (member : memArea ∈ areasTo pAddr areas) :=
    (whole memArea (areasTo_mem member).1).reaches_iff positive (areasTo_mem member).2
  constructor
  · intro decided
    constructor
    · rintro ⟨wraps, memArea, member, starts, ends⟩
      have found : ((areasTo pAddr areas).find? (XmcMemoryArea.reaches pAddr size)).isSome
          = true :=
        List.find?_isSome.mpr ⟨memArea, member, (reaches member).mpr (Or.inr ⟨wraps, ends⟩)⟩
      obtain ⟨first, found⟩ := Option.isSome_iff_exists.mp found
      obtain ⟨reached, before, after, split, fails⟩ := List.find?_eq_some_iff_append.mp found
      obtain ⟨held, inAreas, holds, _⟩ :=
        decided.first before first after split reached (by simpa using fails)
      exact absurd (holds.noWrap (whole held inAreas)) (by omega)
    · rintro ⟨memArea, member, holds⟩
      obtain ⟨other, looked, reached⟩ := decided.reached ⟨memArea, member, holds⟩
      have noWrap := holds.noWrap (whole memArea member)
      refine ⟨other, looked, ((reaches looked).mp reached).resolve_right ?_⟩
      rintro ⟨wraps, _⟩
      omega
  · rintro ⟨apart, comesBy⟩
    constructor
    · intro before memArea after split reached _
      have looked : memArea ∈ areasTo pAddr areas := split ▸ List.mem_append_cons_self
      obtain ⟨member, starts⟩ := areasTo_mem looked
      refine ⟨memArea, member, ((reaches looked).mp reached).resolve_right ?_, rfl⟩
      rintro ⟨wraps, ends⟩
      exact apart ⟨wraps, memArea, looked, starts, ends⟩
    · intro held
      obtain ⟨memArea, looked, holds⟩ := comesBy held
      exact ⟨memArea, looked, (reaches looked).mpr (Or.inl holds)⟩

section Apart

variable {areas : List XmcMemoryArea} {pAddr size : XmU32}
  (apart : areas.Pairwise fun memArea later =>
    memArea.startAddr.toNat + memArea.size.toNat ≤ later.startAddr.toNat)

include apart

/-- The last area to start at or below the address is looked at. -/
theorem last_areasTo {before after : List XmcMemoryArea} {memArea : XmcMemoryArea}
    (split : areas = before ++ memArea :: after) (starts : memArea.startAddr ≤ pAddr)
    (last : ∀ later ∈ after, pAddr < later.startAddr)
    : memArea ∈ areasTo pAddr areas := by
  refine Bisection.last_visited ?_ split (by simpa using starts) (by simpa using last)
  refine apart.imp ?_
  intro first later order beyond
  simp only [decide_eq_true_eq, BitVec.lt_def] at beyond ⊢
  omega

/-- The area that holds a range is looked at. -/
theorem holding_areasTo {memArea : XmcMemoryArea} (member : memArea ∈ areas)
    (positive : 0 < size.toNat) (holds : memArea.Holds pAddr size)
    : memArea ∈ areasTo pAddr areas := by
  obtain ⟨before, after, split⟩ := List.append_of_mem member
  refine last_areasTo apart split (BitVec.le_def.mpr holds.1) ?_
  intro later inAfter
  rw [split] at apart
  obtain ⟨_, ordered, _⟩ := List.pairwise_append.mp apart
  have order := (List.pairwise_cons.mp ordered).1 later inAfter
  have ends := holds.2
  rw [BitVec.lt_def]
  omega

/-- If any area that starts at or below the address reaches the end of the range, one that is
looked at does.
-/
theorem reaching_areasTo (whole : ∀ memArea ∈ areas, memArea.Whole) {memArea : XmcMemoryArea}
    (member : memArea ∈ areas) (starts : memArea.startAddr ≤ pAddr)
    (reaches : memArea.reaches pAddr size = true)
    : ∃ other ∈ areasTo pAddr areas, other.reaches pAddr size = true := by
  obtain ⟨before, last, after, split, lastStarts, beyond⟩ :=
    Bisection.exists_last (fun other => decide (pAddr < other.startAddr)) member
      (by simpa using starts)
  refine ⟨last, last_areasTo apart split (by simpa using lastStarts) (by simpa using beyond), ?_⟩
  have atLast : last ∈ areas := by simp [split]
  rw [split] at apart member
  obtain ⟨_, _, order⟩ := List.pairwise_append.mp apart
  simp only [XmcMemoryArea.reaches, decide_eq_true_eq, BitVec.le_def] at reaches ⊢
  rcases List.mem_append.mp member with earlier | here
  · have order := order memArea earlier last List.mem_cons_self
    have lastEnd := (whole last atLast).last_toNat
    have earlierEnd := (whole memArea (by simp [split, earlier])).last_toNat
    have nonempty := (whole last atLast).positive
    omega
  · rcases List.mem_cons.mp here with rfl | later
    · exact reaches
    · have further := beyond memArea later
      rw [decide_eq_true_eq, BitVec.lt_def] at further
      rw [BitVec.le_def] at starts
      omega

/-- What wraps of a range ends in or before an area that starts below it exactly when it does so for
one that is looked at.
-/
theorem wrapsInto_areasTo (positive : 0 < size.toNat) (whole : ∀ memArea ∈ areas, memArea.Whole)
    : WrapsInto (areasTo pAddr areas) pAddr size ↔ WrapsInto areas pAddr size := by
  refine and_congr_right fun wraps => ⟨?_, ?_⟩
  · rintro ⟨memArea, looked, ends⟩
    exact ⟨memArea, (areasTo_mem looked).1, ends⟩
  · rintro ⟨memArea, member, starts, ends⟩
    have reached := ((whole memArea member).reaches_iff positive starts).mpr (Or.inr ⟨wraps, ends⟩)
    obtain ⟨other, looked, reached⟩ := reaching_areasTo apart whole member starts reached
    obtain ⟨inAreas, starts⟩ := areasTo_mem looked
    refine ⟨other, looked, starts, ?_⟩
    rcases ((whole other inAreas).reaches_iff positive starts).mp reached with holds | ⟨_, ends⟩
    · exact absurd (holds.noWrap (whole other inAreas)) (by omega)
    · exact ends

/-- In a partition whose areas are whole, sorted and apart, a lookup can only go wrong by what wraps
of the range.
-/
theorem decidedByEnds_apart (positive : 0 < size.toNat)
    (whole : ∀ memArea ∈ areas, memArea.Whole)
    : DecidedByEnds areas pAddr size ↔ ¬WrapsInto areas pAddr size := by
  rw [decidedByEnds_whole positive whole, wrapsInto_areasTo apart positive whole]
  refine and_iff_left ?_
  rintro ⟨memArea, member, holds⟩
  exact ⟨memArea, holding_areasTo apart member positive holds, holds⟩

end Apart

end XtratuM
