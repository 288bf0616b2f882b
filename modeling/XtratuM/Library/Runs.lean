import Mathlib.Logic.Basic
import Mathlib.Order.Defs.LinearOrder
import Mathlib.Tactic.Common

/-! Run-length encoding of a table indexed by the naturals, and its expansion: a later run
overrides the ones before it, and what no run covers keeps its initial value.
-/

namespace RunLength

variable {α : Type*}

/-- The entries from `first` to `last`, all equal to `value`. -/
structure Run (α : Type*) where
  first : Nat
  last : Nat
  value : α

def Run.Covers (run : Run α) (i : Nat) : Prop := run.first ≤ i ∧ i ≤ run.last

instance (run : Run α) (i : Nat) : Decidable (run.Covers i) :=
  inferInstanceAs (Decidable (_ ∧ _))

def Run.expand (run : Run α) (image : Nat → α) (i : Nat) : α :=
  if run.Covers i then run.value else image i

def expand (image : Nat → α) (runs : List (Run α)) : Nat → α :=
  runs.foldl (fun image run => run.expand image) image

theorem expand_cons (image : Nat → α) (run : Run α) (rest : List (Run α))
    : expand image (run :: rest) = expand (run.expand image) rest :=
  rfl

/-- The runs of the entries from `first` on. Those below `next` are known to be equal, and `left`
of them are still to be compared.
-/
def runs [DecidableEq α] (table : Nat → α) (first next : Nat) : Nat → List (Run α)
  | 0 => [⟨first, next - 1, table first⟩]
  | left + 1 =>
      if table first = table next then
        runs table first (next + 1) left
      else
        ⟨first, next - 1, table first⟩ :: runs table next (next + 1) left

/-- Expanding one run of equal entries copies these entries. -/
theorem Run.expand_constant {table : Nat → α} {first next : Nat} (nonempty : first < next)
    (constant : ∀ j, first ≤ j → j < next → table j = table first) (image : Nat → α) (i : Nat)
    : Run.expand ⟨first, next - 1, table first⟩ image i
      = if first ≤ i ∧ i < next then table i else image i := by
  have bound : i ≤ next - 1 ↔ i < next := by omega
  simp only [Run.expand, Run.Covers, bound]
  split
  · rename_i here
    exact (constant i here.1 here.2).symm
  · rfl

/-- Two adjacent intervals of entries make one. -/
theorem if_covered {first next last i : Nat} (nonempty : first < next) {inside outside : α}
    : (if next ≤ i ∧ i < next + (last + 1) then inside
        else if first ≤ i ∧ i < next then inside else outside)
      = if first ≤ i ∧ i < next + (last + 1) then inside else outside := by
  by_cases later : next ≤ i ∧ i < next + (last + 1)
  · rw [if_pos later, if_pos ⟨by omega, later.2⟩]
  · rw [if_neg later]
    by_cases here : first ≤ i ∧ i < next
    · rw [if_pos here, if_pos ⟨here.1, by omega⟩]
    · rw [if_neg here, if_neg]
      omega

/-- By induction on the entries left to compare; the entries known to be equal are the invariant. -/
theorem expand_runs [DecidableEq α] {table : Nat → α} (left : Nat) {first next : Nat}
    (nonempty : first < next)
    (constant : ∀ j, first ≤ j → j < next → table j = table first) (image : Nat → α) (i : Nat)
    : expand image (runs table first next left) i
      = if first ≤ i ∧ i < next + left then table i else image i := by
  induction left generalizing first next image with
  | zero =>
      simp only [runs, expand, List.foldl_cons, List.foldl_nil, Nat.add_zero]
      exact Run.expand_constant nonempty constant image i
  | succ left ih =>
      have bound : next + 1 + left = next + (left + 1) := by omega
      simp only [runs]
      split
      · rename_i same
        have longer : ∀ j, first ≤ j → j < next + 1 → table j = table first := by
          intro j low high
          rcases Nat.lt_succ_iff_lt_or_eq.mp high with before | rfl
          · exact constant j low before
          · exact same.symm
        rw [ih (Nat.lt_succ_of_lt nonempty) longer, bound]
      · have single : ∀ j, next ≤ j → j < next + 1 → table j = table next := by
          intro j low high
          rw [Nat.le_antisymm (Nat.lt_succ_iff.mp high) low]
        rw [expand_cons, ih (Nat.lt_succ_self next) single, Run.expand_constant nonempty constant,
          bound]
        exact if_covered nonempty

/-- Expanding the runs of the first `size` entries of a table gives these entries back. -/
theorem expand_runs_table [DecidableEq α] (table image : Nat → α) {i : Nat} (size : Nat)
    (inside : i < size)
    : expand image (runs table 0 1 (size - 1)) i = table i := by
  have constant : ∀ j, 0 ≤ j → j < 1 → table j = table 0 := by
    intro j _ high
    rw [Nat.lt_one_iff.mp high]
  rw [expand_runs (size - 1) Nat.one_pos constant, if_pos]
  omega

end RunLength
