/-! Computations on a budget. A function that recurses at most as deep as a budget allows
fails with one error when it runs out of it; a larger budget changes no other result.
-/

namespace Budget

variable {ε α β : Type} {exhausted : ε}

/-- `large` is what `small` would have been on a larger budget. -/
def Extends (exhausted : ε) (small large : Except ε α) : Prop :=
  small = .error exhausted ∨ small = large

theorem Extends.refl (result : Except ε α) : Extends exhausted result result :=
  Or.inr rfl

theorem Extends.trans {first second third : Except ε α} (left : Extends exhausted first second)
    (right : Extends exhausted second third)
    : Extends exhausted first third := by
  rcases left with left | rfl
  · exact Or.inl left
  · exact right

theorem Extends.bind {small large : Except ε α} {next next' : α → Except ε β}
    (here : Extends exhausted small large)
    (after : ∀ a, Extends exhausted (next a) (next' a))
    : Extends exhausted (small >>= next) (large >>= next') := by
  rcases here with rfl | rfl
  · exact Or.inl rfl
  · cases small with
    | error stop => exact Or.inr rfl
    | ok a => exact after a

/-- A result within the budget is the result on the larger one. -/
theorem Extends.eq {small large : Except ε α} (extended : Extends exhausted small large)
    (within : small ≠ .error exhausted)
    : large = small :=
  (extended.resolve_left within).symm

/-- A family that each increment of the budget extends is extended by every larger budget. -/
theorem extends_of_le (run : Nat → Except ε α)
    (step : ∀ n, Extends exhausted (run n) (run (n + 1))) {n m : Nat} (le : n ≤ m)
    : Extends exhausted (run n) (run m) := by
  induction le with
  | refl => exact .refl _
  | step _ ih => exact ih.trans (step _)

/-- Two results of such a family that are both within their budgets are the same. -/
theorem agree (run : Nat → Except ε α)
    (step : ∀ n, Extends exhausted (run n) (run (n + 1))) {n m : Nat}
    (within : run n ≠ .error exhausted) (within' : run m ≠ .error exhausted)
    : run n = run m := by
  have left := (extends_of_le run step (Nat.le_max_left n m)).eq within
  have right := (extends_of_le run step (Nat.le_max_right n m)).eq within'
  exact left.symm.trans right

end Budget
