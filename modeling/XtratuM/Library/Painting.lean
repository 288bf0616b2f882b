import Mathlib.Logic.Basic

/-! Painting part of a picture: some points take one value, and the others keep theirs. -/

namespace Painting

variable {ι α : Type*}

structure Painted (value : α) (points : ι → Prop) (before after : ι → α) : Prop where
  inside : ∀ i, points i → after i = value
  outside : ∀ i, ¬ points i → after i = before i

theorem Painted.nothing {value : α} {points : ι → Prop} (none : ∀ i, ¬ points i) (picture : ι → α)
    : Painted value points picture picture where
  inside i here := absurd here (none i)
  outside _ _ := rfl

/-- Painting more points with the same value. -/
theorem Painted.trans {value : α} {first second : ι → Prop} {f g h : ι → α}
    (left : Painted value first f g) (right : Painted value second g h)
    : Painted value (fun i => first i ∨ second i) f h where
  inside i here := by
    by_cases again : second i
    · exact right.inside i again
    · rw [right.outside i again]
      exact left.inside i (here.resolve_right again)
  outside i outside := by
    rw [not_or] at outside
    rw [right.outside i outside.2, left.outside i outside.1]

theorem Painted.congr {value : α} {points other : ι → Prop} {before after : ι → α}
    (painted : Painted value points before after) (same : ∀ i, points i ↔ other i)
    : Painted value other before after where
  inside i here := painted.inside i ((same i).mpr here)
  outside i outside := painted.outside i fun here => outside ((same i).mp here)

/-- A point that had the value has it still. -/
theorem Painted.keeps {value : α} {points : ι → Prop} {before after : ι → α}
    (painted : Painted value points before after) {i : ι} (already : before i = value)
    : after i = value := by
  by_cases here : points i
  · exact painted.inside i here
  · rw [painted.outside i here]
    exact already

/-- Only painted points change. -/
theorem Painted.changed {value : α} {points : ι → Prop} {before after : ι → α}
    (painted : Painted value points before after) {i : ι} (differs : after i ≠ before i)
    : points i := by
  by_cases here : points i
  · exact here
  · exact absurd (painted.outside i here) differs

end Painting
