import Mathlib.Algebra.Order.Ring.Int
import Mathlib.Tactic.Ring

/-! Quotients truncated towards zero, taken of a product by way of the quotient and the remainder
of its first factor, and how far the values on that way lie from zero.
-/

namespace TruncatedQuotients

/-- `a` lies between zero and `b`. -/
def Between (a b : Int) : Prop :=
  0 ≤ a ∧ a ≤ b ∨ b ≤ a ∧ a ≤ 0

theorem Between.neg {a b : Int} (between : Between a b) : Between (-a) (-b) := by
  unfold Between at between ⊢
  omega

/-- What holds of the numerators from zero on, and of their negatives, holds of all. -/
theorem of_nonneg {P : Int → Prop} (nonneg : ∀ a, 0 ≤ a → P a) (neg : ∀ a, P a → P (-a)) (a : Int)
    : P a := by
  rcases Int.le_total 0 a with here | below
  · exact nonneg a here
  · have mirrored := neg (-a) (nonneg (-a) (by omega))
    rwa [Int.neg_neg] at mirrored

section Positive

variable {n : Int} (positive : 0 < n)

include positive

theorem tdiv_between (a : Int) : Between (a.tdiv n) a := by
  refine of_nonneg (P := fun a => Between (a.tdiv n) a) ?_ ?_ a
  · intro a nonneg
    exact Or.inl ⟨Int.tdiv_nonneg nonneg positive.le, Int.tdiv_le_self n nonneg⟩
  · intro a between
    rw [Int.neg_tdiv]
    exact between.neg

theorem tdiv_mul_le {a : Int} (nonneg : 0 ≤ a) : a.tdiv n * n ≤ a := by
  rw [Int.tdiv_eq_ediv_of_nonneg nonneg]
  exact Int.ediv_mul_le a positive.ne'

theorem tdiv_mul_between (a : Int) : Between (a.tdiv n * n) a := by
  refine of_nonneg (P := fun a => Between (a.tdiv n * n) a) ?_ ?_ a
  · intro a nonneg
    have quotient := Int.tdiv_nonneg nonneg positive.le
    exact Or.inl ⟨Int.mul_nonneg quotient positive.le, tdiv_mul_le positive nonneg⟩
  · intro a between
    rw [Int.neg_tdiv, Int.neg_mul]
    exact between.neg

/-- The remainder is less than the divisor, either way of zero. -/
theorem remainder_lt (a : Int) : -n < a - a.tdiv n * n ∧ a - a.tdiv n * n < n := by
  refine of_nonneg (P := fun a => -n < a - a.tdiv n * n ∧ a - a.tdiv n * n < n) ?_ ?_ a
  · intro a nonneg
    rw [Int.tdiv_eq_ediv_of_nonneg nonneg]
    have low := Int.emod_nonneg a positive.ne'
    have high := Int.emod_lt_of_pos a positive
    have parts := Int.emod_add_ediv_mul a n
    omega
  · intro a between
    rw [Int.neg_tdiv, Int.neg_mul]
    omega

/-- Scaling up and rounding down, there and back. -/
theorem ediv_mul_ediv_le {c : Int} (scale : 0 < c) (a : Int) : a * c / n * n / c ≤ a := by
  have below : a * c / n * n ≤ a * c := Int.ediv_mul_le (a * c) positive.ne'
  calc
    a * c / n * n / c ≤ a * c / c := Int.ediv_le_ediv scale below
    _ = a := Int.mul_ediv_cancel a scale.ne'

variable {c : Int} (nonneg : 0 ≤ c)

include nonneg

/-- The quotient of a product, by way of the quotient and the remainder of a factor. -/
theorem tdiv_mul_split (a : Int)
    : a.tdiv n * c + ((a - a.tdiv n * n) * c).tdiv n = (a * c).tdiv n := by
  refine of_nonneg
    (P := fun a => a.tdiv n * c + ((a - a.tdiv n * n) * c).tdiv n = (a * c).tdiv n) ?_ ?_ a
  · intro a here
    have below := tdiv_mul_le positive here
    have remainder : 0 ≤ a - a.tdiv n * n := by omega
    have split : a * c = (a - a.tdiv n * n) * c + a.tdiv n * c * n := by ring
    have parts := Int.add_mul_ediv_right ((a - a.tdiv n * n) * c) (a.tdiv n * c) positive.ne'
    rw [Int.tdiv_eq_ediv_of_nonneg (Int.mul_nonneg remainder nonneg),
      Int.tdiv_eq_ediv_of_nonneg (Int.mul_nonneg here nonneg), split, parts, Int.add_comm]
  · intro a same
    have mirrored : (-a - -(a.tdiv n) * n) * c = -((a - a.tdiv n * n) * c) := by ring
    rw [Int.neg_tdiv, mirrored, Int.neg_tdiv, Int.neg_mul, Int.neg_mul, Int.neg_tdiv, ← same]
    ring

theorem quotient_mul_between (a : Int) : Between (a.tdiv n * c) ((a * c).tdiv n) := by
  refine of_nonneg (P := fun a => Between (a.tdiv n * c) ((a * c).tdiv n)) ?_ ?_ a
  · intro a here
    have split := tdiv_mul_split positive nonneg a
    have quotient := Int.mul_nonneg (Int.tdiv_nonneg here positive.le) nonneg
    have below := tdiv_mul_le positive here
    have rest : 0 ≤ ((a - a.tdiv n * n) * c).tdiv n :=
      Int.tdiv_nonneg (Int.mul_nonneg (by omega) nonneg) positive.le
    exact Or.inl ⟨quotient, by omega⟩
  · intro a between
    rw [Int.neg_tdiv, Int.neg_mul, Int.neg_mul, Int.neg_tdiv]
    exact between.neg

theorem tdiv_mul_mono {a b : Int} (ordered : a ≤ b) : (a * c).tdiv n ≤ (b * c).tdiv n :=
  Int.tdiv_le_tdiv positive (Int.mul_le_mul_of_nonneg_right ordered nonneg)

end Positive

end TruncatedQuotients
