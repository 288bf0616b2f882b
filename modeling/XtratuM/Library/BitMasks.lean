import Mathlib.Data.BitVec

/-! Words of 32 bits and the masks of single bits. -/

namespace BitMasks

/-- The mask of bit `j`. -/
def IsBit (mask : BitVec 32) (j : Nat) : Prop := mask = BitVec.twoPow 32 j ∧ j < 32

theorem IsBit.getLsbD {mask : BitVec 32} {j : Nat} (bit : IsBit mask j) (i : Nat)
    : mask.getLsbD i = decide (i = j) := by
  obtain ⟨rfl, inside⟩ := bit
  simp [BitVec.getLsbD_twoPow, inside, eq_comm]

theorem IsBit.and_ne_zero {mask : BitVec 32} {j : Nat} (bit : IsBit mask j) (word : BitVec 32)
    : word &&& mask ≠ 0 ↔ word.getLsbD j = true := by
  constructor
  · intro nonzero
    by_contra clear
    apply nonzero
    apply BitVec.eq_of_getLsbD_eq
    intro i _
    rw [BitVec.getLsbD_and, bit.getLsbD]
    by_cases here : i = j
    · subst here
      simp [clear]
    · simp [here]
  · intro set zero
    have both := congrArg (BitVec.getLsbD · j) zero
    simp [BitVec.getLsbD_and, bit.getLsbD, set] at both

theorem IsBit.and_eq {mask : BitVec 32} {j : Nat} (bit : IsBit mask j) (word other : BitVec 32)
    : word &&& mask = other &&& mask ↔ word.getLsbD j = other.getLsbD j := by
  constructor
  · intro same
    have both := congrArg (BitVec.getLsbD · j) same
    simpa [BitVec.getLsbD_and, bit.getLsbD] using both
  · intro same
    apply BitVec.eq_of_getLsbD_eq
    intro i _
    rw [BitVec.getLsbD_and, BitVec.getLsbD_and, bit.getLsbD]
    by_cases here : i = j
    · subst here
      rw [same]
    · simp [here]

/-- Clearing the bit. -/
theorem IsBit.getLsbD_clear {mask : BitVec 32} {j : Nat} (bit : IsBit mask j) (word : BitVec 32)
    {i : Nat} (inside : i < 32)
    : (word &&& ~~~mask).getLsbD i = (word.getLsbD i && !decide (i = j)) := by
  rw [BitVec.getLsbD_and, BitVec.getLsbD_not, bit.getLsbD]
  simp [inside]

theorem getLsbD_ite (c : Prop) [Decidable c] (word other : BitVec 32) (i : Nat)
    : (if c then word else other).getLsbD i = if c then word.getLsbD i else other.getLsbD i :=
  apply_ite (BitVec.getLsbD · i) c word other

end BitMasks
