import Mathlib.Data.BitVec
import Mathlib.Tactic.Ring

/-! Copies of a range of cells in a memory whose addresses wrap, made in one step or in several. -/

namespace RangeCopies

variable {w : Nat} {β : Type*}

/-- The memory after the `n` cells from `s` on have been copied to those from `d` on. -/
def copied (memory : BitVec w → β) (d s : BitVec w) (n : Nat) : BitVec w → β := fun a =>
  if (a - d).toNat < n then memory (s + (a - d)) else memory a

/-- None of the cells from `s` on is one of those from `d` on. -/
def Apart (d s : BitVec w) (n : Nat) : Prop :=
  ∀ j < n, n ≤ (s + BitVec.ofNat w j - d).toNat

@[simp] theorem copied_zero (memory : BitVec w → β) (d s : BitVec w)
    : copied memory d s 0 = memory := by
  funext a
  simp [copied]

/-- How far an address is behind a place further on. -/
theorem toNat_sub_add {a d : BitVec w} {n : Nat} (fits : n ≤ 2 ^ w)
    : (a - (d + BitVec.ofNat w n)).toNat
      = if n ≤ (a - d).toNat then (a - d).toNat - n else (a - d).toNat + (2 ^ w - n) := by
  have bound := (a - d).isLt
  have split : a - (d + BitVec.ofNat w n) = a - d - BitVec.ofNat w n := by ring
  rw [split, BitVec.toNat_sub, BitVec.toNat_ofNat]
  rcases fits.lt_or_eq with below | rfl
  · rw [Nat.mod_eq_of_lt below]
    split
    · have wrapped : 2 ^ w - n + (a - d).toNat = (a - d).toNat - n + 2 ^ w := by omega
      rw [wrapped, Nat.add_mod_right, Nat.mod_eq_of_lt (by omega)]
    · rw [Nat.mod_eq_of_lt (by omega)]
      omega
  · rw [Nat.mod_self, if_neg (by omega), Nat.sub_zero, Nat.add_comm, Nat.add_mod_right,
      Nat.mod_eq_of_lt bound]
    omega

theorem Apart.mono {d s : BitVec w} {n n' : Nat} (apart : Apart d s n) (fewer : n' ≤ n)
    : Apart d s n' :=
  fun j below => fewer.trans (apart j (below.trans_le fewer))

/-- A range may be copied in two parts, the second with the memory that the first has left. -/
theorem copied_append {memory : BitVec w → β} {d s : BitVec w} {n n' : Nat}
    (fits : n + n' ≤ 2 ^ w) (apart : Apart d s (n + n'))
    : copied (copied memory d s n) (d + BitVec.ofNat w n) (s + BitVec.ofNat w n) n'
      = copied memory d s (n + n') := by
  funext a
  have distance := toNat_sub_add (a := a) (d := d) (n := n) (by omega)
  have source : s + BitVec.ofNat w n + (a - (d + BitVec.ofNat w n)) = s + (a - d) := by
    ring
  unfold copied
  rw [distance, source]
  by_cases first : (a - d).toNat < n
  · have second : ¬ (a - d).toNat + (2 ^ w - n) < n' := by omega
    rw [if_neg (Nat.not_le.mpr first), if_neg second, if_pos first, if_pos (by omega)]
  · rw [if_pos (Nat.not_lt.mp first), if_neg first]
    by_cases second : (a - d).toNat - n < n'
    · have inside : (a - d).toNat < n + n' := by omega
      have untouched := apart (a - d).toNat inside
      rw [BitVec.ofNat_toNat, BitVec.setWidth_eq] at untouched
      rw [if_pos second, if_pos inside, if_neg (by omega)]
    · rw [if_neg second, if_neg (by omega)]

/-- Ranges of the address space that do not wrap and do not overlap. -/
theorem apart_of_disjoint {d s : BitVec w} {n : Nat} (dFits : d.toNat + n ≤ 2 ^ w)
    (sFits : s.toNat + n ≤ 2 ^ w)
    (disjoint : d.toNat + n ≤ s.toNat ∨ s.toNat + n ≤ d.toNat)
    : Apart d s n := by
  intro j below
  have bound := d.isLt
  have address : (s + BitVec.ofNat w j).toNat = s.toNat + j := by
    rw [BitVec.toNat_add, BitVec.toNat_ofNat, Nat.add_mod_mod, Nat.mod_eq_of_lt (by omega)]
  rw [BitVec.toNat_sub, address]
  rcases disjoint with after | before
  · have wrapped : 2 ^ w - d.toNat + (s.toNat + j) = s.toNat + j - d.toNat + 2 ^ w := by omega
    rw [wrapped, Nat.add_mod_right, Nat.mod_eq_of_lt (by omega)]
    omega
  · rw [Nat.mod_eq_of_lt (by omega)]
    omega

theorem copied_inside {memory : BitVec w → β} {d s : BitVec w} {n i : Nat} (fits : n ≤ 2 ^ w)
    (inside : i < n)
    : copied memory d s n (d + BitVec.ofNat w i) = memory (s + BitVec.ofNat w i) := by
  have offset : d + BitVec.ofNat w i - d = BitVec.ofNat w i := by ring
  have index : (BitVec.ofNat w i).toNat = i := by
    rw [BitVec.toNat_ofNat, Nat.mod_eq_of_lt (by omega)]
  rw [copied, offset, index, if_pos inside]

theorem copied_source {memory : BitVec w → β} {d s : BitVec w} {n i : Nat} (apart : Apart d s n)
    (inside : i < n)
    : copied memory d s n (s + BitVec.ofNat w i) = memory (s + BitVec.ofNat w i) :=
  if_neg (Nat.not_lt.mpr (apart i inside))

theorem copied_outside {memory : BitVec w → β} {d s : BitVec w} {n : Nat} {a : BitVec w}
    (outside : ∀ i < n, a ≠ d + BitVec.ofNat w i)
    : copied memory d s n a = memory a := by
  refine if_neg ?_
  intro inside
  refine outside _ inside ?_
  rw [BitVec.ofNat_toNat, BitVec.setWidth_eq]
  ring

end RangeCopies
