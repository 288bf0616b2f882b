import Mathlib.Data.BitVec

/-! Memories of bytes, read and written by little-endian words of 32 bits at any address. -/

namespace WordMemory

/-- A memory by its bytes. -/
abbrev Memory := BitVec 32 → BitVec 8

def word (byte : Memory) (addr : BitVec 32) : BitVec 32 :=
  byte (addr + 3) ++ byte (addr + 2) ++ byte (addr + 1) ++ byte addr

def setWord (byte : Memory) (addr value : BitVec 32) : Memory := fun a =>
  if a = addr then value.extractLsb' 0 8
  else if a = addr + 1 then value.extractLsb' 8 8
  else if a = addr + 2 then value.extractLsb' 16 8
  else if a = addr + 3 then value.extractLsb' 24 8
  else byte a

/-- A word that was just written. -/
theorem word_setWord (byte : Memory) (addr value : BitVec 32)
    : word (setWord byte addr value) addr = value := by
  have ne0 : ∀ i : BitVec 32, i ≠ 0 → addr + i ≠ addr := by
    intro i positive
    simpa using positive
  have apart : ∀ i j : BitVec 32, i ≠ j → addr + i ≠ addr + j := by
    intro i j different
    simpa using different
  have low : setWord byte addr value addr = value.extractLsb' 0 8 := if_pos rfl
  have second : setWord byte addr value (addr + 1) = value.extractLsb' 8 8 := by
    simp only [setWord, ne0 1 (by decide), ↓reduceIte]
  have third : setWord byte addr value (addr + 2) = value.extractLsb' 16 8 := by
    simp only [setWord, ne0 2 (by decide), apart 2 1 (by decide), ↓reduceIte]
  have high : setWord byte addr value (addr + 3) = value.extractLsb' 24 8 := by
    simp only [setWord, ne0 3 (by decide), apart 3 1 (by decide), apart 3 2 (by decide),
      ↓reduceIte]
  unfold word
  rw [low, second, third, high]
  ext i inside
  simp only [BitVec.getElem_append, BitVec.getElem_extractLsb']
  grind

/-- A byte outside the word written. -/
theorem setWord_outside (byte : Memory) (value : BitVec 32) {addr a : BitVec 32}
    (outside : 4 ≤ (a - addr).toNat)
    : setWord byte addr value a = byte a := by
  have apart : ∀ i : BitVec 32, i.toNat < 4 → a ≠ addr + i := by
    rintro i small rfl
    rw [add_sub_cancel_left] at outside
    omega
  have start : a ≠ addr := by simpa using apart 0 (by decide)
  simp only [setWord, start, apart 1 (by decide), apart 2 (by decide), apart 3 (by decide),
    ↓reduceIte]

/-- A word that shares no byte with the word written. -/
theorem word_setWord_other {byte : Memory} {addr value a : BitVec 32}
    (behind : 4 ≤ (a - addr).toNat) (before : 4 ≤ (addr - a).toNat)
    : word (setWord byte addr value) a = word byte a := by
  have outside : ∀ i : BitVec 32, i.toNat < 4 → 4 ≤ (a + i - addr).toNat := by
    intro i small
    rw [BitVec.toNat_sub] at behind before ⊢
    rw [BitVec.toNat_add]
    omega
  unfold word
  have start := setWord_outside byte value (outside 0 (by decide))
  rw [add_zero] at start
  rw [setWord_outside byte value (outside 3 (by decide)),
    setWord_outside byte value (outside 2 (by decide)),
    setWord_outside byte value (outside 1 (by decide)), start]

end WordMemory
