import Mathlib.Algebra.Group.Int.Defs
import Mathlib.Data.Int.ModEq
import Mathlib.Logic.Function.Basic

/-! Windows of a circular store: the cells that follow one another, round the end of the store,
from a head position.
-/

namespace Window

variable {α : Type*}

/-- The `len` cells from `head` on, in a store of `size` cells. -/
def window (cell : Int → α) (size head : Int) (len : Nat) : List α :=
  (List.range len).map fun i : Nat => cell ((head + i) % size)

@[simp] theorem length_window (cell : Int → α) (size head : Int) (len : Nat)
    : (window cell size head len).length = len := by
  simp [window]

theorem window_snoc (cell : Int → α) (size head : Int) (len : Nat)
    : window cell size head (len + 1)
      = window cell size head len ++ [cell ((head + len) % size)] := by
  simp [window, List.range_succ]

theorem window_cons (cell : Int → α) (size head : Int) (len : Nat)
    : window cell size head (len + 1)
      = cell (head % size) :: window cell size (head + 1) len := by
  simp only [window, List.range_succ_eq_map, List.map_cons, List.map_map, Nat.cast_zero,
    add_zero, List.cons.injEq, true_and]
  refine List.map_congr_left ?_
  intro i _
  simp [Int.add_assoc, Int.add_comm 1]

theorem window_mod (cell : Int → α) (size head : Int) (len : Nat)
    : window cell size (head % size) len = window cell size head len := by
  simp [window]

theorem getElem?_window (cell : Int → α) (size head : Int) {len i : Nat} (inside : i < len)
    : (window cell size head len)[i]? = some (cell ((head + i) % size)) := by
  simp [window, inside]

/-- Steps from the head that differ by less than the store lead to different cells. -/
theorem position_ne {size head : Int} {i j : Nat} (before : i < j) (apart : (j : Int) - i < size)
    : (head + i) % size ≠ (head + j) % size := by
  intro same
  have divides : size ∣ (j : Int) - i := by
    have := Int.ModEq.dvd (show head + i ≡ head + j [ZMOD size] from same)
    simpa using this
  have bound := Int.le_of_dvd (by omega) divides
  omega

/-- Writing a cell outside a window leaves it alone. -/
theorem window_update_outside (cell : Int → α) (size head : Int) {len : Nat}
    {position : Int} (outside : ∀ i < len, (head + (i : Int)) % size ≠ position) (a : α)
    : window (Function.update cell position a) size head len = window cell size head len := by
  refine List.map_congr_left ?_
  intro i member
  rw [Function.update_of_ne (outside i (List.mem_range.mp member))]

/-- Writing the cell after a window that leaves room for it appends to the window. -/
theorem window_append (cell : Int → α) (size head : Int) {len : Nat} (room : (len : Int) < size)
    (a : α)
    : window (Function.update cell ((head + len) % size) a) size head (len + 1)
      = window cell size head len ++ [a] := by
  have outside : ∀ i < len, (head + (i : Int)) % size ≠ (head + len) % size :=
    fun i inside => position_ne inside (by omega)
  rw [window_snoc, window_update_outside cell size head outside, Function.update_self]

/-- Writing the cell at the head replaces the first of the window. -/
theorem window_overwrite (cell : Int → α) (size head : Int) {len : Nat}
    (room : (len : Int) < size) (a : α)
    : window (Function.update cell (head % size) a) size head (len + 1)
      = a :: window cell size (head + 1) len := by
  have outside : ∀ i < len, (head + 1 + (i : Int)) % size ≠ head % size := by
    intro i inside same
    have apart : (head + ((0 : Nat) : Int)) % size ≠ (head + ((i + 1 : Nat) : Int)) % size :=
      position_ne (by omega) (by omega)
    simp only [Nat.cast_zero, add_zero, Nat.cast_add, Nat.cast_one] at apart
    rw [← same] at apart
    exact apart (by rw [Int.add_assoc, Int.add_comm 1])
  rw [window_cons, window_update_outside cell size (head + 1) outside, Function.update_self]

end Window
