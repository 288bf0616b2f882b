import Mathlib.Data.List.Basic
import Mathlib.Data.List.Forall2

/-! Tables laid out in one list, and tables related entry by entry. -/

namespace Tables

variable {α : Type*}

/-- Entry `i` of rows of one length that follow one another. -/
theorem getElem?_flatten {rows : List (List α)} {size : Nat} (positive : 0 < size)
    (uniform : ∀ row ∈ rows, row.length = size) (i : Nat)
    : rows.flatten[i]? = (rows[i / size]?).bind fun row => row[i % size]? := by
  induction rows generalizing i with
  | nil => simp
  | cons row rows ih =>
      have length := uniform row List.mem_cons_self
      have rest := ih (fun row member => uniform row (List.mem_cons_of_mem _ member)) (i - size)
      rw [List.flatten_cons]
      by_cases inside : i < size
      · rw [List.getElem?_append_left (by omega), Nat.div_eq_of_lt inside,
          Nat.mod_eq_of_lt inside]
        rfl
      · have quotient : i / size = (i - size) / size + 1 :=
          Nat.div_eq_sub_div positive (by omega)
        have remainder : i % size = (i - size) % size := Nat.mod_eq_sub_mod (by omega)
        rw [List.getElem?_append_right (by omega), length, rest, quotient, remainder]
        rfl

/-- Every entry of the first of two related tables has a partner in the other. -/
theorem exists_related {β : Type*} {related : α → β → Prop} {entries : List α} {others : List β}
    (tables : List.Forall₂ related entries others) {entry : α} (member : entry ∈ entries)
    : ∃ other ∈ others, related entry other := by
  induction tables with
  | nil => cases member
  | @cons first second entries others here _ ih =>
      rcases List.mem_cons.mp member with rfl | later
      · exact ⟨second, List.mem_cons_self, here⟩
      · obtain ⟨other, listed, there⟩ := ih later
        exact ⟨other, List.mem_cons_of_mem _ listed, there⟩

end Tables
