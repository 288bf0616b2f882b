import Mathlib.Data.List.Basic

/-! A log of bounded capacity that drops its oldest entry to make room, with a read cursor that
stays on the entry it points at, and a lock that makes it refuse instead of dropping.
-/

namespace BoundedLog

variable {α : Type*}

/-- The entries are listed oldest first; `cursor` is the number of them already read. -/
structure Log (α : Type*) where
  kept : List α
  cursor : Nat
  locked : Bool

def Log.empty : Log α where
  kept := []
  cursor := 0
  locked := false

/-- Adds an entry, at the cost of the oldest one when the log is full. -/
def Log.push (capacity : Nat) (a : α) (log : Log α) : Log α :=
  if log.kept.length < capacity then
    { log with kept := log.kept ++ [a] }
  else
    { log with kept := log.kept.tail ++ [a], cursor := log.cursor - 1 }

/-- An entry is added, or the cursor and the lock are set. -/
inductive Step (capacity : Nat) : Log α → Option α → Log α → Prop
  | push {log : Log α} {a : α} : Step capacity log (some a) (log.push capacity a)
  | move {log : Log α} {cursor : Nat} {locked : Bool} (inside : cursor ≤ log.kept.length)
    : Step capacity log none { log with cursor, locked }

/-- The entries added in a history, oldest first. -/
def added (past : List (Option α)) : List α :=
  (past.filterMap id).reverse

/-- What a log holds after a history: as many of the entries added last as it has room for. -/
structure Newest (capacity : Nat) (past : List (Option α)) (log : Log α) : Prop where
  kept : log.kept <:+ added past
  cursor : log.cursor ≤ log.kept.length
  length : log.kept.length = min capacity (added past).length

theorem Newest.push {capacity : Nat} {past : List (Option α)} {log : Log α}
    (newest : Newest capacity past log) (positive : 0 < capacity) (a : α)
    : Newest capacity (some a :: past) (log.push capacity a) := by
  have cursor := newest.cursor
  have length := newest.length
  have grows : added (some a :: past) = added past ++ [a] := by simp [added]
  unfold Log.push
  split
  · next room =>
      refine { kept := ?_, cursor := ?_, length := ?_ }
      · rw [grows]
        exact List.suffix_append_inj_of_length_eq rfl |>.mpr ⟨newest.kept, rfl⟩
      · simp only [List.length_append, List.length_singleton]
        omega
      · simp only [grows, List.length_append, List.length_singleton]
        omega
  · next full =>
      refine { kept := ?_, cursor := ?_, length := ?_ }
      · rw [grows]
        exact List.suffix_append_inj_of_length_eq rfl |>.mpr
          ⟨(List.tail_suffix _).trans newest.kept, rfl⟩
      · simp only [List.length_append, List.length_singleton, List.length_tail]
        omega
      · simp only [grows, List.length_append, List.length_singleton, List.length_tail]
        omega

theorem Newest.empty (capacity : Nat) : Newest capacity [] (.empty : Log α) where
  kept := List.nil_suffix
  cursor := Nat.le_refl 0
  length := (Nat.min_zero capacity).symm

/-- However entries are added and the cursor moves, a log holds the newest entries in the order
they were added.
-/
theorem Newest.step {capacity : Nat} {past : List (Option α)} {log log' : Log α}
    {label : Option α} (newest : Newest capacity past log) (positive : 0 < capacity)
    (taken : Step capacity log label log')
    : Newest capacity (label :: past) log' := by
  cases taken with
  | push => exact newest.push positive _
  | move inside =>
      exact
        { kept := newest.kept
          cursor := inside
          length := newest.length }

end BoundedLog
