import Mathlib.Data.List.Sort

/-! Positions in sorted lists: an element stands where as many others have a smaller key. -/

namespace Ranks

variable {α : Type*}

/-- How many elements have a smaller key. -/
def rank (key : α → Nat) (elements : List α) (a : α) : Nat :=
  elements.countP fun b => key b < key a

theorem rank_perm {key : α → Nat} {elements others : List α} (perm : elements.Perm others) (a : α)
    : rank key elements a = rank key others a :=
  perm.countP_eq _

/-- In a list sorted by distinct keys, the position of an element is its rank. -/
theorem getElem?_eq_some_iff {key : α → Nat} {elements : List α}
    (sorted : elements.Pairwise fun a b => key a < key b) {k : Nat} {a : α}
    : elements[k]? = some a ↔ a ∈ elements ∧ rank key elements a = k := by
  induction elements generalizing k with
  | nil => simp
  | cons b rest ih =>
      obtain ⟨least, sorted⟩ := List.pairwise_cons.mp sorted
      have first : rank key (b :: rest) b = 0 := by
        simp only [rank, List.countP_eq_zero, decide_eq_true_eq, List.mem_cons]
        intro c member
        rcases member with rfl | member
        · exact Nat.lt_irrefl _
        · exact Nat.not_lt.mpr (least c member).le
      have later : ∀ c ∈ rest, rank key (b :: rest) c = rank key rest c + 1 := by
        intro c member
        exact List.countP_cons_of_pos (by simpa using least c member)
      cases k with
      | zero =>
          rw [List.getElem?_cons_zero, Option.some.injEq]
          constructor
          · intro same
            rw [← same]
            exact ⟨List.mem_cons_self, first⟩
          · intro ⟨member, zero⟩
            rcases List.mem_cons.mp member with same | member
            · exact same.symm
            · rw [later a member] at zero
              cases zero
      | succ k =>
          rw [List.getElem?_cons_succ, ih sorted]
          constructor
          · intro ⟨member, position⟩
            exact ⟨List.mem_cons_of_mem b member, by rw [later a member, position]⟩
          · intro ⟨member, position⟩
            rcases List.mem_cons.mp member with rfl | member
            · rw [first] at position
              cases position
            · rw [later a member] at position
              exact ⟨member, Nat.succ.inj position⟩

/-- The first key that is not below the next one. -/
def firstUnsorted : List Nat → Option Nat
  | a :: b :: rest => if b ≤ a then some a else firstUnsorted (b :: rest)
  | _ => none

theorem firstUnsorted_eq_none {keys : List Nat} (sorted : firstUnsorted keys = none)
    : keys.Pairwise (· < ·) := by
  apply List.IsChain.pairwise
  induction keys with
  | nil => exact .nil
  | cons a rest ih =>
      cases rest with
      | nil => exact .singleton a
      | cons b rest =>
          unfold firstUnsorted at sorted
          split at sorted
          · cases sorted
          · next ascending => exact .cons_cons (by omega) (ih sorted)

end Ranks
