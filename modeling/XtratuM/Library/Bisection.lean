import Mathlib.Data.List.Basic
import Mathlib.Data.List.Pairwise

/-! Halving a list to look for an element: which elements are looked at, and which of them the
search cannot miss.
-/

namespace Bisection

variable {α : Type*} (beyond : α → Bool)

/-- The elements that halving comes by when it accepts none: it goes on before an element that is
`beyond` what it looks for, and after one that is not. Only the latter are listed.
-/
def visited (elements : List α) : List α :=
  match elements with
  | [] => []
  | first :: rest =>
      let middle := rest.length / 2
      let a := (first :: rest).get ⟨middle, by simp only [List.length_cons, middle]; omega⟩
      if beyond a then
        visited ((first :: rest).take middle)
      else
        a :: visited ((first :: rest).drop (middle + 1))
termination_by elements.length
decreasing_by
  · simp only [List.length_take, List.length_cons]
    omega
  · simp only [List.length_drop, List.length_cons]
    omega

@[simp] theorem visited_nil : visited beyond [] = [] := by
  rw [visited]

variable {beyond}

/-- One halving, of a list around its middle element. -/
theorem visited_middle {before after : List α} {a : α}
    (middle : before.length = (before.length + after.length) / 2)
    : visited beyond (before ++ a :: after)
      = if beyond a then visited beyond before else a :: visited beyond after := by
  cases before with
  | nil =>
      have half : after.length / 2 = 0 := by
        rw [List.length_nil, Nat.zero_add] at middle
        exact middle.symm
      rw [List.nil_append, visited.eq_2]
      simp only [half, List.get_eq_getElem, List.getElem_cons_zero, List.take_zero, Nat.zero_add,
        List.drop_succ_cons, List.drop_zero]
  | cons first rest =>
      have half : (rest.length + (after.length + 1)) / 2 = rest.length + 1 := by
        rw [List.length_cons] at middle
        omega
      rw [List.cons_append, visited]
      simp [half]

/-- Every list of elements has a middle one. -/
theorem exists_middle {elements : List α} (nonempty : elements ≠ [])
    : ∃ before a after, elements = before ++ a :: after
      ∧ before.length = (before.length + after.length) / 2 := by
  have positive : 0 < elements.length := List.length_pos_iff.mpr nonempty
  have below : (elements.length - 1) / 2 < elements.length := by omega
  refine ⟨elements.take ((elements.length - 1) / 2), elements[(elements.length - 1) / 2],
    elements.drop ((elements.length - 1) / 2 + 1), ?_, ?_⟩
  · rw [List.getElem_cons_drop, List.take_append_drop]
  · rw [List.length_take, List.length_drop]
    omega

/-- Induction on halvings. -/
theorem halving_induction {P : List α → Prop} (nil : P [])
    (halve : ∀ before a after, before.length = (before.length + after.length) / 2 →
      P before → P after → P (before ++ a :: after))
    (elements : List α)
    : P elements := by
  induction size : elements.length using Nat.strongRecOn generalizing elements with
  | ind n ih =>
      by_cases empty : elements = []
      · rw [empty]
        exact nil
      · obtain ⟨before, a, after, rfl, middle⟩ := exists_middle empty
        rw [List.length_append, List.length_cons] at size
        refine halve before a after middle ?_ ?_
        · exact ih before.length (by omega) before rfl
        · exact ih after.length (by omega) after rfl

theorem visited_sublist (elements : List α) : (visited beyond elements).Sublist elements := by
  induction elements using halving_induction with
  | nil => simp
  | halve before a after middle first second =>
      rw [visited_middle middle]
      split
      · exact first.trans (List.sublist_append_left before _)
      · exact (second.cons_cons a).trans (List.sublist_append_right before _)

theorem not_beyond_of_visited {elements : List α} {a : α} (member : a ∈ visited beyond elements)
    : beyond a = false := by
  induction elements using halving_induction with
  | nil => simp at member
  | halve before middle after half first second =>
      rw [visited_middle half] at member
      split at member
      · exact first member
      · next here =>
          rcases List.mem_cons.mp member with rfl | later
          · simpa using here
          · exact second later

/-- Where everything after an element that is beyond is beyond too, the last element that is not
is visited.
-/
theorem last_visited {elements before after : List α} {a : α}
    (ascending : elements.Pairwise fun b c => beyond b = true → beyond c = true)
    (split : elements = before ++ a :: after) (here : beyond a = false)
    (last : ∀ b ∈ after, beyond b = true)
    : a ∈ visited beyond elements := by
  induction elements using halving_induction generalizing before after with
  | nil => simp at split
  | halve left middle right half first second =>
      obtain ⟨ascendingLeft, ascendingRight, across⟩ := List.pairwise_append.mp ascending
      obtain ⟨fromMiddle, ascendingRight⟩ := List.pairwise_cons.mp ascendingRight
      rw [visited_middle half]
      rcases List.append_eq_append_iff.mp split with
        ⟨between, same, rest⟩ | ⟨between, same, rest⟩
      · cases between with
        | nil =>
            -- The element is the middle one.
            obtain ⟨rfl, rfl⟩ := List.cons.inj rest
            simp [here]
        | cons b between =>
            obtain ⟨rfl, rfl⟩ := List.cons.inj rest
            have passed : beyond middle = false := by
              cases beyondMiddle : beyond middle with
              | false => rfl
              | true =>
                  have beyondToo := fromMiddle a (by simp) beyondMiddle
                  rw [here] at beyondToo
                  cases beyondToo
            rw [passed]
            exact List.mem_cons_of_mem _ (second ascendingRight rfl last)
      · cases between with
        | nil =>
            obtain ⟨rfl, rfl⟩ := List.cons.inj rest
            simp [here]
        | cons b between =>
            obtain ⟨rfl, rfl⟩ := List.cons.inj rest
            have beyondMiddle : beyond middle = true := last middle (by simp)
            rw [beyondMiddle]
            exact first ascendingLeft same fun c member => last c (by simp [member])

/-- A list with elements that are not beyond has a last one. -/
theorem exists_last (beyond : α → Bool) {elements : List α} {a : α} (member : a ∈ elements)
    (here : beyond a = false)
    : ∃ before b after, elements = before ++ b :: after ∧ beyond b = false
      ∧ ∀ c ∈ after, beyond c = true := by
  induction elements generalizing a with
  | nil => cases member
  | cons first rest ih =>
      by_cases later : ∃ b ∈ rest, beyond b = false
      · obtain ⟨b, inRest, notBeyond⟩ := later
        obtain ⟨before, c, after, split, last⟩ := ih inRest notBeyond
        exact ⟨first :: before, c, after, by rw [split]; rfl, last⟩
      · have all : ∀ c ∈ rest, beyond c = true := by simpa using later
        rcases List.mem_cons.mp member with rfl | inRest
        · exact ⟨[], a, rest, rfl, here, all⟩
        · rw [all a inRest] at here
          cases here

/-- Where every element that reaches is followed only by elements beyond, the first one visited
that reaches is the first of all that reaches and is not beyond.
-/
theorem find?_visited {reaches : α → Bool} {elements : List α}
    (ascending : elements.Pairwise fun b c => beyond b = true → beyond c = true)
    (apart : elements.Pairwise fun b c => reaches b = true → beyond c = true)
    : (visited beyond elements).find? reaches
      = elements.find? fun a => !beyond a && reaches a := by
  induction elements using halving_induction with
  | nil => simp
  | halve before a after middle first second =>
      obtain ⟨ascendingBefore, ascendingAfter, _⟩ := List.pairwise_append.mp ascending
      obtain ⟨fromMiddle, ascendingAfter⟩ := List.pairwise_cons.mp ascendingAfter
      obtain ⟨apartBefore, apartAfter, across⟩ := List.pairwise_append.mp apart
      rw [visited_middle middle, List.find?_append, List.find?_cons]
      cases here : beyond a with
      | true =>
          have later : after.find? (fun b => !beyond b && reaches b) = none := by
            refine List.find?_eq_none.mpr ?_
            intro b member
            simp [fromMiddle b member here]
          simp only [if_true, first ascendingBefore apartBefore, Bool.not_true, Bool.false_and,
            later, Option.or_none]
      | false =>
          have earlier : before.find? (fun b => !beyond b && reaches b) = none := by
            refine List.find?_eq_none.mpr ?_
            intro b member accepted
            rw [Bool.and_eq_true] at accepted
            have beyondToo := across b member a List.mem_cons_self accepted.2
            rw [here] at beyondToo
            cases beyondToo
          rw [earlier, if_neg Bool.false_ne_true, List.find?_cons,
            second ascendingAfter (List.pairwise_cons.mp apartAfter).2]
          simp

-----------------------------------------------------------------------------------------
-- The search as a loop

section Loop

variable {ρ : Type*} (entry : Int → Option α) (beyond passed : α → Bool)
  (stuck outside missing : ρ) (found : α → ρ)

/-- Halving entries `l` to `r` of a table until one is neither beyond what is looked for nor passed
by it.
-/
def loop : Nat → Int → Int → ρ
  | 0, _, _ => stuck
  | fuel + 1, l, r =>
      if l ≤ r then
        match entry ((l + r) / 2) with
        | none => outside
        | some a =>
            if beyond a then
              loop fuel l ((l + r) / 2 - 1)
            else if passed a then
              loop fuel ((l + r) / 2 + 1) r
            else
              found a
      else
        missing

/-- With enough fuel the loop ends at the first visited entry that is not passed. Witness: induction
on the halvings of the entries between `l` and `r`.
-/
theorem loop_eq (elements : List α) {fuel l : Nat}
    (entries : ∀ (i : Nat) a, elements[i]? = some a → entry (l + i) = some a)
    (enough : elements.length < fuel)
    : loop entry beyond passed stuck outside missing found fuel l (l + elements.length - 1)
      = ((visited beyond elements).find? fun a => !passed a).elim missing found := by
  induction elements using halving_induction generalizing fuel l with
  | nil =>
      obtain ⟨fuel, rfl⟩ := Nat.exists_eq_succ_of_ne_zero (Nat.ne_zero_of_lt enough)
      have empty : ¬ ((l : Int) ≤ l + ([] : List α).length - 1) := by
        rw [List.length_nil]
        omega
      rw [loop, if_neg empty, visited_nil]
      rfl
  | halve before a after middle first second =>
      obtain ⟨fuel, rfl⟩ := Nat.exists_eq_succ_of_ne_zero (Nat.ne_zero_of_lt enough)
      rw [List.length_append, List.length_cons] at enough
      have size : (before ++ a :: after).length = before.length + (after.length + 1) := by simp
      have more : (l : Int) ≤ l + (before ++ a :: after).length - 1 := by omega
      have c : ((l : Int) + (l + (before ++ a :: after).length - 1)) / 2 = l + before.length := by
        omega
      unfold loop
      rw [visited_middle middle]
      simp only [if_pos more, c, entries before.length a (by simp)]
      cases here : beyond a with
      | true =>
          refine first ?_ (by omega)
          intro i b member
          have inside := (List.getElem?_eq_some_iff.mp member).1
          exact entries i b ((List.getElem?_append_left inside).trans member)
      | false =>
          simp only [Bool.false_eq_true, if_false, List.find?_cons]
          cases passedHere : passed a with
          | false => simp
          | true =>
              have rest := @second fuel (l + before.length + 1) ?_ (by omega)
              · have last : ((l + before.length + 1 : Nat) : Int) + after.length - 1
                    = l + (before ++ a :: after).length - 1 := by omega
                rw [last] at rest
                simpa using rest
              · intro i b member
                have position := entries (before.length + (i + 1)) b (by
                  rw [List.getElem?_append_right (Nat.le_add_right _ _), Nat.add_sub_cancel_left]
                  exact member)
                have same : ((l + before.length + 1 : Nat) : Int) + i
                    = l + (before.length + (i + 1) : Nat) := by omega
                rw [same, position]

end Loop

end Bisection
