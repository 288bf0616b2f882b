import Mathlib.Data.Sum.Basic

/-! Two loops that do the same, round by round. A round goes on from a state to the next, ends the
loop with a result, or is stuck.
-/

namespace Lockstep

variable {σ ρ : Type*}

/-- Where the loop is after a number of rounds, or what it has ended with. -/
def after (round : σ → Option (σ ⊕ ρ)) (s : σ) : Nat → Option (σ ⊕ ρ)
  | 0 => some (.inl s)
  | n + 1 =>
      match after round s n with
      | some (.inl t) => round t
      | ended => ended

/-- Neither loop is stuck at a state, and their rounds there do the same. -/
def Agree (left right : σ → Option (σ ⊕ ρ)) (s : σ) : Prop :=
  ∃ r, left s = some r ∧ right s = some r

/-- The loops do the same: after any number of rounds neither is stuck and they are at the same
place.
-/
def Same (left right : σ → Option (σ ⊕ ρ)) (s : σ) : Prop :=
  ∀ n, ∃ r, after left s n = some r ∧ after right s n = some r

/-- Loops do the same exactly when their rounds agree wherever the second of them comes. -/
theorem same_iff {left right : σ → Option (σ ⊕ ρ)} {s : σ}
    : Same left right s ↔ ∀ n t, after right s n = some (.inl t) → Agree left right t := by
  constructor
  · intro same n t there
    obtain ⟨r, first, second⟩ := same n
    cases second.symm.trans there
    obtain ⟨r', first', second'⟩ := same (n + 1)
    simp only [after, first] at first'
    simp only [after, there] at second'
    exact ⟨r', first', second'⟩
  · intro agree n
    induction n with
    | zero => exact ⟨_, rfl, rfl⟩
    | succ n ih =>
        obtain ⟨r, first, second⟩ := ih
        cases r with
        | inl t =>
            obtain ⟨r', left', right'⟩ := agree n t second
            exact ⟨r', by simp only [after, first, left'], by simp only [after, second, right']⟩
        | inr result =>
            exact ⟨.inr result, by simp only [after, first], by simp only [after, second]⟩

/-- The first round, and those after it. -/
theorem after_succ (round : σ → Option (σ ⊕ ρ)) (s : σ) (n : Nat)
    : after round s (n + 1) = match round s with
      | some (.inl t) => after round t n
      | ended => ended := by
  induction n with
  | zero =>
      simp only [after]
      cases round s with
      | none => rfl
      | some r => cases r <;> rfl
  | succ n ih =>
      rw [after, ih]
      cases round s with
      | none => rfl
      | some r => cases r <;> rfl

theorem after_next {round : σ → Option (σ ⊕ ρ)} {s t : σ} (first : round s = some (.inl t))
    (n : Nat)
    : after round s (n + 1) = after round t n := by
  rw [after_succ, first]

/-- A loop is where it started, or where it comes from its next state. -/
theorem start_or_next {round : σ → Option (σ ⊕ ρ)} {s t : σ} {n : Nat}
    (there : after round s n = some (.inl t))
    : t = s ∨ ∃ u m, round s = some (.inl u) ∧ after round u m = some (.inl t) := by
  cases n with
  | zero =>
      cases there
      exact .inl rfl
  | succ n =>
      rw [after_succ] at there
      split at there
      · next u first => exact .inr ⟨u, n, first, there⟩
      · next ended => exact absurd there (ended t)

/-- The states that a loop comes to, in its first rounds. -/
def states (round : σ → Option (σ ⊕ ρ)) : Nat → σ → List σ
  | 0, _ => []
  | n + 1, s =>
      s :: match round s with
        | some (.inl t) => states round n t
        | _ => []

/-- When they are fewer than the rounds, they are all that the loop ever comes to. -/
theorem mem_states {round : σ → Option (σ ⊕ ρ)} {s t : σ} {n m : Nat}
    (fewer : (states round n s).length < n) (there : after round s m = some (.inl t))
    : t ∈ states round n s := by
  induction n generalizing s m with
  | zero => cases fewer
  | succ n ih =>
      obtain rfl | ⟨u, m, first, there⟩ := start_or_next there
      · exact List.mem_cons_self
      · simp only [states, first, List.length_cons, Nat.add_lt_add_iff_right] at fewer
        simp only [states, first]
        exact List.mem_cons_of_mem s (ih fewer there)

theorem Same.next {left right : σ → Option (σ ⊕ ρ)} {s t : σ} (same : Same left right s)
    (first : right s = some (.inl t))
    : Same left right t := by
  obtain ⟨r, first', second⟩ := same 1
  have here : left s = some (.inl t) := by
    have both : r = .inl t := Option.some.inj (second.symm.trans first)
    simpa only [after, both] using first'
  intro n
  simpa only [after_next here, after_next first] using same (n + 1)

end Lockstep
