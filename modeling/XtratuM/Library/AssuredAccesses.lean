import XtratuM.Library.Tracked

/-! Computations whose accesses are relied on to be of one kind and are then of another: a rule for
each way to put computations together.
-/

namespace Tracked

variable {ι ε α β : Type}

/-- When what is relied on holds of all accesses, they are good, and so is what is returned. -/
def Computation.Assures (c : Computation ι ε α) (rely good : ι → Prop) (post : α → Prop) : Prop :=
  c.Within rely → c.Within good ∧ ∀ a, c.result = .ok a → post a

section Assures

variable {rely good : ι → Prop} {post : α → Prop} {later : β → Prop}

theorem assures_lift {result : Except ε α} (returns : ∀ a, result = .ok a → post a)
    : (lift result : Computation ι ε α).Assures rely good post :=
  fun _ => ⟨within_lift result, returns⟩

theorem assures_pure {a : α} (returns : post a)
    : (pure a : Computation ι ε α).Assures rely good post :=
  assures_lift fun _ same => Except.ok.inj same ▸ returns

theorem assures_access {place : ι} {result : Except ε α} (safe : rely place → good place)
    (returns : rely place → ∀ a, result = .ok a → post a)
    : (access place result).Assures rely good post := by
  intro relied
  have here := within_access.mp relied
  exact ⟨within_access.mpr (safe here), returns here⟩

theorem Computation.Assures.bind {c : Computation ι ε α} {f : α → Computation ι ε β}
    (first : c.Assures rely good post) (rest : ∀ a, post a → (f a).Assures rely good later)
    : (c >>= f).Assures rely good later := by
  intro relied
  obtain ⟨before, after⟩ := within_bind.mp relied
  obtain ⟨safe, returns⟩ := first before
  refine ⟨within_bind.mpr ⟨safe, ?_⟩, ?_⟩
  · intro a ran
    exact (rest a (returns a ran) (after a ran)).1
  · intro b ran
    rw [result_bind] at ran
    cases made : c.result with
    | error stop =>
        rw [made] at ran
        cases ran
    | ok a =>
        rw [made] at ran
        exact (rest a (returns a made) (after a made)).2 b ran

theorem Computation.Assures.mono {c : Computation ι ε α} {weaker : α → Prop}
    (assures : c.Assures rely good post) (weaken : ∀ a, post a → weaker a)
    : c.Assures rely good weaker := by
  intro relied
  obtain ⟨safe, returns⟩ := assures relied
  exact ⟨safe, fun a ran => weaken a (returns a ran)⟩

end Assures

end Tracked
