import Mathlib.Data.List.Basic

/-! Computations that may stop and that keep account of the places they access, and what it takes
for all of these to be of a kind.
-/

namespace Tracked

/-- The places accessed, first to last, and what the computation returns or stops with. -/
structure Computation (ι ε α : Type) where
  accesses : List ι
  result : Except ε α

variable {ι ε α β : Type}

/-- A computation that accesses nothing. -/
def lift (result : Except ε α) : Computation ι ε α where
  accesses := []
  result := result

/-- The access of one place. -/
def access (place : ι) (result : Except ε α) : Computation ι ε α where
  accesses := [place]
  result := result

def Computation.bind (c : Computation ι ε α) (f : α → Computation ι ε β) : Computation ι ε β :=
  match c.result with
  | .error stop => { accesses := c.accesses, result := .error stop }
  | .ok a => { accesses := c.accesses ++ (f a).accesses, result := (f a).result }

instance : Monad (Computation ι ε) where
  pure a := lift (.ok a)
  bind := Computation.bind

-----------------------------------------------------------------------------------------
-- Results

@[simp] theorem result_lift (result : Except ε α)
    : (lift result : Computation ι ε α).result = result :=
  rfl

@[simp] theorem result_access (place : ι) (result : Except ε α)
    : (access place result).result = result :=
  rfl

@[simp] theorem result_pure (a : α) : (pure a : Computation ι ε α).result = .ok a :=
  rfl

@[simp] theorem result_bind (c : Computation ι ε α) (f : α → Computation ι ε β)
    : (c >>= f).result = c.result >>= fun a => (f a).result := by
  change (c.bind f).result = _
  unfold Computation.bind
  cases c.result <;> rfl

-----------------------------------------------------------------------------------------
-- Accesses

/-- All places accessed are of a kind. -/
def Computation.Within (c : Computation ι ε α) (P : ι → Prop) : Prop :=
  ∀ place ∈ c.accesses, P place

variable {P : ι → Prop}

theorem within_lift (result : Except ε α) : (lift result : Computation ι ε α).Within P := by
  intro place member
  cases member

theorem within_pure (a : α) : (pure a : Computation ι ε α).Within P :=
  within_lift (.ok a)

theorem within_access {place : ι} {result : Except ε α}
    : (access place result).Within P ↔ P place :=
  List.forall_mem_singleton

/-- A computation and what comes after it, if it returns. -/
theorem within_bind {c : Computation ι ε α} {f : α → Computation ι ε β}
    : (c >>= f).Within P ↔ c.Within P ∧ ∀ a, c.result = .ok a → (f a).Within P := by
  change (c.bind f).Within P ↔ _
  unfold Computation.bind Computation.Within
  cases c.result with
  | error stop => simp
  | ok a => simp [or_imp, forall_and]

end Tracked
