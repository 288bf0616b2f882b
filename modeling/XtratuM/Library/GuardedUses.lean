import Mathlib.Data.Set.Insert
import XtratuM.Library.Tracked

/-! Computations that guard ranges of a memory and use places in it: when every guard is sound, and
every use is covered by a guard that came before it.
-/

namespace GuardedUses

open Tracked

inductive Event (κ ι : Type)
  | guard (range : κ)
  | use (place : ι)

variable {κ ι ε α β : Type}

/-- The guards of a history are sound, and each use comes after a guard that covers it. -/
structure Guarded (sound : κ → Prop) (covers : κ → ι → Prop) (events : List (Event κ ι)) : Prop
    where
  sound : ∀ range, .guard range ∈ events → sound range
  covered : ∀ before place after, events = before ++ .use place :: after →
    ∃ range, .guard range ∈ before ∧ covers range place

/-- The same of the rest of a history, in which `held` has been guarded so far. -/
def GuardedFrom (sound : κ → Prop) (covers : κ → ι → Prop) : Set κ → List (Event κ ι) → Prop
  | _, [] => True
  | held, .guard range :: rest => sound range ∧ GuardedFrom sound covers (insert range held) rest
  | held, .use place :: rest =>
      (∃ range ∈ held, covers range place) ∧ GuardedFrom sound covers held rest

def guards (events : List (Event κ ι)) : Set κ := { range | .guard range ∈ events }

@[simp] theorem mem_guards {events : List (Event κ ι)} {range : κ}
    : range ∈ guards events ↔ .guard range ∈ events :=
  Iff.rfl

variable {sound : κ → Prop} {covers : κ → ι → Prop} {held : Set κ}

theorem guards_guard (range : κ) (rest : List (Event κ ι))
    : held ∪ guards (.guard range :: rest) = insert range held ∪ guards rest := by
  ext other
  simp only [Set.mem_union, Set.mem_insert_iff, mem_guards, List.mem_cons, Event.guard.injEq]
  tauto

theorem guards_use (place : ι) (rest : List (Event κ ι))
    : guards (.use place :: rest) = guards rest := by
  ext other
  simp

/-- Witness: induction on the first part. -/
theorem guardedFrom_append {events later : List (Event κ ι)}
    : GuardedFrom sound covers held (events ++ later)
      ↔ GuardedFrom sound covers held events
        ∧ GuardedFrom sound covers (held ∪ guards events) later := by
  induction events generalizing held with
  | nil =>
      have none : held ∪ guards ([] : List (Event κ ι)) = held := by
        ext range
        simp
      rw [none]
      simp [GuardedFrom]
  | cons event rest ih =>
      cases event with
      | guard range =>
          rw [guards_guard, List.cons_append, GuardedFrom, GuardedFrom, ih, and_assoc]
      | use place => rw [guards_use, List.cons_append, GuardedFrom, GuardedFrom, ih, and_assoc]

/-- Witness: induction on the history. -/
theorem guardedFrom_iff {events : List (Event κ ι)}
    : GuardedFrom sound covers held events
      ↔ (∀ range, .guard range ∈ events → sound range)
        ∧ ∀ before place after, events = before ++ .use place :: after →
          ∃ range, (range ∈ held ∨ .guard range ∈ before) ∧ covers range place := by
  induction events generalizing held with
  | nil => simp [GuardedFrom]
  | cons event rest ih =>
      cases event with
      | guard range =>
          rw [GuardedFrom, ih]
          constructor
          · rintro ⟨first, later, covered⟩
            refine ⟨?_, ?_⟩
            · intro other member
              rcases List.mem_cons.mp member with same | member
              · cases same
                exact first
              · exact later other member
            · intro before place after split
              cases before with
              | nil => cases split
              | cons _ before =>
                  obtain ⟨rfl, later⟩ := List.cons.inj split
                  obtain ⟨other, known, covers⟩ := covered before place after later
                  refine ⟨other, ?_, covers⟩
                  rcases known with (rfl | known) | known
                  · exact Or.inr List.mem_cons_self
                  · exact Or.inl known
                  · exact Or.inr (List.mem_cons_of_mem _ known)
          · rintro ⟨sounds, covered⟩
            refine ⟨sounds range List.mem_cons_self, ?_, ?_⟩
            · exact fun other member => sounds other (List.mem_cons_of_mem _ member)
            · intro before place after split
              obtain ⟨other, known, covers⟩ :=
                covered (.guard range :: before) place after (by rw [split]; rfl)
              refine ⟨other, ?_, covers⟩
              rcases known with known | known
              · exact Or.inl (Or.inr known)
              · rcases List.mem_cons.mp known with same | known
                · cases same
                  exact Or.inl (Or.inl rfl)
                · exact Or.inr known
      | use place =>
          rw [GuardedFrom, ih]
          constructor
          · rintro ⟨⟨range, known, covers⟩, sounds, covered⟩
            refine ⟨?_, ?_⟩
            · intro other member
              rcases List.mem_cons.mp member with same | member
              · cases same
              · exact sounds other member
            · intro before other after split
              cases before with
              | nil =>
                  cases split
                  exact ⟨range, Or.inl known, covers⟩
              | cons _ before =>
                  obtain ⟨rfl, later⟩ := List.cons.inj split
                  obtain ⟨range, known, covers⟩ := covered before other after later
                  exact ⟨range, known.imp_right (List.mem_cons_of_mem _), covers⟩
          · rintro ⟨sounds, covered⟩
            refine ⟨?_, ?_, ?_⟩
            · obtain ⟨range, known, covers⟩ := covered [] place rest rfl
              refine ⟨range, known.resolve_right ?_, covers⟩
              exact List.not_mem_nil
            · exact fun other member => sounds other (List.mem_cons_of_mem _ member)
            · intro before other after split
              obtain ⟨range, known, covers⟩ :=
                covered (.use place :: before) other after (by rw [split]; rfl)
              refine ⟨range, known.imp_right ?_, covers⟩
              intro member
              rcases List.mem_cons.mp member with same | member
              · cases same
              · exact member

theorem guarded_iff {events : List (Event κ ι)}
    : Guarded sound covers events ↔ GuardedFrom sound covers ∅ events := by
  rw [guardedFrom_iff]
  simp only [Set.mem_empty_iff_false, false_or]
  exact ⟨fun guarded => ⟨guarded.sound, guarded.covered⟩, fun both => ⟨both.1, both.2⟩⟩

-----------------------------------------------------------------------------------------
-- Computations

/-- A computation whose events are guards and uses. -/
abbrev Guarding (κ ι ε α : Type) : Type := Tracked.Computation (Event κ ι) ε α

def guard (range : κ) : Guarding κ ι ε Unit := access (.guard range) (.ok ())

/-- The use of some places, first to last. -/
def uses (places : List ι) : Guarding κ ι ε Unit where
  accesses := places.map .use
  result := .ok ()

@[simp] theorem result_guard (range : κ) : (guard range : Guarding κ ι ε Unit).result = .ok () :=
  rfl

@[simp] theorem result_uses (places : List ι)
    : (uses places : Guarding κ ι ε Unit).result = .ok () :=
  rfl

/-- A computation that makes no guard. -/
abbrev Unguarded (c : Guarding κ ι ε α) : Prop :=
  c.Within fun event => ∃ place, event = .use place

theorem unguarded_uses (places : List ι) : Unguarded (uses places : Guarding κ ι ε Unit) := by
  intro event member
  obtain ⟨place, -, rfl⟩ := List.mem_map.mp member
  exact ⟨place, rfl⟩

/-- What a computation does after `held` has been guarded. -/
def After (sound : κ → Prop) (covers : κ → ι → Prop) (held : Set κ) (c : Guarding κ ι ε α)
    : Prop :=
  GuardedFrom sound covers held c.accesses

theorem after_lift (result : Except ε α)
    : After sound covers held (lift result : Guarding κ ι ε α) :=
  trivial

theorem after_pure (a : α) : After sound covers held (pure a : Guarding κ ι ε α) := trivial

theorem after_bind {c : Guarding κ ι ε α} {f : α → Guarding κ ι ε β}
    : After sound covers held (c >>= f)
      ↔ After sound covers held c
        ∧ ∀ a, c.result = .ok a → After sound covers (held ∪ guards c.accesses) (f a) := by
  change GuardedFrom sound covers held (c.bind f).accesses ↔ _
  unfold Tracked.Computation.bind After
  cases c.result with
  | error stop => simp
  | ok a => simp [guardedFrom_append]

theorem after_bind_unguarded {c : Guarding κ ι ε α} {f : α → Guarding κ ι ε β}
    (unguarded : Unguarded c)
    : After sound covers held (c >>= f)
      ↔ After sound covers held c ∧ ∀ a, c.result = .ok a → After sound covers held (f a) := by
  have same : held ∪ guards c.accesses = held := by
    ext range
    rw [Set.mem_union, mem_guards, or_iff_left]
    intro member
    obtain ⟨place, none⟩ := unguarded _ member
    cases none
  rw [after_bind, same]

theorem after_lift_bind {result : Except ε α} {f : α → Guarding κ ι ε β}
    : After sound covers held (lift result >>= f)
      ↔ ∀ a, result = .ok a → After sound covers held (f a) := by
  rw [after_bind_unguarded (within_lift _)]
  exact ⟨fun both => both.2, fun later => ⟨trivial, later⟩⟩

theorem after_uses {places : List ι}
    : After sound covers held (uses places : Guarding κ ι ε Unit)
      ↔ ∀ place ∈ places, ∃ range ∈ held, covers range place := by
  change GuardedFrom sound covers held (places.map .use) ↔ _
  induction places with
  | nil => simp [GuardedFrom]
  | cons place rest ih => rw [List.map_cons, GuardedFrom, ih, List.forall_mem_cons]

theorem after_uses_bind {places : List ι} {f : Unit → Guarding κ ι ε β}
    : After sound covers held (uses places >>= f)
      ↔ (∀ place ∈ places, ∃ range ∈ held, covers range place)
        ∧ After sound covers held (f ()) := by
  rw [after_bind_unguarded (unguarded_uses places), after_uses]
  exact and_congr_right fun _ => ⟨fun later => later () rfl, fun later _ _ => later⟩

theorem after_guard_bind {range : κ} {f : Unit → Guarding κ ι ε β}
    : After sound covers held (guard range >>= f)
      ↔ sound range ∧ After sound covers (insert range held) (f ()) := by
  have known : held ∪ guards [(.guard range : Event κ ι)] = insert range held := by
    rw [guards_guard]
    ext other
    simp
  rw [after_bind, guard, access, known]
  constructor
  · rintro ⟨⟨sound, _⟩, later⟩
    exact ⟨sound, later () rfl⟩
  · rintro ⟨sound, later⟩
    exact ⟨⟨sound, trivial⟩, fun _ _ => later⟩

end GuardedUses
