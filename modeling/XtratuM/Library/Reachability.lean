import Mathlib.Data.List.Forall2
import Mathlib.Data.Set.Basic

/-! Histories of a labelled step relation.
A history lists its labels newest first, so the last step of a run is the head of the list
and an invariant may speak about everything that happened before it.
-/

namespace Reachability

variable {σ ε : Type*}

/-- `Reach next start past s`: `s` is reached from `start` by the labels of `past`. -/
inductive Reach (next : σ → ε → σ → Prop) (start : σ) : List ε → σ → Prop
  | start : Reach next start [] start
  | step {past s label s'} (before : Reach next start past s) (taken : next s label s')
    : Reach next start (label :: past) s'

/-- A property of states and histories that every step keeps holds of every run.
Witness: induction on the run; this is the only place where that induction is made.
-/
theorem Reach.preserves {next : σ → ε → σ → Prop} {start : σ} {P : List ε → σ → Prop}
    (initial : P [] start)
    (keep : ∀ past s label s', P past s → next s label s' → P (label :: past) s')
    {past : List ε} {s : σ} (run : Reach next start past s)
    : P past s := by
  induction run with
  | start => exact initial
  | step _ taken ih => exact keep _ _ _ _ ih taken

/-- A state property that every step keeps is an invariant of every run. -/
theorem Reach.invariant {next : σ → ε → σ → Prop} {start : σ} {P : σ → Prop}
    (initial : P start)
    (keep : ∀ s label s', P s → next s label s' → P s')
    {past : List ε} {s : σ} (run : Reach next start past s)
    : P s :=
  run.preserves (P := fun _ s => P s) initial (fun _ s label s' => keep s label s')

/-- A run goes on where another ended. -/
theorem Reach.trans {next : σ → ε → σ → Prop} {s t u : σ} {past later : List ε}
    (first : Reach next s past t) (second : Reach next t later u)
    : Reach next s (later ++ past) u := by
  induction second with
  | start => exact first
  | step _ taken ih => exact .step ih taken

/-- Runs of a relation are runs of every relation that contains it. -/
theorem Reach.mono {next wider : σ → ε → σ → Prop} {start : σ}
    (contained : ∀ s label s', next s label s' → wider s label s')
    {past : List ε} {s : σ} (run : Reach next start past s)
    : Reach wider start past s := by
  induction run with
  | start => exact .start
  | step _ taken ih => exact .step ih (contained _ _ _ taken)

/-- The steps of a relation that a condition on the state and the label allows. -/
def guarded (allowed : σ → ε → Prop) (next : σ → ε → σ → Prop) (s : σ) (label : ε) (s' : σ)
    : Prop :=
  allowed s label ∧ next s label s'

theorem Reach.unguarded {allowed : σ → ε → Prop} {next : σ → ε → σ → Prop} {start : σ}
    {past : List ε} {s : σ} (run : Reach (guarded allowed next) start past s)
    : Reach next start past s :=
  run.mono fun _ _ _ taken => taken.2

/-- Some label of the history, taken after `older`, satisfied `now`, and none since is in
`stop`.
-/
def Since (now : ε → List ε → Prop) (stop : ε → Prop) (past : List ε) : Prop :=
  ∃ newer label older, past = newer ++ label :: older ∧ now label older
    ∧ ∀ later ∈ newer, ¬ stop later

theorem not_since_nil {now : ε → List ε → Prop} {stop : ε → Prop} : ¬ Since now stop [] := by
  rintro ⟨newer, label, older, split, -⟩
  simp at split

theorem since_cons {now : ε → List ε → Prop} {stop : ε → Prop} {label : ε} {past : List ε}
    : Since now stop (label :: past) ↔ now label past ∨ (¬ stop label ∧ Since now stop past) := by
  constructor
  · rintro ⟨newer, hit, older, split, here, quiet⟩
    cases newer with
    | nil =>
        cases split
        exact Or.inl here
    | cons first newer =>
        cases split
        refine Or.inr ⟨quiet _ List.mem_cons_self, newer, hit, older, rfl, here, ?_⟩
        exact fun later member => quiet later (List.mem_cons_of_mem _ member)
  · rintro (here | ⟨quiet, newer, hit, older, rfl, here, quiets⟩)
    · exact ⟨[], label, past, rfl, here, by simp⟩
    · refine ⟨label :: newer, hit, older, rfl, here, ?_⟩
      intro later member
      rcases List.mem_cons.mp member with rfl | earlier
      · exact quiet
      · exact quiets later earlier

/-- A property that some labels set and others clear, and that no other label touches, tells
whether a label that sets it came after the last one that clears it.
-/
theorem Reach.since {next : σ → ε → σ → Prop} {start : σ} {now : ε → List ε → Prop}
    {stop : ε → Prop} {P : σ → Prop} (initial : ¬ P start)
    (latch : ∀ past s label s', Reach next start past s → next s label s' →
      (P s' ↔ now label past ∨ (¬ stop label ∧ P s)))
    {past : List ε} {s : σ} (run : Reach next start past s)
    : P s ↔ Since now stop past := by
  induction run with
  | start => exact iff_of_false initial not_since_nil
  | step before taken ih => rw [latch _ _ _ _ before taken, since_cons, ih]

/-- A run of labels that are allowed in every state is a guarded run. -/
theorem Reach.guard {allowed : σ → ε → Prop} {next : σ → ε → σ → Prop} {start : σ}
    {past : List ε} {s : σ} (run : Reach next start past s)
    (always : ∀ label ∈ past, ∀ s, allowed s label)
    : Reach (guarded allowed next) start past s := by
  induction run with
  | start => exact .start
  | step _ taken ih =>
      refine .step (ih fun label member => always label (List.mem_cons_of_mem _ member)) ?_
      exact ⟨always _ List.mem_cons_self _, taken⟩

/-- When the allowed steps are those of a kind and the steps of that kind keep an invariant, the
runs of allowed steps are those of steps of the kind.
-/
theorem Reach.kept_iff_guarded {allowed : σ → ε → Prop} {next R : σ → ε → σ → Prop} {P : σ → Prop}
    {start : σ} (initial : P start)
    (keep : ∀ s label s', P s → next s label s' →
      (R s label s' ↔ allowed s label) ∧ (R s label s' → P s'))
    {past : List ε} {s : σ}
    : Reach (fun s label s' => next s label s' ∧ R s label s') start past s
      ↔ Reach (guarded allowed next) start past s := by
  constructor
  · intro run
    suffices both : Reach (guarded allowed next) start past s ∧ P s from both.1
    induction run with
    | start => exact ⟨.start, initial⟩
    | step _ taken ih =>
        obtain ⟨run, holds⟩ := ih
        obtain ⟨same, still⟩ := keep _ _ _ holds taken.1
        exact ⟨.step run ⟨same.mp taken.2, taken.1⟩, still taken.2⟩
  · intro run
    suffices both : Reach (fun s label s' => next s label s' ∧ R s label s') start past s ∧ P s
      from both.1
    induction run with
    | start => exact ⟨.start, initial⟩
    | step _ taken ih =>
        obtain ⟨run, holds⟩ := ih
        obtain ⟨same, still⟩ := keep _ _ _ holds taken.2
        exact ⟨.step run ⟨taken.2, same.mpr taken.1⟩, still (same.mpr taken.1)⟩

/-- When an allowed step is one that keeps a property, the runs of allowed steps are those that
keep it in every state.
-/
theorem Reach.good_iff_guarded {allowed : σ → ε → Prop} {next : σ → ε → σ → Prop}
    {good inv : σ → Prop} {start : σ} (initial : good start ∧ inv start)
    (keep : ∀ s label s', good s → inv s → next s label s' →
      inv s' ∧ (good s' ↔ allowed s label))
    {past : List ε} {s : σ}
    : Reach (fun s label s' => next s label s' ∧ good s') start past s
      ↔ Reach (guarded allowed next) start past s := by
  refine Reach.kept_iff_guarded (P := fun s => good s ∧ inv s) (R := fun _ _ s' => good s')
    initial ?_
  rintro s label s' ⟨before, holds⟩ taken
  obtain ⟨still, same⟩ := keep s label s' before holds taken
  exact ⟨same, fun after => ⟨after, still⟩⟩

/-- A relation that every step of one system can follow in another is followed by whole
runs, with histories that match label by label.
-/
theorem Reach.simulates {τ δ : Type*} {next : σ → ε → σ → Prop} {next' : τ → δ → τ → Prop}
    {start : σ} {start' : τ} {related : σ → τ → Prop} {matched : ε → δ → Prop}
    (initial : related start start')
    (follow : ∀ s t label s', related s t → next s label s' →
      ∃ label' t', matched label label' ∧ next' t label' t' ∧ related s' t')
    {past : List ε} {s : σ} (run : Reach next start past s)
    : ∃ past' t, List.Forall₂ matched past past' ∧ Reach next' start' past' t
        ∧ related s t := by
  induction run with
  | start => exact ⟨[], start', .nil, .start, initial⟩
  | step _ taken ih =>
      obtain ⟨past', t, labels, run', before⟩ := ih
      obtain ⟨label', t', label, taken', after⟩ := follow _ _ _ _ before taken
      exact ⟨label' :: past', t', .cons label labels, .step run' taken', after⟩

/-- A program whose every step is one of the relation makes a run of it. -/
theorem Reach.of_foldlM {δ : Type*} {next : σ → ε → σ → Prop} {run : σ → ε → Except δ σ}
    {labels : List ε}
    (sound : ∀ label ∈ labels, ∀ s s', run s label = .ok s' → next s label s') {s s' : σ}
    (returned : labels.foldlM run s = .ok s')
    : Reach next s labels.reverse s' := by
  induction labels generalizing s with
  | nil =>
      cases returned
      exact .start
  | cons label rest ih =>
      rw [List.foldlM_cons] at returned
      cases ran : run s label with
      | error stop =>
          rw [ran] at returned
          cases returned
      | ok middle =>
          rw [ran] at returned
          have first : Reach next s [label] middle :=
            .step .start (sound label List.mem_cons_self s middle ran)
          have later :=
            ih (fun other member => sound other (List.mem_cons_of_mem _ member)) returned
          simpa using first.trans later

end Reachability
