import Mathlib.Data.Finset.Card
import Mathlib.Logic.Function.Basic
import XtratuM.Library.Reachability

/-! Caches that hand out slots: a slot that was never used while there is one, else the slot of the
page that was released first.
-/

namespace SlotCache

open Reachability

/-- The slots of the pages, the next slot and how many more there are, and the released pages,
the last one first.
-/
structure Cache (π : Type*) where
  slot : π → Option Nat
  next : Nat
  free : Nat
  released : List π

variable {π : Type*} [DecidableEq π]

/-- The slot of an evicted page goes to another one. -/
def Cache.evict (c : Cache π) (victim p : π) : Cache π :=
  { c with
    slot := Function.update (Function.update c.slot victim none) p (c.slot victim)
    released := c.released.dropLast }

/-- Gives a page a slot unless it has one. -/
def Cache.fetch (c : Cache π) (p : π) : Option (Cache π) :=
  if (c.slot p).isSome then
    some c
  else if c.free = 0 then
    c.released.getLast?.map fun victim => c.evict victim p
  else
    some
      { c with
        slot := Function.update c.slot p (some c.next)
        next := c.next + 1
        free := c.free - 1 }

/-- A page that has a slot may lose it from now on. -/
def Cache.release (c : Cache π) (p : π) : Option (Cache π) :=
  if (c.slot p).isSome then
    some (if p ∈ c.released then c else { c with released := p :: c.released })
  else
    none

inductive Call (π : Type*)
  | fetch (p : π)
  | release (p : π)

def Call.page : Call π → π
  | .fetch p => p
  | .release p => p

def Call.run (c : Cache π) : Call π → Option (Cache π)
  | .fetch p => c.fetch p
  | .release p => c.release p

def Next (c : Cache π) (call : Call π) (c' : Cache π) : Prop :=
  call.run c = some c'

/-- No page has a slot yet. -/
def emptyCache (slots : Nat) : Cache π where
  slot _ := none
  next := 0
  free := slots
  released := []

/-- No two pages share a slot, and released pages have one. -/
structure Cache.Sound (c : Cache π) : Prop where
  distinct : c.released.Nodup
  held : ∀ p ∈ c.released, (c.slot p).isSome
  below : ∀ p i, c.slot p = some i → i < c.next
  injective : ∀ p q i, c.slot p = some i → c.slot q = some i → p = q

omit [DecidableEq π] in
theorem emptyCache_sound (slots : Nat) : (emptyCache slots : Cache π).Sound where
  distinct := .nil
  held := by simp [emptyCache]
  below := by simp [emptyCache]
  injective := by simp [emptyCache]

-----------------------------------------------------------------------------------------
-- Calls

/-- What a call of `fetch` that returns has done. -/
theorem fetch_cases {c c' : Cache π} {p : π} (fetched : c.fetch p = some c')
    : ((c.slot p).isSome ∧ c' = c)
      ∨ (c.slot p = none ∧ c.free ≠ 0
        ∧ c' = { c with
          slot := Function.update c.slot p (some c.next), next := c.next + 1, free := c.free - 1 })
      ∨ (c.slot p = none ∧ c.free = 0 ∧ ∃ front victim, c.released = front ++ [victim]
        ∧ c' = { c with
          slot := Function.update (Function.update c.slot victim none) p (c.slot victim)
          released := front }) := by
  unfold Cache.fetch at fetched
  split at fetched
  · next present =>
      cases fetched
      exact Or.inl ⟨present, rfl⟩
  · next absent =>
      have none : c.slot p = none := by simpa using absent
      split at fetched
      · next full =>
          obtain ⟨victim, last, rfl⟩ := Option.map_eq_some_iff.mp fetched
          obtain ⟨front, split⟩ := List.getLast?_eq_some_iff.mp last
          refine Or.inr (Or.inr ⟨none, full, front, victim, split, ?_⟩)
          simp [Cache.evict, split]
      · next free =>
          cases fetched
          exact Or.inr (Or.inl ⟨none, free, rfl⟩)

theorem fetch_held {c : Cache π} {p : π} (held : (c.slot p).isSome) : c.fetch p = some c :=
  if_pos held

theorem fetch_evicts {c : Cache π} {p victim : π} {front : List π} (absent : c.slot p = none)
    (full : c.free = 0) (last : c.released = front ++ [victim])
    : c.fetch p = some
      { c with
        slot := Function.update (Function.update c.slot victim none) p (c.slot victim)
        released := front } := by
  unfold Cache.fetch
  rw [if_neg (by simp [absent]), if_pos full, last]
  simp [Cache.evict, last]

theorem fetch_fresh {c : Cache π} {p : π} (absent : c.slot p = none) (free : c.free ≠ 0)
    : c.fetch p = some
      { c with
        slot := Function.update c.slot p (some c.next)
        next := c.next + 1
        free := c.free - 1 } := by
  unfold Cache.fetch
  rw [if_neg (by simp [absent]), if_neg free]

theorem fetch_slot {c c' : Cache π} (sound : c.Sound) {p : π} (fetched : c.fetch p = some c')
    : ∃ i, c'.slot p = some i := by
  rcases fetch_cases fetched with ⟨held, rfl⟩ | ⟨_, _, rfl⟩ | ⟨_, _, front, victim, split, rfl⟩
  · exact Option.isSome_iff_exists.mp held
  · exact ⟨c.next, Function.update_self ..⟩
  · obtain ⟨i, slot⟩ := Option.isSome_iff_exists.mp (sound.held victim (by simp [split]))
    exact ⟨i, (Function.update_self ..).trans slot⟩

theorem fetch_released {c c' : Cache π} {p : π} (fetched : c.fetch p = some c')
    (held : p ∉ c.released)
    : p ∉ c'.released := by
  rcases fetch_cases fetched with ⟨_, rfl⟩ | ⟨_, _, rfl⟩ | ⟨_, _, front, victim, split, rfl⟩
  · exact held
  · exact held
  · rw [split, List.mem_append, not_or] at held
    exact held.1

theorem release_cases {c c' : Cache π} {p : π} (released : c.release p = some c')
    : (c.slot p).isSome
      ∧ ((p ∈ c.released ∧ c' = c)
        ∨ (p ∉ c.released ∧ c' = { c with released := p :: c.released })) := by
  unfold Cache.release at released
  split at released
  · next held =>
      refine ⟨held, ?_⟩
      split at released
      · next again => exact Or.inl ⟨again, (Option.some.inj released).symm⟩
      · next first => exact Or.inr ⟨first, (Option.some.inj released).symm⟩
  · cases released

theorem Cache.Sound.fetch {c c' : Cache π} {p : π} (sound : c.Sound)
    (fetched : c.fetch p = some c')
    : c'.Sound := by
  rcases fetch_cases fetched with
    ⟨_, rfl⟩ | ⟨absent, _, rfl⟩ | ⟨absent, _, front, victim, split, rfl⟩
  · exact sound
  · have kept {q : π} {i : Nat} (has : c.slot q = some i) : q ≠ p := by
      rintro rfl
      rw [absent] at has
      cases has
    refine { distinct := sound.distinct, held := ?_, below := ?_, injective := ?_ }
    · intro q member
      obtain ⟨i, has⟩ := Option.isSome_iff_exists.mp (sound.held q member)
      simp [Function.update_of_ne (kept has), has]
    · intro q i has
      dsimp only at has ⊢
      by_cases same : q = p
      · subst same
        simp at has
        simp [← has]
      · rw [Function.update_of_ne same] at has
        exact (sound.below q i has).trans (Nat.lt_succ_self _)
    · intro q r i has has'
      dsimp only at has has'
      by_cases isNew : q = p <;> by_cases isNew' : r = p
      · rw [isNew, isNew']
      · rw [isNew, Function.update_self] at has
        rw [Function.update_of_ne isNew'] at has'
        cases has
        exact absurd (sound.below r _ has') (Nat.lt_irrefl _)
      · rw [isNew', Function.update_self] at has'
        rw [Function.update_of_ne isNew] at has
        cases has'
        exact absurd (sound.below q _ has) (Nat.lt_irrefl _)
      · rw [Function.update_of_ne isNew] at has
        rw [Function.update_of_ne isNew'] at has'
        exact sound.injective q r i has has'
  · have distinct := sound.distinct
    rw [split] at distinct
    have apart := List.nodup_append.mp distinct
    have outside : victim ∉ front := fun inside =>
      apart.2.2 victim inside victim (List.mem_singleton_self victim) rfl
    -- every slot but the victim's is where it was, and the victim's is the new page's
    have origin {q : π} {i : Nat}
        (has : Function.update (Function.update c.slot victim none) p (c.slot victim) q = some i)
        : c.slot (if q = p then victim else q) = some i ∧ (q ≠ p → q ≠ victim) := by
      by_cases same : q = p
      · subst same
        simpa using has
      · rw [Function.update_of_ne same] at has
        by_cases evicted : q = victim
        · subst evicted
          simp at has
        · rw [Function.update_of_ne evicted] at has
          exact ⟨by rwa [if_neg same], fun _ => evicted⟩
    refine { distinct := apart.1, held := ?_, below := ?_, injective := ?_ }
    · intro q member
      have has := sound.held q (by rw [split]; exact List.mem_append_left _ member)
      have other : q ≠ p := by
        rintro rfl
        rw [absent] at has
        cases has
      have stays : q ≠ victim := fun same => outside (same ▸ member)
      simpa [Function.update_of_ne other, Function.update_of_ne stays] using has
    · intro q i has
      exact sound.below _ i (origin has).1
    · intro q r i has has'
      have same := sound.injective _ _ i (origin has).1 (origin has').1
      by_cases isNew : q = p <;> by_cases isNew' : r = p
      · rw [isNew, isNew']
      · rw [if_pos isNew, if_neg isNew'] at same
        exact absurd same.symm ((origin has').2 isNew')
      · rw [if_neg isNew, if_pos isNew'] at same
        exact absurd same ((origin has).2 isNew)
      · rwa [if_neg isNew, if_neg isNew'] at same

theorem Cache.Sound.release {c c' : Cache π} {p : π} (sound : c.Sound)
    (released : c.release p = some c')
    : c'.Sound := by
  obtain ⟨held, ⟨_, rfl⟩ | ⟨first, rfl⟩⟩ := release_cases released
  · exact sound
  · refine
      { distinct := List.nodup_cons.mpr ⟨first, sound.distinct⟩, held := ?_
        below := sound.below, injective := sound.injective }
    intro q member
    rcases List.mem_cons.mp member with rfl | member
    · exact held
    · exact sound.held q member

theorem Cache.Sound.run {c c' : Cache π} {call : Call π} (sound : c.Sound)
    (next : Next c call c')
    : c'.Sound := by
  cases call with
  | fetch p => exact sound.fetch next
  | release p => exact sound.release next

-----------------------------------------------------------------------------------------
-- Pages that stay

/-- The calls on other pages. -/
def Others (p : π) : Cache π → Call π → Cache π → Prop :=
  guarded (fun _ call => call.page ≠ p) Next

/-- A page that is not released keeps its slot. -/
theorem stays_held {c c' : Cache π} {p : π} {i : Nat} (has : c.slot p = some i)
    (held : p ∉ c.released) {past : List (Call π)} (run : Reach (Others p) c past c')
    : c'.slot p = some i := by
  suffices both : c'.slot p = some i ∧ p ∉ c'.released from both.1
  refine run.invariant (P := fun c => c.slot p = some i ∧ p ∉ c.released) ⟨has, held⟩ ?_
  rintro c (q | q) c' ⟨has, held⟩ ⟨other, next⟩
  · have apart : p ≠ q := fun same => other same.symm
    rcases fetch_cases next with ⟨_, rfl⟩ | ⟨_, _, rfl⟩ | ⟨_, _, front, victim, split, rfl⟩
    · exact ⟨has, held⟩
    · exact ⟨by simpa [Function.update_of_ne apart] using has, held⟩
    · rw [split, List.mem_append, List.mem_singleton, not_or] at held
      refine ⟨?_, held.1⟩
      simpa [Function.update_of_ne apart, Function.update_of_ne held.2] using has
  · obtain ⟨_, ⟨_, rfl⟩ | ⟨_, rfl⟩⟩ := release_cases next
    · exact ⟨has, held⟩
    · refine ⟨has, ?_⟩
      rw [List.mem_cons, not_or]
      exact ⟨fun same => other same.symm, held⟩

/-- There are slots for all pages that have none. -/
def Cache.Roomy (c : Cache π) : Prop :=
  ∀ pages : Finset π, (∀ q ∈ pages, c.slot q = none) → pages.card ≤ c.free

/-- Where there is room for all pages, none loses its slot. -/
theorem stays_roomy {c c' : Cache π} {p : π} {i : Nat} (has : c.slot p = some i)
    (roomy : c.Roomy) {past : List (Call π)} (run : Reach (Others p) c past c')
    : c'.slot p = some i := by
  suffices both : c'.slot p = some i ∧ c'.Roomy from both.1
  refine run.invariant (P := fun c => c.slot p = some i ∧ c.Roomy) ⟨has, roomy⟩ ?_
  rintro c (q | q) c' ⟨has, roomy⟩ ⟨other, next⟩
  · have apart : p ≠ q := fun same => other same.symm
    rcases fetch_cases next with ⟨_, rfl⟩ | ⟨absent, free, rfl⟩ | ⟨absent, full, _⟩
    · exact ⟨has, roomy⟩
    · refine ⟨by simpa [Function.update_of_ne apart] using has, ?_⟩
      intro pages unmapped
      have fresh : q ∉ pages := by
        intro inside
        have none := unmapped q inside
        simp at none
      have wider := roomy (insert q pages) fun r member => by
        rcases Finset.mem_insert.mp member with rfl | member
        · exact absent
        · have other : r ≠ q := fun same => fresh (same ▸ member)
          simpa [Function.update_of_ne other] using unmapped r member
      rw [Finset.card_insert_of_notMem fresh] at wider
      exact Nat.le_sub_one_of_lt wider
    · have one := roomy {q} fun r member => by
        cases Finset.mem_singleton.mp member
        exact absent
      simp [full] at one
  · obtain ⟨_, ⟨_, rfl⟩ | ⟨_, rfl⟩⟩ := release_cases next
    · exact ⟨has, roomy⟩
    · exact ⟨has, roomy⟩

/-- With no slot left, a page without one evicts the released pages one after the other.
Witness: induction on them, the first released first.
-/
theorem evicted_full {c : Cache π} {p q : π} (sound : c.Sound) (member : p ∈ c.released)
    (full : c.free = 0) (absent : c.slot q = none)
    : ∃ past c', Reach (Others p) c past c' ∧ c'.slot p = none := by
  induction released : c.released using List.reverseRecOn generalizing c q with
  | nil =>
      rw [released] at member
      cases member
  | append_singleton front victim ih =>
      have apart {r : π} (inside : r ∈ c.released) : r ≠ q := by
        rintro rfl
        have held := sound.held r inside
        rw [absent] at held
        cases held
      have fetched : Others p c (.fetch q) _ :=
        ⟨(apart member).symm, fetch_evicts absent full released⟩
      by_cases same : victim = p
      · subst same
        refine ⟨_, _, .step .start fetched, ?_⟩
        simp [Function.update_of_ne (apart member)]
      · have inside : p ∈ front := by
          rw [released] at member
          rcases List.mem_append.mp member with inside | last
          · exact inside
          · exact absurd (List.mem_singleton.mp last).symm same
        have victimApart : victim ≠ q := apart (by simp [released])
        obtain ⟨past, c', run, gone⟩ := ih (sound.fetch fetched.2) inside full
          (show Function.update (Function.update c.slot victim none) q (c.slot victim) victim = none
            by simp [Function.update_of_ne victimApart]) rfl
        exact ⟨_, _, (Reach.step .start fetched).trans run, gone⟩

/-- With fewer slots left than there are pages without one, a released page can be evicted.
Witness: induction on the slots left.
-/
theorem evicted_crowded {c : Cache π} {p : π} (sound : c.Sound) (member : p ∈ c.released)
    {pages : Finset π} (absent : ∀ q ∈ pages, c.slot q = none) (crowded : c.free < pages.card)
    : ∃ past c', Reach (Others p) c past c' ∧ c'.slot p = none := by
  obtain ⟨q, inside⟩ : pages.Nonempty := Finset.card_pos.mp (Nat.zero_lt_of_lt crowded)
  have other : q ≠ p := by
    rintro rfl
    have held := sound.held q member
    rw [absent q inside] at held
    cases held
  induction free : c.free generalizing c pages q with
  | zero => exact evicted_full sound member free (absent q inside)
  | succ n ih =>
      have fetched : Others p c (.fetch q) _ :=
        ⟨other, fetch_fresh (absent q inside) (by omega)⟩
      have fewer : (pages.erase q).card = pages.card - 1 := Finset.card_erase_of_mem inside
      obtain ⟨r, next⟩ : (pages.erase q).Nonempty := Finset.card_pos.mp (by omega)
      have still : ∀ r ∈ pages.erase q,
          Function.update c.slot q (some c.next) r = none := by
        intro r member
        have apart := Finset.ne_of_mem_erase member
        simpa [Function.update_of_ne apart] using absent r (Finset.mem_of_mem_erase member)
      have apart : r ≠ p := by
        rintro rfl
        have held := sound.held r member
        rw [absent r (Finset.mem_of_mem_erase next)] at held
        cases held
      obtain ⟨past, c', run, gone⟩ := ih (sound.fetch fetched.2) member still
        (show c.free - 1 < (pages.erase q).card by omega) r next apart
        (show c.free - 1 = n by omega)
      exact ⟨_, _, (Reach.step .start fetched).trans run, gone⟩

/-- A page keeps its slot whatever happens to the others exactly when it is not released, or there
is room for all pages.
-/
theorem stays_iff {c : Cache π} {p : π} {i : Nat} (sound : c.Sound) (has : c.slot p = some i)
    : (∀ past c', Reach (Others p) c past c' → c'.slot p = some i)
      ↔ p ∉ c.released ∨ c.Roomy := by
  constructor
  · intro stays
    by_contra neither
    rw [not_or, not_not] at neither
    obtain ⟨member, crowded⟩ := neither
    obtain ⟨pages, absent, more⟩ : ∃ pages : Finset π, (∀ q ∈ pages, c.slot q = none)
        ∧ c.free < pages.card := by
      simpa [Cache.Roomy] using crowded
    obtain ⟨past, c', run, gone⟩ := evicted_crowded sound member absent more
    rw [stays past c' run] at gone
    cases gone
  · rintro (held | roomy) past c' run
    · exact stays_held has held run
    · exact stays_roomy has roomy run

end SlotCache
