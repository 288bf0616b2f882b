import Mathlib.Data.List.Perm.Subperm
import Mathlib.Data.List.ReduceOption

/-! Pools of blocks that are handed out whole: each block has a key, and a request takes the first
free block with its key. Entries of blocks in use are `none`.
-/

namespace Pools

variable {κ : Type*} [DecidableEq κ]

/-- Takes the first free block with a key, and tells which it was. -/
def take (key : κ) : List (Option κ) → Option (Nat × List (Option κ))
  | [] => none
  | entry :: rest =>
      if entry = some key then
        some (0, none :: rest)
      else
        (take key rest).map fun (e, rest) => (e + 1, entry :: rest)

/-- The requests of a list one after the other, with the blocks they take. -/
def takes : List κ → List (Option κ) → List (Option Nat) × List (Option κ)
  | [], pool => ([], pool)
  | key :: keys, pool =>
      match take key pool with
      | none =>
          let (blocks, pool) := takes keys pool
          (none :: blocks, pool)
      | some (e, pool) =>
          let (blocks, pool) := takes keys pool
          (some e :: blocks, pool)

/-- A request takes one free block, and only that one. -/
theorem take_eq_some {key : κ} {pool pool' : List (Option κ)} {e : Nat}
    (taken : take key pool = some (e, pool'))
    : pool[e]? = some (some key) ∧ pool' = pool.set e none
      ∧ pool.reduceOption.Perm (key :: pool'.reduceOption) := by
  induction pool generalizing e pool' with
  | nil => cases taken
  | cons entry rest ih =>
      unfold take at taken
      split at taken
      · next same =>
          cases taken
          subst same
          exact ⟨rfl, rfl, .refl _⟩
      · obtain ⟨⟨i, rest'⟩, later, same⟩ := Option.map_eq_some_iff.mp taken
        cases same
        obtain ⟨here, set, perm⟩ := ih later
        refine ⟨here, by rw [set]; rfl, ?_⟩
        cases entry with
        | none => simpa using perm
        | some other =>
            simp only [List.reduceOption_cons_of_some]
            exact (perm.cons other).trans (.swap _ _ _)

/-- A key with a free block has a block to take. -/
theorem exists_take {key : κ} {pool : List (Option κ)} (free : key ∈ pool.reduceOption)
    : ∃ e pool', take key pool = some (e, pool') := by
  induction pool with
  | nil => simp at free
  | cons entry rest ih =>
      unfold take
      by_cases same : entry = some key
      · exact ⟨0, none :: rest, if_pos same⟩
      · have later : key ∈ rest.reduceOption := by
          rw [List.reduceOption_mem_iff] at free ⊢
          exact (List.mem_cons.mp free).resolve_left (Ne.symm same)
        obtain ⟨e, rest', taken⟩ := ih later
        refine ⟨e + 1, entry :: rest', ?_⟩
        rw [if_neg same, taken]
        rfl

/-- Requests for no more blocks of each key than are free all succeed, in whatever order. -/
theorem takes_isSome {keys : List κ} {pool : List (Option κ)}
    (enough : keys.Subperm pool.reduceOption)
    : ∀ block ∈ (takes keys pool).1, block.isSome := by
  induction keys generalizing pool with
  | nil => simp [takes]
  | cons key keys ih =>
      obtain ⟨e, pool', taken⟩ := exists_take (enough.subset List.mem_cons_self)
      have perm := (take_eq_some taken).2.2
      have rest : keys.Subperm pool'.reduceOption :=
        (List.subperm_cons key).mp (enough.trans perm.subperm)
      unfold takes
      rw [taken]
      intro block member
      rcases List.mem_cons.mp member with rfl | member
      · rfl
      · exact ih rest block member

/-- A block that a request takes was free. -/
theorem free_of_takes {keys : List κ} {pool : List (Option κ)} {e : Nat}
    (member : some e ∈ (takes keys pool).1)
    : ∃ key, pool[e]? = some (some key) := by
  induction keys generalizing pool with
  | nil => simp [takes] at member
  | cons key keys ih =>
      unfold takes at member
      cases taken : take key pool with
      | none =>
          rw [taken] at member
          rcases List.mem_cons.mp member with same | later
          · cases same
          · exact ih later
      | some result =>
          obtain ⟨i, pool'⟩ := result
          obtain ⟨here, set, _⟩ := take_eq_some taken
          rw [taken] at member
          rcases List.mem_cons.mp member with same | later
          · cases same
            exact ⟨key, here⟩
          · obtain ⟨other, entry⟩ := ih later
            rw [set, List.getElem?_set] at entry
            split at entry
            · split at entry <;> cases entry
            · exact ⟨other, entry⟩

/-- No block is taken twice. -/
theorem takes_nodup (keys : List κ) (pool : List (Option κ))
    : (takes keys pool).1.reduceOption.Nodup := by
  induction keys generalizing pool with
  | nil => simp [takes]
  | cons key keys ih =>
      unfold takes
      cases taken : take key pool with
      | none => simpa using ih pool
      | some result =>
          obtain ⟨e, pool'⟩ := result
          obtain ⟨here, set, _⟩ := take_eq_some taken
          simp only [List.reduceOption_cons_of_some]
          refine List.nodup_cons.mpr ⟨?_, ih pool'⟩
          intro again
          obtain ⟨other, entry⟩ := free_of_takes (List.reduceOption_mem_iff.mp again)
          rw [set, List.getElem?_set_self (List.getElem?_eq_some_iff.mp here).1] at entry
          cases entry

end Pools
