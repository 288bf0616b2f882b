import XtratuM.Kernel.DynList
import XtratuM.Library.Reachability

/-! The intrusive lists as double-ended queues: the remaining operations of the lists, and runs of
operations on any number of lists and nodes.
-/

namespace XtratuM

open Reachability

variable {ι ν : Type}

/-- The contents of all lists, each from its head on. -/
abbrev Deques (ι ν : Type) : Type := ι → List ν

/-- The lists hold these nodes, and all other nodes are linked nowhere. -/
structure Represents (s : Lists ι ν) (deques : Deques ι ν) : Prop where
  holds : ∀ l, Holds s l (deques l)
  unlinked : ∀ n, (∀ l, n ∉ deques l) → Unlinked s n

variable [DecidableEq ι] [DecidableEq ν]

/-- The links `DynListInsertTail` writes. -/
def linkTail (s : Lists ι ν) (l : ι) (e : ν) : Except Stop (Lists ι ν) :=
  match (s.list l).head with
  | some head => do
      let last ← deref (s.node head).prev
      pure (s.linkIn last head e)
  | none => .ok ((s.setPrev e (some e)).setNext e (some e))

/-- `DynListInsertTail`; a node already in the list is left where it is. -/
def dynListInsertTail (s : Lists ι ν) (l : ι) (e : ν) : Except Stop (Lists ι ν) :=
  match (s.node e).list with
  | some owner => do
      assert (owner = l)
      pure s
  | none => do
      assert ((s.node e).next = none ∧ (s.node e).prev = none)
      let linked ← linkTail s l e
      let noElem := (s.list l).noElem + 1
      let head := (s.list l).head.or (some e)
      assert (0 ≤ noElem)
      pure ((linked.setList l { head, noElem }).setOwner e (some l))

/-- `DynListRemoveHead`; `none` is the null pointer returned for an empty list. -/
def dynListRemoveHead (s : Lists ι ν) (l : ι) : Except Stop (Option ν × Lists ι ν) :=
  match (s.list l).head with
  | none => do
      assert (0 ≤ (s.list l).noElem)
      pure (none, s)
  | some e => do
      let before ← deref (s.node e).prev
      let after ← deref (s.node e).next
      let linked := s.linkOut before after e
      let noElem := (s.list l).noElem - 1
      let head := if noElem = 0 then none else some after
      assert (0 ≤ noElem)
      pure (some e, (linked.setOwner e none).setList l { head, noElem })

/-- `DynListRemoveElement`. -/
def dynListRemoveElement (s : Lists ι ν) (l : ι) (e : ν) : Except Stop (Lists ι ν) := do
  assert ((s.node e).list = some l)
  assert ((s.node e).prev ≠ none ∧ (s.node e).next ≠ none)
  let before ← deref (s.node e).prev
  let after ← deref (s.node e).next
  let linked := s.linkOut before after e
  let noElem := (s.list l).noElem - 1
  let head := if (s.list l).head = some e then some after else (s.list l).head
  let head := if noElem = 0 then none else head
  assert (0 ≤ noElem)
  pure ((linked.setOwner e none).setList l { head, noElem })

inductive DequeOp (ι ν : Type)
  | insertHead (l : ι) (e : ν)
  | insertTail (l : ι) (e : ν)
  | removeHead (l : ι)
  | removeTail (l : ι)
  | removeElement (l : ι) (e : ν)

/-- What the operation does to the lists, and the node it returns. -/
def DequeOp.run (s : Lists ι ν) : DequeOp ι ν → Except Stop (Option ν × Lists ι ν)
  | .insertHead l e => (dynListInsertHead s l e).map (none, ·)
  | .insertTail l e => (dynListInsertTail s l e).map (none, ·)
  | .removeHead l => dynListRemoveHead s l
  | .removeTail l => dynListRemoveTail s l
  | .removeElement l e => (dynListRemoveElement s l e).map (none, ·)

/-- What it does to a deque. -/
def DequeOp.spec (deques : Deques ι ν) : DequeOp ι ν → Option ν × Deques ι ν
  | .insertHead l e => (none, Function.update deques l (e :: deques l))
  | .insertTail l e => (none, Function.update deques l (deques l ++ [e]))
  | .removeHead l => ((deques l).head?, Function.update deques l (deques l).tail)
  | .removeTail l => ((deques l).getLast?, Function.update deques l (deques l).dropLast)
  | .removeElement l e => (none, Function.update deques l ((deques l).erase e))

/-- Insertions are of unlinked nodes, and what is removed by name is a member. -/
def DequeOp.Allowed (s : Lists ι ν) : DequeOp ι ν → Prop
  | .insertHead _ e => Unlinked s e
  | .insertTail _ e => Unlinked s e
  | .removeHead _ => True
  | .removeTail _ => True
  | .removeElement l e => (s.node e).list = some l

-----------------------------------------------------------------------------------------
-- Operations

omit [DecidableEq ι] in
theorem linkTail_of_linkHead {s linked : Lists ι ν} {l : ι} {e : ν}
    (returned : linkHead s l e = .ok linked)
    : linkTail s l e = .ok linked := by
  unfold linkHead at returned
  unfold linkTail
  cases starts : (s.list l).head with
  | some head =>
      simp only [starts] at returned ⊢
      obtain ⟨_, _, returned⟩ := bind_eq_ok.mp returned
      exact returned
  | none =>
      simp only [starts] at returned ⊢
      obtain ⟨_, _, returned⟩ := bind_eq_ok.mp returned
      exact returned

/-- `DynListInsertTail` puts an unlinked node behind what the list holds. -/
theorem dynListInsertTail_holds {s : Lists ι ν} {l : ι} {nodes : List ν} {e : ν}
    (holds : Holds s l nodes) (fresh : Unlinked s e)
    : ∃ s', dynListInsertTail s l e = .ok s' ∧ Holds s' l (nodes ++ [e]) ∧ Frame s s' l e := by
  have outside := holds.outside fresh
  have count : (s.list l).noElem = nodes.length := holds.noElem_eq
  obtain ⟨linked, link, relinked, circle⟩ := linkHead_holds holds outside
  have perm : (nodes ++ [e]).Perm (e :: nodes) := List.perm_append_singleton e nodes
  obtain ⟨after, frame⟩ :=
    relinked.insert holds outside perm (Ring.Links.circle_rotate.mp circle)
  have head : (s.list l).head.or (some e) = (nodes ++ [e]).head? := by
    rw [holds.head_eq, List.head?_append]
    rfl
  rw [← head] at after frame
  refine ⟨_, ?_, after, frame⟩
  simp only [dynListInsertTail, fresh.list, fresh.next, fresh.prev, linkTail_of_linkHead link]
  rw [assert_of (by simp), assert_of (by omega)]
  rfl

/-- `DynListRemoveHead` takes the first node a list holds, and clears it. -/
theorem dynListRemoveHead_holds {s : Lists ι ν} {l : ι} {first : ν} {rest : List ν}
    (holds : Holds s l (first :: rest))
    : ∃ s', dynListRemoveHead s l = .ok (some first, s')
      ∧ Holds s' l rest ∧ Unlinked s' first ∧ Frame s s' l first := by
  have listed : Holds s l ([] ++ first :: rest) := holds
  obtain ⟨head, p, n, starts, prev, next, positive, after⟩ := listed.linkOut
  cases starts.symm.trans holds.head_eq
  rw [if_pos rfl] at after
  refine ⟨_, ?_, after⟩
  simp only [dynListRemoveHead, starts, prev, next, deref_some, ok_bind]
  rw [assert_of positive]
  rfl

theorem dynListRemoveHead_empty {s : Lists ι ν} {l : ι} (holds : Holds s l [])
    : dynListRemoveHead s l = .ok (none, s) := by
  have head : (s.list l).head = none := holds.head_eq
  have count : (s.list l).noElem = 0 := holds.noElem_eq
  simp only [dynListRemoveHead, head]
  rw [assert_of (by omega)]
  rfl

/-- `DynListRemoveElement` takes a node out from wherever it is in a list, and clears it. -/
theorem dynListRemoveElement_holds {s : Lists ι ν} {l : ι} {before after : List ν} {e : ν}
    (holds : Holds s l (before ++ e :: after))
    : ∃ s', dynListRemoveElement s l e = .ok s'
      ∧ Holds s' l (before ++ after) ∧ Unlinked s' e ∧ Frame s s' l e := by
  obtain ⟨first, p, n, head, prev, next, positive, after'⟩ := holds.linkOut
  have owner : (s.node e).list = some l := holds.owned e (by simp)
  have head' : (if (s.list l).head = some e then some n else (s.list l).head)
      = some (if first = e then n else first) := by
    rw [head]
    by_cases same : first = e
    · simp [same]
    · simp [same]
  refine ⟨_, ?_, after'⟩
  simp only [dynListRemoveElement, owner, prev, next, deref_some, ok_bind, head']
  rw [assert_of trivial, assert_of (by simp), assert_of positive]
  rfl

-----------------------------------------------------------------------------------------
-- Steps

/-- An operation on one list changes its contents, and for one node whether it is in it. -/
theorem Represents.update {s s' : Lists ι ν} {deques : Deques ι ν} {l : ι} {nodes : List ν} {e : ν}
    (represents : Represents s deques) (holds : Holds s' l nodes) (frame : Frame s s' l e)
    (others : ∀ l', l' ≠ l → e ∉ deques l') (kept : ∀ n, n ≠ e → n ∈ deques l → n ∈ nodes)
    (gone : e ∉ nodes → Unlinked s' e)
    : Represents s' (Function.update deques l nodes) := by
  refine { holds := ?_, unlinked := ?_ }
  · intro l'
    by_cases same : l' = l
    · subst same
      rwa [Function.update_self]
    · rw [Function.update_of_ne same]
      exact frame.others l' _ same (others l' same) (represents.holds l')
  · intro n nowhere
    have here := nowhere l
    rw [Function.update_self] at here
    by_cases same : n = e
    · subst same
      exact gone here
    · refine frame.unlinked n same (represents.unlinked n ?_)
      intro l' member
      by_cases list : l' = l
      · subst list
        exact here (kept n same member)
      · have elsewhere := nowhere l'
        rw [Function.update_of_ne list] at elsewhere
        exact elsewhere member

omit [DecidableEq ι] [DecidableEq ν] in
/-- A member of one list is in no other. -/
theorem Represents.elsewhere {s : Lists ι ν} {deques : Deques ι ν}
    (represents : Represents s deques) {l : ι} {e : ν} (member : e ∈ deques l)
    : ∀ l', l' ≠ l → e ∉ deques l' :=
  fun l' other member' =>
    (represents.holds l).disjoint (represents.holds l') other member' member

omit [DecidableEq ι] in
/-- The list field of a node names the list it is in, if it is in any. -/
theorem Represents.owner {s : Lists ι ν} {deques : Deques ι ν} (represents : Represents s deques)
    {l : ι} {e : ν}
    : (s.node e).list = some l ↔ e ∈ deques l := by
  constructor
  · intro owner
    by_contra outside
    by_cases somewhere : ∃ l', e ∈ deques l'
    · obtain ⟨l', member⟩ := somewhere
      have same := ((represents.holds l').owned e member).symm.trans owner
      cases same
      exact outside member
    · have fresh := represents.unlinked e (by simpa using somewhere)
      rw [fresh.list] at owner
      cases owner
  · exact (represents.holds l).owned e

/-- Every allowed operation returns, with what its specification returns, and leaves the lists
with the contents it specifies.
-/
theorem DequeOp.run_spec {s : Lists ι ν} {deques : Deques ι ν} (represents : Represents s deques)
    {op : DequeOp ι ν} (allowed : op.Allowed s)
    : ∃ s', op.run s = .ok ((op.spec deques).1, s') ∧ Represents s' (op.spec deques).2 := by
  cases op with
  | insertHead l e =>
      obtain ⟨s', returned, holds, frame⟩ := dynListInsertHead_holds (represents.holds l) allowed
      refine ⟨s', ?_, ?_⟩
      · rw [DequeOp.run, returned]
        rfl
      · refine represents.update holds frame ?_ ?_ ?_
        · exact fun l' _ => (represents.holds l').outside allowed
        · exact fun n _ member => List.mem_cons_of_mem e member
        · exact fun absent => absurd List.mem_cons_self absent
  | insertTail l e =>
      obtain ⟨s', returned, holds, frame⟩ := dynListInsertTail_holds (represents.holds l) allowed
      refine ⟨s', ?_, ?_⟩
      · rw [DequeOp.run, returned]
        rfl
      · refine represents.update holds frame ?_ ?_ ?_
        · exact fun l' _ => (represents.holds l').outside allowed
        · exact fun n _ member => List.mem_append_left _ member
        · exact fun absent => absurd (List.mem_append_right _ (List.mem_singleton_self e)) absent
  | removeHead l =>
      have holds := represents.holds l
      cases contents : deques l with
      | nil =>
          rw [contents] at holds
          refine ⟨s, ?_, ?_⟩
          · simp only [DequeOp.run, DequeOp.spec, contents]
            exact dynListRemoveHead_empty holds
          · have same : Function.update deques l [] = deques := by
              rw [← contents, Function.update_eq_self]
            simp only [DequeOp.spec, contents, List.tail_nil, same]
            exact represents
      | cons e rest =>
          rw [contents] at holds
          obtain ⟨s', returned, after, unlinked, frame⟩ := dynListRemoveHead_holds holds
          refine ⟨s', ?_, ?_⟩
          · simp only [DequeOp.run, DequeOp.spec, contents]
            exact returned
          · simp only [DequeOp.spec, contents, List.tail_cons]
            refine represents.update after frame ?_ ?_ ?_
            · exact represents.elsewhere (contents ▸ List.mem_cons_self)
            · intro n other member
              rw [contents] at member
              exact List.mem_of_ne_of_mem other member
            · exact fun _ => unlinked
  | removeTail l =>
      have holds := represents.holds l
      rcases List.eq_nil_or_concat (deques l) with contents | ⟨front, e, contents⟩
      · rw [contents] at holds
        refine ⟨s, ?_, ?_⟩
        · simp only [DequeOp.run, DequeOp.spec, contents]
          exact dynListRemoveTail_empty holds
        · have same : Function.update deques l [] = deques := by
            rw [← contents, Function.update_eq_self]
          simp only [DequeOp.spec, contents, List.dropLast_nil, same]
          exact represents
      · rw [List.concat_eq_append] at contents
        rw [contents] at holds
        obtain ⟨s', returned, after, unlinked, frame⟩ := dynListRemoveTail_holds holds
        refine ⟨s', ?_, ?_⟩
        · simp only [DequeOp.run, DequeOp.spec, contents, List.getLast?_concat]
          exact returned
        · simp only [DequeOp.spec, contents, List.dropLast_concat]
          refine represents.update after frame ?_ ?_ ?_
          · exact represents.elsewhere (by simp [contents])
          · intro n other member
            rw [contents] at member
            simpa [other] using member
          · exact fun _ => unlinked
  | removeElement l e =>
      have member := represents.owner.mp allowed
      have holds := represents.holds l
      obtain ⟨before, after, contents⟩ := List.append_of_mem member
      rw [contents] at holds
      obtain ⟨s', returned, rest, unlinked, frame⟩ := dynListRemoveElement_holds holds
      have erased : (deques l).erase e = before ++ after := by
        have distinct := List.nodup_cons.mp (List.nodup_middle.mp holds.distinct)
        have absent : e ∉ before := fun inside =>
          distinct.1 (List.mem_append_left _ inside)
        rw [contents, List.erase_append_right _ absent, List.erase_cons_head]
      refine ⟨s', ?_, ?_⟩
      · rw [DequeOp.run, returned]
        rfl
      · simp only [DequeOp.spec, erased]
        refine represents.update rest frame (represents.elsewhere member) ?_ ?_
        · intro n other inside
          rw [contents] at inside
          simpa [other] using inside
        · exact fun _ => unlinked

-----------------------------------------------------------------------------------------
-- Runs

/-- An operation that is allowed, with the node it returns. -/
def DequeNext (s : Lists ι ν) (label : DequeOp ι ν × Option ν) (s' : Lists ι ν) : Prop :=
  label.1.Allowed s ∧ label.1.run s = .ok (label.2, s')

/-- The deques after a history. -/
def dequesAfter : List (DequeOp ι ν × Option ν) → Deques ι ν
  | [] => fun _ => []
  | (op, _) :: past => (op.spec (dequesAfter past)).2

/-- Every node that was returned is the one its deque had at that end. -/
def RepliesRight (past : List (DequeOp ι ν × Option ν)) : Prop :=
  ∀ newer op reply older, past = newer ++ (op, reply) :: older →
    reply = (op.spec (dequesAfter older)).1

/-- All lists are as `DynListInit` leaves them and all nodes are cleared. -/
structure Cleared (s : Lists ι ν) : Prop where
  list : ∀ l, s.list l = { head := none, noElem := 0 }
  node : ∀ n, Unlinked s n

omit [DecidableEq ι] [DecidableEq ν] in
theorem Cleared.represents {s : Lists ι ν} (cleared : Cleared s) : Represents s fun _ => [] := by
  refine { holds := ?_, unlinked := fun n _ => cleared.node n }
  intro l
  refine
    { distinct := List.nodup_nil, circle := trivial, head_eq := ?_, noElem_eq := ?_
      owned := ?_ }
  · rw [cleared.list]
    rfl
  · rw [cleared.list]
    rfl
  · intro n member
    cases member

/-- After every run of insertions of unlinked nodes and removals the lists are the deques of that
run, their nodes are in one list at most, which they name, and every removal has returned what the
deque had at that end; the next operation returns as well.
-/
theorem lists_are_deques {start s : Lists ι ν} {past : List (DequeOp ι ν × Option ν)}
    (cleared : Cleared start) (run : Reach DequeNext start past s)
    : Represents s (dequesAfter past) ∧ RepliesRight past
      ∧ (∀ n l, (s.node n).list = some l ↔ n ∈ dequesAfter past l)
      ∧ ∀ op : DequeOp ι ν, op.Allowed s → ∃ reply s', op.run s = .ok (reply, s') := by
  obtain ⟨represents, replies⟩ : Represents s (dequesAfter past) ∧ RepliesRight past := by
    refine run.preserves (P := fun past s => Represents s (dequesAfter past) ∧ RepliesRight past)
      ⟨cleared.represents, ?_⟩ ?_
    · intro newer op reply older split
      simp at split
    · rintro past s ⟨op, reply⟩ s' ⟨represents, replies⟩ ⟨allowed, ran⟩
      obtain ⟨t, returned, after⟩ := DequeOp.run_spec represents allowed
      obtain ⟨replied, rfl⟩ := Prod.mk.inj (Except.ok.inj (returned.symm.trans ran))
      refine ⟨after, ?_⟩
      intro newer op' reply' older split
      cases newer with
      | nil =>
          obtain ⟨label, rfl⟩ := List.cons.inj split
          obtain ⟨rfl, rfl⟩ := Prod.mk.inj label
          exact replied.symm
      | cons first newer => exact replies newer op' reply' older (List.cons.inj split).2
  refine ⟨represents, replies, ?_, ?_⟩
  · exact fun n l => represents.owner
  · intro op allowed
    obtain ⟨t, returned, _⟩ := DequeOp.run_spec represents allowed
    exact ⟨_, t, returned⟩

def clearedLists : Lists Bool Nat where
  node _ := { list := none, prev := none, next := none }
  list _ := { head := none, noElem := 0 }

theorem clearedLists_cleared : Cleared clearedLists where
  list _ := rfl
  node _ := ⟨rfl, rfl, rfl⟩

/-- Two nodes go into one list, a third one into another, and the older of the two comes out. -/
theorem clearedLists_run
    : ∃ s, Reach DequeNext clearedLists [(.removeTail true, some 0), (.insertTail false 2, none),
        (.insertHead true 1, none), (.insertTail true 0, none)] s := by
  refine ⟨_, .step (.step (.step (.step .start ⟨?_, rfl⟩) ⟨?_, rfl⟩) ⟨?_, rfl⟩) ⟨trivial, rfl⟩⟩
  · exact ⟨rfl, rfl, rfl⟩
  · exact ⟨rfl, rfl, rfl⟩
  · exact ⟨rfl, rfl, rfl⟩

theorem lists_are_deques_two
    : ∃ s, Represents s (dequesAfter [(.removeTail true, some 0), (.insertTail false 2, none),
        (.insertHead true 1, none), (.insertTail true 0, none)]) := by
  obtain ⟨s, run⟩ := clearedLists_run
  exact ⟨s, (lists_are_deques clearedLists_cleared run).1⟩

end XtratuM
