import XtratuM.Kernel.Base
import XtratuM.Library.Ring

/-! The intrusive lists of the kernel: `DynListInsertHead` and `DynListRemoveTail` over
any lists and nodes, and what they do to the sequence of nodes a list holds.
-/

namespace XtratuM

open Ring

/-- `struct dynListNode`; pointers are the identifiers of lists and nodes. -/
structure DynListNode (ι ν : Type) where
  list : Option ι
  prev : Option ν
  next : Option ν

/-- `struct dynList`. -/
structure DynList (ν : Type) where
  head : Option ν
  noElem : Int

/-- All lists and nodes of some part of the kernel. -/
structure Lists (ι ν : Type) where
  node : ν → DynListNode ι ν
  list : ι → DynList ν

variable {ι ν : Type}

/-- Follows a pointer that the code takes to be set. -/
def deref (pointer : Option ν) : Except Stop ν :=
  match pointer with
  | some n => .ok n
  | none => .error .badAccess

@[simp] theorem deref_some (n : ν) : deref (some n) = .ok n :=
  rfl

/-- The link fields of the nodes. -/
def Lists.links (s : Lists ι ν) : Links ν where
  next n := (s.node n).next
  prev n := (s.node n).prev

/-- List `l` holds exactly these nodes, from its head on. -/
structure Holds (s : Lists ι ν) (l : ι) (nodes : List ν) : Prop where
  distinct : nodes.Nodup
  circle : s.links.Circle nodes
  head_eq : (s.list l).head = nodes.head?
  noElem_eq : (s.list l).noElem = nodes.length
  owned : ∀ n ∈ nodes, (s.node n).list = some l

/-- A node no list holds, with its fields cleared. -/
structure Unlinked (s : Lists ι ν) (n : ν) : Prop where
  list : (s.node n).list = none
  prev : (s.node n).prev = none
  next : (s.node n).next = none

/-- Two states agree on a list and on its nodes, so both hold the same there. -/
theorem Holds.congr {s s' : Lists ι ν} {l : ι} {nodes : List ν} (holds : Holds s l nodes)
    (list : s'.list l = s.list l) (same : ∀ n ∈ nodes, s'.node n = s.node n)
    : Holds s' l nodes where
  distinct := holds.distinct
  circle := holds.circle.congr fun n member => by simp [Lists.links, same n member]
  head_eq := by rw [list, holds.head_eq]
  noElem_eq := by rw [list, holds.noElem_eq]
  owned n member := by rw [same n member, holds.owned n member]

/-- Two lists hold no node in common. -/
theorem Holds.disjoint {s : Lists ι ν} {l l' : ι} {nodes others : List ν}
    (holds : Holds s l nodes) (holds' : Holds s l' others) (other : l' ≠ l) {n : ν}
    (member : n ∈ others)
    : n ∉ nodes := by
  intro inside
  exact other (Option.some.inj ((holds'.owned n member).symm.trans (holds.owned n inside)))

/-- An operation on list `l` with node `e` leaves every other list and every other unlinked
node as it was.
-/
structure Frame (s s' : Lists ι ν) (l : ι) (e : ν) : Prop where
  others : ∀ l' nodes, l' ≠ l → e ∉ nodes → Holds s l' nodes → Holds s' l' nodes
  unlinked : ∀ n, n ≠ e → Unlinked s n → Unlinked s' n

/-- An operation that only touches nodes of `l` and `e` keeps the frame. -/
theorem Frame.of_touched {s s' : Lists ι ν} {l : ι} {e : ν} {nodes : List ν}
    (holds : Holds s l nodes) (list : ∀ l', l' ≠ l → s'.list l' = s.list l')
    (node : ∀ n, n ≠ e → n ∉ nodes → s'.node n = s.node n)
    : Frame s s' l e := by
  refine { others := ?_, unlinked := ?_ }
  · intro l' others other fresh holds'
    refine holds'.congr (list l' other) ?_
    intro n member
    exact node n (fun same => fresh (same ▸ member)) (holds.disjoint holds' other member)
  · intro n other unlinked
    have outside : n ∉ nodes := by
      intro inside
      have owner := holds.owned n inside
      rw [unlinked.list] at owner
      cases owner
    have same := node n other outside
    exact
      { list := by rw [same, unlinked.list], prev := by rw [same, unlinked.prev]
        next := by rw [same, unlinked.next] }

-----------------------------------------------------------------------------------------
-- Field updates

section Nodes

variable [DecidableEq ν]

def Lists.setNext (s : Lists ι ν) (n : ν) (next : Option ν) : Lists ι ν :=
  { s with node := Function.update s.node n { s.node n with next } }

def Lists.setPrev (s : Lists ι ν) (n : ν) (prev : Option ν) : Lists ι ν :=
  { s with node := Function.update s.node n { s.node n with prev } }

def Lists.setOwner (s : Lists ι ν) (n : ν) (list : Option ι) : Lists ι ν :=
  { s with node := Function.update s.node n { s.node n with list } }

@[simp] theorem setNext_links (s : Lists ι ν) (n : ν) (next : Option ν)
    : (s.setNext n next).links
      = { s.links with next := Function.update s.links.next n next } := by
  simp only [Lists.links, Lists.setNext, Links.mk.injEq]
  constructor <;> ext m : 1 <;> by_cases same : m = n <;> simp [Function.update, same]

@[simp] theorem setPrev_links (s : Lists ι ν) (n : ν) (prev : Option ν)
    : (s.setPrev n prev).links
      = { s.links with prev := Function.update s.links.prev n prev } := by
  simp only [Lists.links, Lists.setPrev, Links.mk.injEq]
  constructor <;> ext m : 1 <;> by_cases same : m = n <;> simp [Function.update, same]

@[simp] theorem setOwner_links (s : Lists ι ν) (n : ν) (list : Option ι)
    : (s.setOwner n list).links = s.links := by
  simp only [Lists.links, Lists.setOwner, Links.mk.injEq]
  constructor <;> ext m : 1 <;> by_cases same : m = n <;> simp [Function.update, same]

end Nodes

def Lists.setList [DecidableEq ι] (s : Lists ι ν) (l : ι) (list : DynList ν) : Lists ι ν :=
  { s with list := Function.update s.list l list }

@[simp] theorem setList_links [DecidableEq ι] (s : Lists ι ν) (l : ι) (list : DynList ν)
    : (s.setList l list).links = s.links :=
  rfl

-----------------------------------------------------------------------------------------
-- Operations

variable [DecidableEq ι] [DecidableEq ν]

/-- `DynListInit`. -/
def dynListInit (s : Lists ι ν) (l : ι) : Lists ι ν :=
  s.setList l { head := none, noElem := 0 }

/-- The four link assignments of an insertion between two nodes of a list. -/
def Lists.linkIn (s : Lists ι ν) (before after e : ν) : Lists ι ν :=
  (((s.setNext e (some after)).setPrev e (some before)).setNext before (some e)).setPrev
    after (some e)

/-- The link assignments that take a node out from between its neighbours. -/
def Lists.linkOut (s : Lists ι ν) (before after e : ν) : Lists ι ν :=
  (((s.setNext before (some after)).setPrev after (some before)).setPrev e none).setNext e
    none

/-- The link fields `DynListInsertHead` writes, by whether the list has a head. -/
def linkHead (s : Lists ι ν) (l : ι) (e : ν) : Except Stop (Lists ι ν) :=
  match (s.list l).head with
  | some head => do
      assert (0 < (s.list l).noElem)
      let last ← deref (s.node head).prev
      pure (s.linkIn last head e)
  | none => do
      assert ((s.list l).noElem = 0)
      pure ((s.setPrev e (some e)).setNext e (some e))

/-- `DynListInsertHead`; a node already in the list is left where it is. -/
def dynListInsertHead (s : Lists ι ν) (l : ι) (e : ν) : Except Stop (Lists ι ν) :=
  match (s.node e).list with
  | some owner => do
      assert (owner = l)
      pure s
  | none => do
      assert ((s.node e).next = none ∧ (s.node e).prev = none)
      let linked ← linkHead s l e
      let noElem := (s.list l).noElem + 1
      assert (0 ≤ noElem)
      pure ((linked.setList l { head := some e, noElem }).setOwner e (some l))

/-- `DynListRemoveTail`; `none` is the null pointer returned for an empty list. -/
def dynListRemoveTail (s : Lists ι ν) (l : ι) : Except Stop (Option ν × Lists ι ν) :=
  match (s.list l).head with
  | none => do
      assert (0 ≤ (s.list l).noElem)
      pure (none, s)
  | some head => do
      let e ← deref (s.node head).prev
      let before ← deref (s.node e).prev
      let after ← deref (s.node e).next
      let linked := s.linkOut before after e
      let noElem := (s.list l).noElem - 1
      let head := if noElem = 0 then none else some head
      assert (0 ≤ noElem)
      pure (some e, (linked.setOwner e none).setList l { head, noElem })

-----------------------------------------------------------------------------------------
-- Effects on held nodes

/-- The link fields of the nodes of one list and of one more node were rewritten. -/
structure Relinked (s linked : Lists ι ν) (e : ν) (nodes : List ν) : Prop where
  list : linked.list = s.list
  owner : ∀ n, (linked.node n).list = (s.node n).list
  node : ∀ n, n ≠ e → n ∉ nodes → linked.node n = s.node n

omit [DecidableEq ι] in
theorem Relinked.setNext {s linked : Lists ι ν} {e : ν} {nodes : List ν}
    (relinked : Relinked s linked e nodes) {n : ν} (inside : n = e ∨ n ∈ nodes)
    (next : Option ν)
    : Relinked s (linked.setNext n next) e nodes := by
  refine { list := relinked.list, owner := ?_, node := ?_ }
  · intro m
    by_cases same : m = n
    · subst same
      simpa [Lists.setNext] using relinked.owner m
    · simpa [Lists.setNext, Function.update_of_ne same] using relinked.owner m
  · intro m other outside
    have untouched : m ≠ n := by
      rintro rfl
      exact inside.elim other outside
    simpa [Lists.setNext, Function.update_of_ne untouched] using relinked.node m other outside

omit [DecidableEq ι] in
theorem Relinked.setPrev {s linked : Lists ι ν} {e : ν} {nodes : List ν}
    (relinked : Relinked s linked e nodes) {n : ν} (inside : n = e ∨ n ∈ nodes)
    (prev : Option ν)
    : Relinked s (linked.setPrev n prev) e nodes := by
  refine { list := relinked.list, owner := ?_, node := ?_ }
  · intro m
    by_cases same : m = n
    · subst same
      simpa [Lists.setPrev] using relinked.owner m
    · simpa [Lists.setPrev, Function.update_of_ne same] using relinked.owner m
  · intro m other outside
    have untouched : m ≠ n := by
      rintro rfl
      exact inside.elim other outside
    simpa [Lists.setPrev, Function.update_of_ne untouched] using relinked.node m other outside

omit [DecidableEq ι] [DecidableEq ν] in
theorem Relinked.refl (s : Lists ι ν) (e : ν) (nodes : List ν) : Relinked s s e nodes where
  list := rfl
  owner _ := rfl
  node _ _ _ := rfl

/-- Owning a relinked node completes an insertion, at either end of a list. -/
theorem Relinked.insert {s linked : Lists ι ν} {l : ι} {nodes inserted : List ν} {e : ν}
    (relinked : Relinked s linked e nodes) (holds : Holds s l nodes) (outside : e ∉ nodes)
    (perm : inserted.Perm (e :: nodes)) (circle : linked.links.Circle inserted)
    : let s' := (linked.setList l
          { head := inserted.head?, noElem := (s.list l).noElem + 1 }).setOwner e (some l)
      Holds s' l inserted ∧ Frame s s' l e := by
  intro s'
  have node : ∀ n, n ≠ e → s'.node n = linked.node n := by
    intro n other
    simp [s', Lists.setOwner, Lists.setList, Function.update_of_ne other]
  constructor
  · refine { distinct := ?_, circle := ?_, head_eq := ?_, noElem_eq := ?_, owned := ?_ }
    · exact perm.nodup_iff.mpr (List.nodup_cons.mpr ⟨outside, holds.distinct⟩)
    · simpa only [s', setOwner_links, setList_links] using circle
    · simp [s', Lists.setOwner, Lists.setList]
    · simp [s', Lists.setOwner, Lists.setList, holds.noElem_eq, perm.length_eq]
    · intro n member
      by_cases same : n = e
      · subst same
        simp [s', Lists.setOwner]
      · rw [node n same, relinked.owner n]
        exact holds.owned n (List.mem_of_ne_of_mem same (perm.mem_iff.mp member))
  · refine Frame.of_touched holds ?_ ?_
    · intro l' other
      simp [s', Lists.setOwner, Lists.setList, Function.update_of_ne other, relinked.list]
    · intro n other outside
      rw [node n other, relinked.node n other outside]

omit [DecidableEq ι] [DecidableEq ν] in
/-- A list that holds some nodes does not hold an unlinked one. -/
theorem Holds.outside {s : Lists ι ν} {l : ι} {nodes : List ν} {e : ν} (holds : Holds s l nodes)
    (fresh : Unlinked s e)
    : e ∉ nodes := by
  intro inside
  have owner := holds.owned e inside
  rw [fresh.list] at owner
  cases owner

omit [DecidableEq ι] in
/-- The code links a node in between the last and the first one of a list, or with itself. -/
theorem linkHead_holds {s : Lists ι ν} {l : ι} {nodes : List ν} {e : ν}
    (holds : Holds s l nodes) (outside : e ∉ nodes)
    : ∃ linked, linkHead s l e = .ok linked ∧ Relinked s linked e nodes
      ∧ linked.links.Circle (e :: nodes) := by
  have count : (s.list l).noElem = nodes.length := holds.noElem_eq
  rcases List.eq_nil_or_concat nodes with rfl | ⟨front, last, rfl⟩
  · have empty : (s.list l).head = none := holds.head_eq
    refine ⟨(s.setPrev e (some e)).setNext e (some e), ?_, ?_, ?_⟩
    · simp [linkHead, empty, count]
    · exact ((Relinked.refl s e []).setPrev (Or.inl rfl) _).setNext (Or.inl rfl) _
    · exact Links.circle_single (by simp) (by simp)
  · rw [List.concat_eq_append] at *
    obtain ⟨first, starts⟩ : ∃ first, (front ++ [last]).head? = some first := by
      cases front <;> simp
    have head : (s.list l).head = some first := holds.head_eq.trans starts
    have before : (s.node first).prev = some last := holds.circle.prev_first starts
    have hlast : last ∈ front ++ [last] := by simp
    have hfirst : first ∈ front ++ [last] := List.mem_of_head? starts
    refine ⟨s.linkIn last first e, ?_, ?_, ?_⟩
    · simp only [linkHead, head, before, deref, count]
      rw [assert_of (by simp)]
      rfl
    · exact ((((Relinked.refl s e _).setNext (Or.inl rfl) _).setPrev (Or.inl rfl) _).setNext
        (Or.inr hlast) _).setPrev (Or.inr hfirst) _
    · simpa only [Lists.linkIn, setNext_links, setPrev_links, Links.linkIn]
        using holds.circle.linkIn starts holds.distinct outside

/-- `DynListInsertHead` puts an unlinked node in front of what the list holds. -/
theorem dynListInsertHead_holds {s : Lists ι ν} {l : ι} {nodes : List ν} {e : ν}
    (holds : Holds s l nodes) (fresh : Unlinked s e)
    : ∃ s', dynListInsertHead s l e = .ok s' ∧ Holds s' l (e :: nodes) ∧ Frame s s' l e := by
  have outside := holds.outside fresh
  have count : (s.list l).noElem = nodes.length := holds.noElem_eq
  obtain ⟨linked, link, relinked, circle⟩ := linkHead_holds holds outside
  obtain ⟨after, frame⟩ := relinked.insert holds outside (List.Perm.refl _) circle
  refine ⟨_, ?_, after, frame⟩
  simp only [dynListInsertHead, fresh.list, fresh.next, fresh.prev, link]
  rw [assert_of (by simp), assert_of (by omega)]
  rfl

/-- Disowning a node taken out of a list completes a removal. -/
theorem Relinked.remove {s linked : Lists ι ν} {l : ι} {before after : List ν} {e : ν}
    (relinked : Relinked s linked e (before ++ e :: after))
    (holds : Holds s l (before ++ e :: after))
    (circle : linked.links.Circle (before ++ after))
    (cleared : (linked.node e).prev = none ∧ (linked.node e).next = none)
    : let s' := (linked.setOwner e none).setList l
        { head := (before ++ after).head?, noElem := (s.list l).noElem - 1 }
      Holds s' l (before ++ after) ∧ Unlinked s' e ∧ Frame s s' l e := by
  intro s'
  obtain ⟨outside, distinct⟩ := List.nodup_cons.mp (List.nodup_middle.mp holds.distinct)
  have node : ∀ n, n ≠ e → s'.node n = linked.node n := by
    intro n other
    simp [s', Lists.setOwner, Lists.setList, Function.update_of_ne other]
  refine ⟨?_, ?_, ?_⟩
  · refine { distinct, circle := ?_, head_eq := ?_, noElem_eq := ?_, owned := ?_ }
    · simpa only [s', setOwner_links, setList_links] using circle
    · simp [s', Lists.setOwner, Lists.setList]
    · simp [s', Lists.setOwner, Lists.setList, holds.noElem_eq]
      omega
    · intro n member
      have other : n ≠ e := fun same => outside (same ▸ member)
      have inside : n ∈ before ++ e :: after := by
        rcases List.mem_append.mp member with first | second
        · exact List.mem_append_left _ first
        · exact List.mem_append_right _ (List.mem_cons_of_mem e second)
      rw [node n other, relinked.owner n]
      exact holds.owned n inside
  · exact
      { list := by simp [s', Lists.setOwner, Lists.setList]
        prev := by simp [s', Lists.setOwner, Lists.setList, cleared.1]
        next := by simp [s', Lists.setOwner, Lists.setList, cleared.2] }
  · refine Frame.of_touched holds ?_ ?_
    · intro l' other
      simp [s', Lists.setOwner, Lists.setList, Function.update_of_ne other, relinked.list]
    · intro n other outside
      rw [node n other, relinked.node n other outside]

omit [DecidableEq ι] in
/-- Taking a node out clears its link fields. -/
theorem linkOut_cleared (s : Lists ι ν) (before after e : ν)
    : ((s.linkOut before after e).node e).prev = none
      ∧ ((s.linkOut before after e).node e).next = none := by
  simp [Lists.linkOut, Lists.setNext, Lists.setPrev]

omit [DecidableEq ι] in
/-- The neighbours of a node in a list, and the circle left without it. -/
theorem Holds.neighbours {s : Lists ι ν} {l : ι} {before after : List ν} {e : ν}
    (holds : Holds s l (before ++ e :: after))
    : ∃ p n, p ∈ before ++ e :: after ∧ (s.node e).prev = some p ∧ (s.node e).next = some n
      ∧ (after ++ before ++ [e]).head? = some n
      ∧ (s.linkOut p n e).links.Circle (before ++ after) := by
  have circle : s.links.Circle (after ++ before ++ [e]) := by
    rw [← Links.circle_rotate, ← List.cons_append, ← Links.circle_comm]
    exact holds.circle
  have distinct : (after ++ before ++ [e]).Nodup := by
    have rotated := List.nodup_append_comm.mp holds.distinct
    rw [List.cons_append] at rotated
    exact List.nodup_middle.mpr (by rwa [List.append_nil])
  simp only [Links.circle_comm before after]
  rcases List.eq_nil_or_concat (after ++ before) with alone | ⟨front, p, shape⟩
  · rw [alone] at circle ⊢
    have around := List.isChain_pair.mp circle
    refine ⟨e, e, ?_, around.prev, around.next, rfl, trivial⟩
    exact List.mem_append_right _ List.mem_cons_self
  · rw [List.concat_eq_append] at shape
    have inside : p ∈ before ++ e :: after := by
      have member : p ∈ after ++ before := by simp [shape]
      rcases List.mem_append.mp member with second | first
      · exact List.mem_append_right _ (List.mem_cons_of_mem e second)
      · exact List.mem_append_left _ first
    rw [shape] at circle distinct ⊢
    obtain ⟨n, starts⟩ : ∃ n, (front ++ [p]).head? = some n := by
      cases front <;> simp
    obtain ⟨entering, closing, around⟩ := circle.linkOut starts distinct
    refine ⟨p, n, inside, entering.prev, closing.next, ?_, ?_⟩
    · rw [List.head?_append_of_ne_nil _ (by simp), starts]
    · simpa only [Lists.linkOut, setNext_links, setPrev_links, Links.linkOut] using around

/-- The node at the head once a node has been taken out: the one after it, if it was there. -/
theorem head_without {before after : List ν} {e first n : ν}
    (distinct : (before ++ e :: after).Nodup)
    (starts : (before ++ e :: after).head? = some first)
    (next : (after ++ before ++ [e]).head? = some n)
    : (if ((before ++ e :: after).length : Int) - 1 = 0 then none
        else some (if first = e then n else first))
      = (before ++ after).head? := by
  cases before with
  | nil =>
      cases starts
      cases after with
      | nil => rfl
      | cons second after =>
          cases next
          rw [if_neg (by simp; omega), if_pos rfl]
          rfl
  | cons head before =>
      cases starts
      have other : first ≠ e := by
        rintro rfl
        exact (List.nodup_cons.mp distinct).1 (List.mem_append_right _ List.mem_cons_self)
      rw [if_neg (by simp; omega), if_neg other]
      rfl

/-- Linking out and disowning a node of a list takes it from the list. -/
theorem Holds.linkOut {s : Lists ι ν} {l : ι} {before after : List ν} {e : ν}
    (holds : Holds s l (before ++ e :: after))
    : ∃ first p n, (s.list l).head = some first ∧ (s.node e).prev = some p
      ∧ (s.node e).next = some n ∧ 0 ≤ (s.list l).noElem - 1
      ∧ let s' := ((s.linkOut p n e).setOwner e none).setList l
          { head := if (s.list l).noElem - 1 = 0 then none
              else some (if first = e then n else first)
            noElem := (s.list l).noElem - 1 }
        Holds s' l (before ++ after) ∧ Unlinked s' e ∧ Frame s s' l e := by
  obtain ⟨p, n, hp, prev, next, follows, circle⟩ := holds.neighbours
  obtain ⟨first, starts⟩ : ∃ first, (before ++ e :: after).head? = some first := by
    cases before <;> simp
  have hn : n ∈ before ++ e :: after := by
    have member := List.mem_of_head? follows
    simp only [List.mem_append, List.mem_cons, List.not_mem_nil, or_false] at member ⊢
    tauto
  have count : (s.list l).noElem = (before ++ e :: after).length := holds.noElem_eq
  have relinked : Relinked s (s.linkOut p n e) e (before ++ e :: after) :=
    ((((Relinked.refl s e _).setNext (Or.inr hp) _).setPrev (Or.inr hn) _).setPrev
      (Or.inl rfl) _).setNext (Or.inl rfl) _
  refine ⟨first, p, n, holds.head_eq.trans starts, prev, next, ?_, ?_⟩
  · rw [count, List.length_append, List.length_cons]
    omega
  · have head := head_without holds.distinct starts follows
    rw [← count] at head
    rw [head]
    exact relinked.remove holds circle (linkOut_cleared s p n e)

/-- `DynListRemoveTail` takes the last node a list holds, and clears it. -/
theorem dynListRemoveTail_holds {s : Lists ι ν} {l : ι} {front : List ν} {last : ν}
    (holds : Holds s l (front ++ [last]))
    : ∃ s', dynListRemoveTail s l = .ok (some last, s')
      ∧ Holds s' l front ∧ Unlinked s' last ∧ Frame s s' l last := by
  obtain ⟨first, p, n, head, prev, next, positive, after⟩ := holds.linkOut
  rw [List.append_nil] at after
  have starts : (front ++ [last]).head? = some first := holds.head_eq.symm.trans head
  have tail : (s.node first).prev = some last := holds.circle.prev_first starts
  -- the head is the last node only where no other is left
  have same : (if (s.list l).noElem - 1 = 0 then none
        else some (if first = last then n else first))
      = if (s.list l).noElem - 1 = 0 then none else some first := by
    split
    · rfl
    · next more =>
        have other : first ≠ last := by
          cases front with
          | nil =>
              rw [holds.noElem_eq] at more
              exact absurd rfl more
          | cons head front =>
              cases starts
              rintro rfl
              exact (List.nodup_cons.mp holds.distinct).1 (by simp)
        rw [if_neg other]
  rw [same] at after
  refine ⟨_, ?_, after⟩
  simp only [dynListRemoveTail, head, tail, prev, next, deref_some, ok_bind]
  rw [assert_of positive]
  rfl

/-- `DynListRemoveTail` returns the null pointer on an empty list. -/
theorem dynListRemoveTail_empty {s : Lists ι ν} {l : ι} (holds : Holds s l [])
    : dynListRemoveTail s l = .ok (none, s) := by
  have head : (s.list l).head = none := holds.head_eq
  have count : (s.list l).noElem = 0 := holds.noElem_eq
  simp only [dynListRemoveTail, head]
  rw [assert_of (by omega)]
  rfl

end XtratuM
