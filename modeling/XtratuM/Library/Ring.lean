import Mathlib.Data.List.Chain
import Mathlib.Logic.Function.Basic

/-! Circular doubly linked lists threaded through the nodes they link: what the two link
fields of every node must say for a list of nodes to be such a circle, and how linking a
node in and out of a circle changes that list.
-/

namespace Ring

variable {ν : Type*}

/-- The link fields of all nodes. -/
structure Links (ν : Type*) where
  next : ν → Option ν
  prev : ν → Option ν

/-- `a` is linked directly before `b`, in both directions. -/
structure Links.Adjacent (links : Links ν) (a b : ν) : Prop where
  next : links.next a = some b
  prev : links.prev b = some a

/-- The nodes, in order and back to the first one, are linked one after the other. -/
def Links.Circle (links : Links ν) : List ν → Prop
  | [] => True
  | first :: rest => List.IsChain links.Adjacent (first :: rest ++ [first])

/-- A circle only depends on the link fields of its own nodes. -/
theorem Links.Circle.congr {links links' : Links ν} {nodes : List ν}
    (circle : links.Circle nodes)
    (same : ∀ node ∈ nodes, links'.next node = links.next node
      ∧ links'.prev node = links.prev node)
    : links'.Circle nodes := by
  cases nodes with
  | nil => trivial
  | cons first rest =>
      have member : ∀ node ∈ first :: rest ++ [first], node ∈ first :: rest := by
        intro node member
        rcases List.mem_append.mp member with inside | closing
        · exact inside
        · exact List.mem_singleton.mp closing ▸ List.mem_cons_self
      refine List.IsChain.imp_of_mem_imp ?_ circle
      intro a b ha hb adjacent
      exact
        { next := (same a (member a ha)).1.trans adjacent.next
          prev := (same b (member b hb)).2.trans adjacent.prev }

/-- A circle cut at its last node: a chain up to it, closed by the step back to the first. -/
theorem Links.circle_concat {links : Links ν} {front : List ν} {last first : ν}
    (starts : (front ++ [last]).head? = some first)
    : links.Circle (front ++ [last])
      ↔ List.IsChain links.Adjacent (front ++ [last]) ∧ links.Adjacent last first := by
  obtain ⟨rest, shape⟩ : ∃ rest, front ++ [last] = first :: rest := by
    cases nodes : front ++ [last] with
    | nil => simp at nodes
    | cons head rest =>
        rw [nodes] at starts
        cases starts
        exact ⟨rest, rfl⟩
  have closed : links.Circle (front ++ [last])
      ↔ List.IsChain links.Adjacent (front ++ [last] ++ [first]) := by
    rw [shape]
    exact Iff.rfl
  rw [closed, List.append_assoc, List.singleton_append, List.isChain_split]
  refine and_congr_right fun _ => ?_
  exact List.isChain_pair

/-- The node before the first one of a circle is the last one. -/
theorem Links.Circle.prev_first {links : Links ν} {front : List ν} {last first : ν}
    (circle : links.Circle (front ++ [last]))
    (starts : (front ++ [last]).head? = some first)
    : links.prev first = some last :=
  ((Links.circle_concat starts).mp circle).2.prev

/-- The first node of a list without repetitions is not met again. -/
theorem first_not_mem_tail {nodes : List ν} {first : ν} (starts : nodes.head? = some first)
    (distinct : nodes.Nodup)
    : first ∉ nodes.tail := by
  cases nodes with
  | nil => simp at starts
  | cons head rest =>
      cases starts
      exact (List.nodup_cons.mp distinct).1

/-- A single node linked with itself is a circle. -/
theorem Links.circle_single {links : Links ν} {node : ν}
    (next : links.next node = some node) (prev : links.prev node = some node)
    : links.Circle [node] :=
  List.isChain_pair.mpr { next, prev }

/-- A circle may be cut anywhere. -/
theorem Links.circle_rotate {links : Links ν} {first : ν} {rest : List ν}
    : links.Circle (first :: rest) ↔ links.Circle (rest ++ [first]) := by
  cases rest with
  | nil => exact Iff.rfl
  | cons second rest =>
      have starts : (second :: rest ++ [first]).head? = some second := rfl
      rw [Links.circle_concat starts]
      change List.IsChain _ (first :: (second :: rest ++ [first])) ↔ _
      rw [List.isChain_cons, starts]
      simp [and_comm]

theorem Links.circle_comm {links : Links ν} (front back : List ν)
    : links.Circle (front ++ back) ↔ links.Circle (back ++ front) := by
  induction front generalizing back with
  | nil => rw [List.nil_append, List.append_nil]
  | cons first front ih =>
      rw [List.cons_append, Links.circle_rotate, List.append_assoc, ih, List.append_assoc,
        List.singleton_append]

section Operations

variable [DecidableEq ν]

/-- Links `node` in between `before` and `after`. -/
def Links.linkIn (links : Links ν) (before after node : ν) : Links ν where
  next := Function.update (Function.update links.next node (some after)) before (some node)
  prev := Function.update (Function.update links.prev node (some before)) after (some node)

/-- Links `node` out from between `before` and `after` and clears its fields. -/
def Links.linkOut (links : Links ν) (before after node : ν) : Links ν where
  next := Function.update (Function.update links.next before (some after)) node none
  prev := Function.update (Function.update links.prev after (some before)) node none

/-- A node linked in before the first one of a circle becomes its first one. Witness: the
steps inside the circle neither leave its last node nor enter its first one.
-/
theorem Links.Circle.linkIn {links : Links ν} {front : List ν} {last first node : ν}
    (circle : links.Circle (front ++ [last]))
    (starts : (front ++ [last]).head? = some first)
    (distinct : (front ++ [last]).Nodup) (fresh : node ∉ front ++ [last])
    : (links.linkIn last first node).Circle (node :: (front ++ [last])) := by
  obtain ⟨chain, closing⟩ := (Links.circle_concat starts).mp circle
  have hlast : last ∈ front ++ [last] := by simp
  have hfirst : first ∈ front ++ [last] := List.mem_of_head? starts
  have nodeLast : node ≠ last := fun same => fresh (same ▸ hlast)
  have nodeFirst : node ≠ first := fun same => fresh (same ▸ hfirst)
  have entering : (links.linkIn last first node).Adjacent node first :=
    { next := by simp [Links.linkIn, Function.update_of_ne nodeLast]
      prev := by simp [Links.linkIn] }
  have leaving : (links.linkIn last first node).Adjacent last node :=
    { next := by simp [Links.linkIn]
      prev := by simp [Links.linkIn, Function.update_of_ne nodeFirst] }
  have inside : List.IsChain (links.linkIn last first node).Adjacent (front ++ [last]) := by
    refine List.IsChain.imp_of_mem_tail_imp ?_ chain
    intro a b ha hb adjacent
    have bFirst : b ≠ first := by
      rintro rfl
      exact first_not_mem_tail starts distinct hb
    have aLast : a ≠ last := by
      rintro rfl
      exact bFirst (Option.some.inj (adjacent.next.symm.trans closing.next))
    have aNode : a ≠ node := fun same => fresh (same ▸ ha)
    have bNode : b ≠ node := fun same => fresh (same ▸ List.mem_of_mem_tail hb)
    exact
      { next := by
          simp only [Links.linkIn, Function.update_of_ne aLast, Function.update_of_ne aNode]
          exact adjacent.next
        prev := by
          simp only [Links.linkIn, Function.update_of_ne bFirst, Function.update_of_ne bNode]
          exact adjacent.prev }
  have around : List.IsChain (links.linkIn last first node).Adjacent
      (front ++ [last] ++ [node]) := by
    rw [List.append_assoc, List.singleton_append, List.isChain_split]
    exact ⟨inside, List.isChain_pair.mpr leaving⟩
  change List.IsChain _ (node :: (front ++ [last] ++ [node]))
  refine List.isChain_cons.mpr ⟨?_, around⟩
  intro second starts'
  rw [List.head?_append_of_ne_nil _ (by simp), starts] at starts'
  cases starts'
  exact entering

/-- The last node of a circle linked out leaves the circle of the others. Witness: of the
steps inside the rest none leaves its own last node or enters its first one.
-/
theorem Links.Circle.linkOut {links : Links ν} {front : List ν} {before last first : ν}
    (circle : links.Circle (front ++ [before] ++ [last]))
    (starts : (front ++ [before]).head? = some first)
    (distinct : (front ++ [before] ++ [last]).Nodup)
    : links.Adjacent before last
      ∧ links.Adjacent last first
      ∧ (links.linkOut before first last).Circle (front ++ [before]) := by
  have starts' : (front ++ [before] ++ [last]).head? = some first := by
    rw [List.head?_append_of_ne_nil _ (by simp), starts]
  obtain ⟨chain, closing⟩ := (Links.circle_concat starts').mp circle
  obtain ⟨kept, entering⟩ : List.IsChain links.Adjacent (front ++ [before])
      ∧ links.Adjacent before last := by
    rw [List.append_assoc, List.singleton_append, List.isChain_split] at chain
    exact ⟨chain.1, List.isChain_pair.mp chain.2⟩
  obtain ⟨distinct', outside⟩ : (front ++ [before]).Nodup ∧ last ∉ front ++ [before] := by
    rw [List.nodup_append] at distinct
    refine ⟨distinct.1, ?_⟩
    intro inside
    exact distinct.2.2 last inside last (List.mem_singleton_self last) rfl
  have hbefore : before ∈ front ++ [before] := by simp
  have hfirst : first ∈ front ++ [before] := List.mem_of_head? starts
  have lastBefore : before ≠ last := fun same => outside (same ▸ hbefore)
  have lastFirst : first ≠ last := fun same => outside (same ▸ hfirst)
  refine ⟨entering, closing, (Links.circle_concat starts).mpr ⟨?_, ?_⟩⟩
  · refine List.IsChain.imp_of_mem_tail_imp ?_ kept
    intro a b ha hb adjacent
    have bFirst : b ≠ first := by
      rintro rfl
      exact first_not_mem_tail starts distinct' hb
    have bLast : b ≠ last := fun same => outside (same ▸ List.mem_of_mem_tail hb)
    have aLast : a ≠ last := fun same => outside (same ▸ ha)
    have aBefore : a ≠ before := by
      rintro rfl
      exact bLast (Option.some.inj (adjacent.next.symm.trans entering.next))
    exact
      { next := by
          simp only [Links.linkOut, Function.update_of_ne aLast, Function.update_of_ne aBefore]
          exact adjacent.next
        prev := by
          simp only [Links.linkOut, Function.update_of_ne bLast, Function.update_of_ne bFirst]
          exact adjacent.prev }
  · exact
      { next := by simp [Links.linkOut, Function.update_of_ne lastBefore]
        prev := by simp [Links.linkOut, Function.update_of_ne lastFirst] }

end Operations

end Ring
