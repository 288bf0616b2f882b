import Mathlib.Data.List.Basic
import XtratuM.Library.Reachability

/-! A queue of bounded capacity as a labelled step relation, and the law that nothing put in
is lost, repeated or overtaken.
-/

namespace BoundedFifo

open Reachability

variable {α : Type*}

/-- What can happen to the queue: an item is accepted or refused, handed out or not there,
or nothing concerns it.
-/
inductive Action (α : Type*)
  | accept (a : α)
  | refuse
  | handOut (a : α)
  | starve
  | skip

/-- The queue is listed oldest first. -/
inductive Step (capacity : Nat) : List α → Action α → List α → Prop
  | accept {queue : List α} {a : α} (room : queue.length < capacity)
    : Step capacity queue (.accept a) (queue ++ [a])
  | refuse {queue : List α} (full : queue.length = capacity) : Step capacity queue .refuse queue
  | handOut {queue : List α} {a : α} : Step capacity (a :: queue) (.handOut a) queue
  | starve : Step capacity [] .starve []
  | skip {queue : List α} : Step capacity queue .skip queue

def Action.accepted? : Action α → Option α
  | .accept a => some a
  | _ => none

def Action.handedOut? : Action α → Option α
  | .handOut a => some a
  | _ => none

/-- The items accepted in a history, oldest first. -/
def accepted (past : List (Action α)) : List α :=
  (past.filterMap Action.accepted?).reverse

def handedOut (past : List (Action α)) : List α :=
  (past.filterMap Action.handedOut?).reverse

/-- The items accepted are the ones handed out, in that order, and then the ones queued. -/
theorem conservation {capacity : Nat} {past : List (Action α)} {queue : List α}
    (run : Reach (Step capacity) [] past queue)
    : accepted past = handedOut past ++ queue := by
  refine run.preserves (P := fun past queue => accepted past = handedOut past ++ queue) ?_ ?_
  · rfl
  · intro past queue action queue' before taken
    cases taken <;>
      simp_all [accepted, handedOut, Action.accepted?, Action.handedOut?, List.filterMap_cons]

theorem length_le {capacity : Nat} {past : List (Action α)} {queue : List α}
    (run : Reach (Step capacity) [] past queue)
    : queue.length ≤ capacity := by
  refine run.invariant (P := fun queue => queue.length ≤ capacity) (Nat.zero_le _) ?_
  intro queue action queue' before taken
  cases taken with
  | accept room =>
      simp only [List.length_append, List.length_singleton]
      omega
  | handOut =>
      simp only [List.length_cons] at before
      omega
  | refuse | starve | skip => exact before

end BoundedFifo
