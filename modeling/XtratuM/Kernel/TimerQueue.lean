import Mathlib.Data.Int.ModEq
import Mathlib.Order.Bounds.Basic
import XtratuM.Kernel.DynList
import XtratuM.Kernel.KTimer

/-! `TraverseKTimerQueue` over any queue of timers, whose actions do not touch the queue. -/

namespace XtratuM.TimerQueue

open Ring

variable {ι ν σ : Type}

/-- The timers, what their actions change, and the actions called so far, first to last. -/
structure Timers (ν σ : Type) where
  timer : ν → KTimer
  world : σ
  calls : List ν

/-- `Action` of each timer, where it has one. -/
abbrev Actions (ν σ : Type) : Type := ν → Option (σ → σ)

/-- The call of a timer's action. -/
def Timers.act (s : Timers ν σ) (action : Actions ν σ) (n : ν) : Timers ν σ :=
  match action n with
  | some act => { s with world := act s.world, calls := s.calls ++ [n] }
  | none => s

def Timers.set [DecidableEq ν] (s : Timers ν σ) (n : ν) (kTimer : KTimer) : Timers ν σ :=
  { s with timer := Function.update s.timer n kTimer }

/-- `flags &= ~KTIMER_ARMED` -/
def disarmed (kTimer : KTimer) : KTimer :=
  { kTimer with flags := kTimer.flags &&& ~~~KTIMER_ARMED }

theorem disarmed_armed (kTimer : KTimer) : (disarmed kTimer).armed = false := by
  simpa [disarmed, KTimer.armed] using flag_cleared kTimer.flags KTIMER_ARMED

section Traversal

variable [DecidableEq ν]

/-- One round of the loop, for a timer and `nextAct` so far. -/
def traverseKTimer (action : Actions ν σ) (cTime : Int) (n : ν) (s : Timers ν σ × Int)
    : Timers ν σ × Int :=
  let kTimer := s.1.timer n
  if kTimer.armed then
    if kTimer.value ≤ cTime then
      let acted := s.1.act action n
      if positive : 0 < kTimer.interval then
        let value := advance cTime kTimer.interval kTimer.value positive
        (acted.set n { kTimer with value }, earlier s.2 value)
      else
        (acted.set n (disarmed kTimer), s.2)
    else
      (s.1, earlier s.2 kTimer.value)
  else
    s

/-- `DYNLIST_FOR_EACH_ELEMENT` over the rounds, with as many left and the next element. -/
def traverseLoop (lists : Lists ι ν) (action : Actions ν σ) (cTime : Int)
    : Nat → Option ν → Timers ν σ × Int → Except Stop (Timers ν σ × Int)
  | 0, _, s => .ok s
  | left + 1, element, s => do
      assert (element.isSome = true)
      let n ← deref element
      traverseLoop lists action cTime left (lists.node n).next (traverseKTimer action cTime n s)

/-- `TraverseKTimerQueue`; a list has no negative number of elements. -/
def traverseKTimerQueue (lists : Lists ι ν) (action : Actions ν σ) (l : ι) (cTime : Int)
    (s : Timers ν σ) : Except Stop (Timers ν σ × Int) :=
  traverseLoop lists action cTime (lists.list l).noElem.toNat (lists.list l).head (s, MAX_XMTIME)

end Traversal

-----------------------------------------------------------------------------------------
-- What a timer becomes

/-- The timer is armed for a time that is not in the future. -/
def Expires (cTime : Int) (kTimer : KTimer) : Prop :=
  kTimer.armed = true ∧ kTimer.value ≤ cTime

instance (cTime : Int) (kTimer : KTimer) : Decidable (Expires cTime kTimer) :=
  inferInstanceAs (Decidable (_ ∧ _))

/-- An expired timer with an interval is armed for the first time of its period that is in the
future, one without is disarmed, and no other timer changes.
-/
structure Settled (cTime : Int) (kTimer kTimer' : KTimer) : Prop where
  interval : kTimer'.interval = kTimer.interval
  periodic : Expires cTime kTimer → 0 < kTimer.interval →
    kTimer'.flags = kTimer.flags
      ∧ IsLeast { value | cTime < value ∧ value ≡ kTimer.value [ZMOD kTimer.interval] }
        kTimer'.value
  oneShot : Expires cTime kTimer → ¬ 0 < kTimer.interval →
    kTimer'.armed = false ∧ kTimer'.value = kTimer.value
  other : ¬ Expires cTime kTimer → kTimer' = kTimer

/-- The times for which the timers of a queue are armed. -/
def armedValues (timer : ν → KTimer) (nodes : List ν) : Set Int :=
  { value | ∃ n ∈ nodes, (timer n).armed = true ∧ (timer n).value = value }

/-- Adding the interval until the time is past gives the first such time. -/
theorem advance_isLeast (cTime interval value : Int) (positive : 0 < interval)
    (expired : value ≤ cTime)
    : IsLeast { next | cTime < next ∧ next ≡ value [ZMOD interval] }
      (advance cTime interval value positive) := by
  fun_induction advance cTime interval value positive with
  | case1 value again ih =>
      have period : value + interval ≡ value [ZMOD interval] := by simp [Int.ModEq]
      have same : { next | cTime < next ∧ next ≡ value + interval [ZMOD interval] }
          = { next | cTime < next ∧ next ≡ value [ZMOD interval] } := by
        ext next
        exact and_congr_right fun _ =>
          ⟨fun here => here.trans period, fun here => here.trans period.symm⟩
      exact same ▸ ih again
  | case2 value past =>
      refine ⟨⟨by omega, by simp [Int.ModEq]⟩, ?_⟩
      rintro next ⟨later, congruent⟩
      -- A time in between would be less than an interval after the old one.
      obtain ⟨periods, apart⟩ := congruent.symm.dvd
      have more : 0 < periods := by
        by_contra none
        have : interval * periods ≤ 0 :=
          Int.mul_nonpos_of_nonneg_of_nonpos positive.le (not_lt.mp none)
        omega
      have least : interval * 1 ≤ interval * periods :=
        Int.mul_le_mul_of_nonneg_left more positive.le
      omega

-----------------------------------------------------------------------------------------
-- Rounds

theorem earlier_eq_min (nextAct value : Int) : earlier nextAct value = min value nextAct := by
  unfold earlier
  split
  · next sooner => exact (min_eq_left sooner.le).symm
  · next later => exact (min_eq_right (not_lt.mp later)).symm

/-- The timers of a queue whose actions a traversal calls. -/
def called (action : Actions ν σ) (cTime : Int) (timer : ν → KTimer) (nodes : List ν) : List ν :=
  nodes.filter fun n => decide (Expires cTime (timer n)) && (action n).isSome

/-- What a traversal of `nodes` makes of the timers and of `nextAct`. -/
structure Traversed (action : Actions ν σ) (cTime : Int) (nodes : List ν) (s s' : Timers ν σ)
    (nextAct nextAct' : Int) : Prop where
  settled : ∀ n ∈ nodes, Settled cTime (s.timer n) (s'.timer n)
  others : ∀ n ∉ nodes, s'.timer n = s.timer n
  calls : s'.calls = s.calls ++ called action cTime s.timer nodes
  world : s'.world = (called action cTime s.timer nodes).foldl
    (fun world n => (action n).getD id world) s.world
  least : IsLeast (insert nextAct (armedValues s'.timer nodes)) nextAct'

theorem Timers.act_timer (s : Timers ν σ) (action : Actions ν σ) (n : ν)
    : (s.act action n).timer = s.timer := by
  unfold Timers.act
  cases action n <;> rfl

/-- The action of an expired timer is called if there is one. -/
theorem Timers.act_calls {s : Timers ν σ} {cTime : Int} {n : ν}
    (expires : Expires cTime (s.timer n)) (action : Actions ν σ)
    : (s.act action n).calls = s.calls ++ called action cTime s.timer [n]
      ∧ (s.act action n).world = (called action cTime s.timer [n]).foldl
        (fun world n => (action n).getD id world) s.world := by
  unfold Timers.act called
  cases acts : action n <;> simp [acts, expires]

/-- `nextAct` after the round of a timer that is left armed, and of one that is not. -/
theorem armed_isLeast {timer : ν → KTimer} {n : ν} {kTimer : KTimer} (left : timer n = kTimer)
    (armed : kTimer.armed = true) (nextAct : Int)
    : IsLeast (insert nextAct (armedValues timer [n])) (earlier nextAct kTimer.value) := by
  have values : armedValues timer [n] = {kTimer.value} := by
    simp [armedValues, left, armed]
  rw [values, earlier_eq_min, min_comm]
  exact isLeast_pair

theorem disarmed_isLeast {timer : ν → KTimer} {n : ν} {kTimer : KTimer} (left : timer n = kTimer)
    (disarmed : kTimer.armed = false) (nextAct : Int)
    : IsLeast (insert nextAct (armedValues timer [n])) nextAct := by
  simp [armedValues, left, disarmed]

/-- A timer that is not due is left as it is. -/
theorem Traversed.waits {action : Actions ν σ} {cTime : Int} {n : ν} {s : Timers ν σ}
    (waits : ¬ Expires cTime (s.timer n)) {nextAct nextAct' : Int}
    (least : IsLeast (insert nextAct (armedValues s.timer [n])) nextAct')
    : Traversed action cTime [n] s s nextAct nextAct' := by
  have none : called action cTime s.timer [n] = [] := by simp [called, waits]
  refine
    { settled := ?_
      others := fun _ _ => rfl
      calls := by rw [none, List.append_nil]
      world := by rw [none, List.foldl_nil]
      least }
  intro m member
  cases List.mem_singleton.mp member
  exact ⟨rfl, fun due => absurd due waits, fun due => absurd due waits, fun _ => rfl⟩

theorem isLeast_insert_of_isLeast {a b x : Int} {first rest : Set Int}
    (head : IsLeast (insert a first) b) (tail : IsLeast (insert b rest) x)
    : IsLeast (insert a (first ∪ rest)) x := by
  have below : x ≤ b := tail.2 (Set.mem_insert _ _)
  refine ⟨?_, ?_⟩
  · rcases tail.1 with rfl | member
    · exact Set.insert_subset_insert Set.subset_union_left head.1
    · exact Or.inr (Or.inr member)
  · rintro value (rfl | member | member)
    · exact below.trans (head.2 (Set.mem_insert _ _))
    · exact below.trans (head.2 (Or.inr member))
    · exact tail.2 (Or.inr member)

theorem called_congr {action : Actions ν σ} {cTime : Int} {timer timer' : ν → KTimer}
    {nodes : List ν} (same : ∀ n ∈ nodes, timer' n = timer n)
    : called action cTime timer' nodes = called action cTime timer nodes := by
  apply List.filter_congr
  intro n member
  rw [same n member]

theorem Traversed.cons {action : Actions ν σ} {cTime : Int} {n : ν} {nodes : List ν}
    {s t u : Timers ν σ} {a b c : Int} (fresh : n ∉ nodes)
    (first : Traversed action cTime [n] s t a b) (rest : Traversed action cTime nodes t u b c)
    : Traversed action cTime (n :: nodes) s u a c := by
  have apart {m : ν} (member : m ∈ nodes) : m ∉ [n] := by
    intro same
    exact fresh (List.mem_singleton.mp same ▸ member)
  have kept : ∀ m ∈ nodes, t.timer m = s.timer m := fun m member => first.others m (apart member)
  have both : called action cTime s.timer (n :: nodes)
      = called action cTime s.timer [n] ++ called action cTime t.timer nodes := by
    rw [called_congr kept, ← List.singleton_append, called, List.filter_append]
    rfl
  refine { settled := ?_, others := ?_, calls := ?_, world := ?_, least := ?_ }
  · intro m member
    rcases List.mem_cons.mp member with rfl | member
    · rw [rest.others m fresh]
      exact first.settled m List.mem_cons_self
    · rw [← kept m member]
      exact rest.settled m member
  · intro m outside
    rw [List.mem_cons, not_or] at outside
    rw [rest.others m outside.2]
    exact first.others m (by simpa using outside.1)
  · rw [rest.calls, first.calls, both, List.append_assoc]
  · rw [rest.world, first.world, both, List.foldl_append]
  · have values : armedValues u.timer (n :: nodes)
        = armedValues t.timer [n] ∪ armedValues u.timer nodes := by
      ext value
      simp [armedValues, rest.others n fresh]
    rw [values]
    exact isLeast_insert_of_isLeast first.least rest.least

section Rounds

variable [DecidableEq ν]

/-- A timer that is due has its action called and becomes another. -/
theorem Traversed.expires {action : Actions ν σ} {cTime : Int} {n : ν} {s : Timers ν σ}
    (expires : Expires cTime (s.timer n)) {kTimer : KTimer}
    (settled : Settled cTime (s.timer n) kTimer) {nextAct nextAct' : Int}
    (least : IsLeast
      (insert nextAct (armedValues ((s.act action n).set n kTimer).timer [n])) nextAct')
    : Traversed action cTime [n] s ((s.act action n).set n kTimer) nextAct nextAct' := by
  obtain ⟨calls, world⟩ := s.act_calls expires action
  refine { settled := ?_, others := ?_, calls, world, least }
  · intro m member
    cases List.mem_singleton.mp member
    have becomes : ((s.act action n).set n kTimer).timer n = kTimer := Function.update_self ..
    rwa [becomes]
  · intro m outside
    rw [← s.act_timer action n]
    exact Function.update_of_ne (List.ne_of_not_mem_cons outside) _ _

/-- One round settles its timer and no other. -/
theorem traverseKTimer_traversed (action : Actions ν σ) (cTime : Int) (n : ν)
    (s : Timers ν σ × Int)
    : Traversed action cTime [n] s.1 (traverseKTimer action cTime n s).1 s.2
      (traverseKTimer action cTime n s).2 := by
  have becomes (kTimer : KTimer) : ((s.1.act action n).set n kTimer).timer n = kTimer :=
    Function.update_self ..
  unfold traverseKTimer
  dsimp only
  split
  · next armed =>
      split
      · next due =>
          have expires : Expires cTime (s.1.timer n) := ⟨armed, due⟩
          split
          · next periodic =>
              have left := becomes { s.1.timer n with
                value := advance cTime (s.1.timer n).interval (s.1.timer n).value periodic }
              apply Traversed.expires expires
              · exact
                  { interval := rfl
                    periodic := fun _ _ => ⟨rfl, advance_isLeast _ _ _ periodic due⟩
                    oneShot := fun _ single => absurd periodic single
                    other := fun future => absurd expires future }
              · exact armed_isLeast left armed s.2
          · next single =>
              have off := disarmed_armed (s.1.timer n)
              apply Traversed.expires expires
              · exact
                  { interval := rfl
                    periodic := fun _ periodic => absurd periodic single
                    oneShot := fun _ _ => ⟨off, rfl⟩
                    other := fun future => absurd expires future }
              · exact disarmed_isLeast (becomes _) off s.2
      · next future =>
          exact Traversed.waits (fun expires => future expires.2) (armed_isLeast rfl armed s.2)
  · next off =>
      exact Traversed.waits (fun expires => off expires.1)
        (disarmed_isLeast rfl (Bool.eq_false_iff.mpr off) s.2)

-----------------------------------------------------------------------------------------
-- Traversals

/-- The rounds on the nodes in order. Witness: induction on them, a round at a time. -/
theorem foldl_traversed (action : Actions ν σ) (cTime : Int) {nodes : List ν}
    (distinct : nodes.Nodup) (s : Timers ν σ × Int)
    : Traversed action cTime nodes s.1
      (nodes.foldl (fun s n => traverseKTimer action cTime n s) s).1 s.2
      (nodes.foldl (fun s n => traverseKTimer action cTime n s) s).2 := by
  induction nodes generalizing s with
  | nil =>
      exact
        { settled := by simp
          others := fun _ _ => rfl
          calls := by simp [called]
          world := rfl
          least := by simp [armedValues] }
  | cons n nodes ih =>
      obtain ⟨fresh, distinct⟩ := List.nodup_cons.mp distinct
      exact (traverseKTimer_traversed action cTime n s).cons fresh (ih distinct _)

/-- The loop goes along the links, as often as there are nodes. -/
theorem traverseLoop_eq_foldl {lists : Lists ι ν} (action : Actions ν σ) (cTime : Int)
    {nodes : List ν} (chain : List.IsChain lists.links.Adjacent nodes) {element : Option ν}
    (start : nodes ≠ [] → element = nodes.head?) (s : Timers ν σ × Int)
    : traverseLoop lists action cTime nodes.length element s
      = .ok (nodes.foldl (fun s n => traverseKTimer action cTime n s) s) := by
  induction nodes generalizing element s with
  | nil => rfl
  | cons n nodes ih =>
      rw [start (List.cons_ne_nil n nodes), List.length_cons, traverseLoop, List.head?_cons,
        assert_of (by rfl), ok_bind, deref_some, ok_bind]
      apply ih (List.isChain_of_isChain_cons chain)
      intro some
      obtain ⟨next, later, rfl⟩ := List.exists_cons_of_ne_nil some
      exact (List.isChain_cons_cons.mp chain).1.next

theorem traverseKTimerQueue_eq_foldl {lists : Lists ι ν} {l : ι} {nodes : List ν}
    (holds : Holds lists l nodes) (action : Actions ν σ) (cTime : Int) (s : Timers ν σ)
    : traverseKTimerQueue lists action l cTime s
      = .ok (nodes.foldl (fun s n => traverseKTimer action cTime n s) (s, MAX_XMTIME)) := by
  have chain : List.IsChain lists.links.Adjacent nodes := by
    cases nodes with
    | nil => exact .nil
    | cons first rest => exact (List.isChain_append.mp holds.circle).1
  rw [traverseKTimerQueue, holds.noElem_eq, Int.toNat_natCast, holds.head_eq]
  exact traverseLoop_eq_foldl action cTime chain (fun _ => rfl) _

/-- One traversal settles every timer of a queue: it ends, it calls the actions of the timers that
are due and of no others, each once, and it returns the first time for which a timer is left armed,
or the last time there is.
-/
theorem traverseKTimerQueue_settles {lists : Lists ι ν} {l : ι} {nodes : List ν}
    (holds : Holds lists l nodes) (action : Actions ν σ) (cTime : Int) (s : Timers ν σ)
    : ∃ s' nextAct, traverseKTimerQueue lists action l cTime s = .ok (s', nextAct)
      ∧ Traversed action cTime nodes s s' MAX_XMTIME nextAct
      ∧ (called action cTime s.timer nodes).Nodup := by
  refine ⟨_, _, traverseKTimerQueue_eq_foldl holds action cTime s, ?_, ?_⟩
  · exact foldl_traversed action cTime holds.distinct (s, MAX_XMTIME)
  · exact holds.distinct.filter _

end Rounds

/-- Two timers in a queue: one that is due every 4, and one for time 20. -/
def twoTimers : Timers Bool Unit where
  timer n := if n then { value := 3, interval := 4, flags := 1 }
    else { value := 20, interval := 0, flags := 1 }
  world := ()
  calls := []

def twoTimerLists : Lists Unit Bool where
  node n := { list := some (), prev := some !n, next := some !n }
  list _ := { head := some true, noElem := 2 }

theorem twoTimerLists_holds : Holds twoTimerLists () [true, false] where
  distinct := by decide
  circle := by
    change List.IsChain _ [true, false, true]
    simp only [List.isChain_cons_cons, List.isChain_singleton, and_true]
    exact ⟨⟨rfl, rfl⟩, ⟨rfl, rfl⟩⟩
  head_eq := rfl
  noElem_eq := rfl
  owned _ _ := rfl

/-- At time 10 the first one is called and goes on at 11. -/
theorem twoTimers_settle
    : ∃ s' nextAct, traverseKTimerQueue twoTimerLists (fun _ => some id) () 10 twoTimers
        = .ok (s', nextAct)
      ∧ Traversed (fun _ => some id) 10 [true, false] twoTimers s' MAX_XMTIME nextAct
      ∧ (called (fun _ => some (id : Unit → Unit)) 10 twoTimers.timer [true, false]).Nodup :=
  traverseKTimerQueue_settles twoTimerLists_holds _ 10 twoTimers

end XtratuM.TimerQueue
