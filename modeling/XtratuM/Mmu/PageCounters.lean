import XtratuM.Library.Reachability
import XtratuM.Mmu.PageUpdates

/-! The counter of a `physPage`: 27 bits, which the tests for an overflow compare as a word. -/

namespace XtratuM.Mmu

open Reachability
open UserPages

/-- `PPagIncCounter` on a page. -/
def incCounter (page : PhysPage) : Except Stop PhysPage :=
  let cnt := page.counter.setWidth 32
  let page := { page with counter := page.counter + 1 }
  if cnt = ~~~0 then .error .partitionPanic else .ok page

/-- `PPagDecCounter` on a page. -/
def decCounter (page : PhysPage) : Except Stop PhysPage :=
  let cnt := page.counter.setWidth 32
  let page := { page with counter := page.counter - 1 }
  if cnt = 0 then .error .partitionPanic else .ok page

inductive CounterOp
  | inc
  | dec
  deriving DecidableEq, Repr

def CounterOp.run : CounterOp → PhysPage → Except Stop PhysPage
  | .inc => incCounter
  | .dec => decCounter

def CounterNext (page : PhysPage) (op : CounterOp) (page' : PhysPage) : Prop :=
  op.run page = .ok page'

/-- The increments less the decrements. -/
def balance (past : List CounterOp) : Int :=
  past.count .inc - past.count .dec

def CounterOp.change : CounterOp → Int
  | .inc => 1
  | .dec => -1

@[simp] theorem balance_nil : balance [] = 0 :=
  rfl

@[simp] theorem balance_cons (op : CounterOp) (past : List CounterOp)
    : balance (op :: past) = balance past + op.change := by
  cases op <;> simp [balance, CounterOp.change] <;> omega

/-- The largest value of 27 bits. -/
def maxCounter : Int := 2 ^ 27 - 1

/-- No increment was made on top of `maxCounter`. -/
def NeverFull (past : List CounterOp) : Prop :=
  ∀ newer older, past = newer ++ .inc :: older → balance older < maxCounter

/-- The counter counts, and what would take it out of its range panics. -/
structure CountsExactly (past : List CounterOp) (page : PhysPage) : Prop where
  value : (page.counter.toNat : Int) = balance past
  panics : ∀ op : CounterOp, ¬ (0 ≤ balance past + op.change
    ∧ balance past + op.change ≤ maxCounter) → op.run page = .error .partitionPanic

-----------------------------------------------------------------------------------------
-- Steps

/-- The test for an overflow never succeeds. -/
theorem incCounter_eq (page : PhysPage)
    : incCounter page = .ok { page with counter := page.counter + 1 } := by
  have small : page.counter.setWidth 32 ≠ ~~~0 := by
    intro same
    have value := congrArg BitVec.toNat same
    have bound := page.counter.isLt
    have top : (~~~0 : XmU32).toNat = 2 ^ 32 - 1 := rfl
    rw [BitVec.toNat_setWidth, top] at value
    omega
  exact if_neg small

theorem decCounter_eq (page : PhysPage)
    : decCounter page
      = if page.counter = 0 then
          .error .partitionPanic
        else
          .ok { page with counter := page.counter - 1 } := by
  have zero : page.counter.setWidth 32 = 0 ↔ page.counter = 0 := by
    rw [← BitVec.toNat_inj, ← BitVec.toNat_inj, BitVec.toNat_setWidth]
    have bound := page.counter.isLt
    rw [Nat.mod_eq_of_lt (by omega)]
    rfl
  unfold decCounter
  simp only [zero]

/-- The counter of a page in `physPageTab` is changed so. -/
theorem pPagIncCounter_eq (ref : PageRef) (s : State)
    : .ok (pPagIncCounter ref s) = (incCounter (s.page ref)).map (s.setPage ref) := by
  rw [incCounter_eq]
  rfl

theorem pPagDecCounter_eq (ref : PageRef) (s : State)
    : pPagDecCounter ref s = (decCounter (s.page ref)).map (s.setPage ref) := by
  rw [decCounter_eq, pPagDecCounter]
  split <;> rfl

theorem neverFull_nil : NeverFull [] := by
  intro newer older split
  simp at split

theorem neverFull_cons {op : CounterOp} {past : List CounterOp}
    : NeverFull (op :: past) ↔ NeverFull past ∧ (op = .inc → balance past < maxCounter) := by
  constructor
  · intro never
    refine ⟨?_, ?_⟩
    · intro newer older split
      exact never (op :: newer) older (by rw [split]; rfl)
    · rintro rfl
      exact never [] past rfl
  · rintro ⟨never, here⟩ newer older split
    cases newer with
    | nil =>
        obtain ⟨same, rfl⟩ := List.cons.inj split
        exact here same
    | cons first newer => exact never newer older (List.cons.inj split).2

/-- The counter is the balance less a multiple of `2 ^ 27`, one for each time it wrapped; a
decrement that would take a wrap back panics.
-/
theorem counter_wraps {start page : PhysPage} {past : List CounterOp}
    (fresh : start.counter = 0) (run : Reach CounterNext start past page)
    : ∃ wraps : Nat, balance past = page.counter.toNat + 2 ^ 27 * wraps
      ∧ (wraps = 0 ↔ NeverFull past) := by
  refine run.preserves (P := fun past page => ∃ wraps : Nat,
    balance past = page.counter.toNat + 2 ^ 27 * wraps ∧ (wraps = 0 ↔ NeverFull past)) ?_ ?_
  · refine ⟨0, ?_, iff_of_true rfl neverFull_nil⟩
    rw [fresh]
    rfl
  · rintro past page op page' ⟨wraps, value, never⟩ taken
    have bound := page.counter.isLt
    cases op with
    | inc =>
        have stepped : incCounter page = .ok page' := taken
        rw [incCounter_eq] at stepped
        cases stepped
        rw [balance_cons, neverFull_cons, ← never, BitVec.toNat_add]
        have one : (1 : BitVec 27).toNat = 1 := rfl
        simp only [CounterOp.change, maxCounter, one, forall_const]
        by_cases full : page.counter.toNat + 1 = 2 ^ 27
        · refine ⟨wraps + 1, ?_, ?_⟩
          · rw [full, Nat.mod_self]
            omega
          · omega
        · refine ⟨wraps, ?_, ?_⟩
          · rw [Nat.mod_eq_of_lt (by omega)]
            omega
          · omega
    | dec =>
        have stepped : decCounter page = .ok page' := taken
        rw [decCounter_eq] at stepped
        split at stepped
        · cases stepped
        · next positive =>
            cases stepped
            have one : (1 : BitVec 27) ≤ page.counter := by
              rw [BitVec.le_def]
              exact Nat.pos_of_ne_zero fun zero => positive (BitVec.eq_of_toNat_eq zero)
            refine ⟨wraps, ?_, ?_⟩
            · rw [balance_cons, BitVec.toNat_sub_of_le one]
              rw [BitVec.le_def] at one
              have unit : (1 : BitVec 27).toNat = 1 := rfl
              simp only [CounterOp.change]
              omega
            · rw [neverFull_cons, never]
              simp

-----------------------------------------------------------------------------------------
-- Runs

/-- In every run without a panic the counter is the number of increments less that of decrements,
and another call that would take it out of its range panics, when no increment was made on top of
the largest value and none can be: and only then.
-/
theorem counter_exact_iff {start page : PhysPage} {past : List CounterOp}
    (fresh : start.counter = 0) (run : Reach CounterNext start past page)
    : CountsExactly past page ↔ NeverFull past ∧ balance past < maxCounter := by
  obtain ⟨wraps, value, never⟩ := counter_wraps fresh run
  have bound := page.counter.isLt
  constructor
  · intro isExact
    have counted := isExact.value
    have noWrap : wraps = 0 := by omega
    refine ⟨never.mp noWrap, ?_⟩
    by_contra full
    have panicked : incCounter page = .error .partitionPanic := by
      refine isExact.panics .inc ?_
      simp only [CounterOp.change]
      omega
    rw [incCounter_eq] at panicked
    cases panicked
  · rintro ⟨safe, room⟩
    have noWrap := never.mpr safe
    rw [noWrap] at value
    refine { value := by omega, panics := ?_ }
    intro op outside
    unfold maxCounter at outside room
    cases op with
    | inc =>
        simp only [CounterOp.change] at outside
        omega
    | dec =>
        simp only [CounterOp.change] at outside
        have empty : page.counter.toNat = 0 := by omega
        have zero : page.counter = 0 := BitVec.eq_of_toNat_eq empty
        change decCounter page = _
        rw [decCounter_eq, if_pos zero]

/-- A page as `SetupPhysMM` leaves it. -/
def freshPage : PhysPage where
  type := .std
  counter := 0

theorem counter_exact_one
    : CountsExactly [.inc] { freshPage with counter := 1 } := by
  have run : Reach CounterNext freshPage [.inc] { freshPage with counter := 1 } :=
    .step .start rfl
  exact (counter_exact_iff rfl run).mpr
    ⟨neverFull_cons.mpr ⟨neverFull_nil, by decide⟩, by decide⟩

theorem incs_reach (n : Nat)
    : Reach CounterNext freshPage (List.replicate n .inc)
        { freshPage with counter := BitVec.ofNat 27 n } := by
  induction n with
  | zero => exact .start
  | succ n ih =>
      refine .step ih ?_
      change incCounter _ = _
      rw [incCounter_eq, BitVec.ofNat_add]
      rfl

theorem balance_incs (n : Nat) : balance (List.replicate n .inc) = n := by
  simp [balance, List.count_replicate]

/-- After `2 ^ 27` increments, none of which panicked, the counter is zero again. -/
theorem counter_wraps_silently
    : ∃ past, Reach CounterNext freshPage past freshPage ∧ balance past = 2 ^ 27
      ∧ ¬ CountsExactly past freshPage := by
  obtain ⟨n, large⟩ : ∃ n, n = 2 ^ 27 := ⟨_, rfl⟩
  have run := incs_reach n
  have counted : balance (List.replicate n .inc) = 2 ^ 27 := by
    rw [balance_incs, large]
    rfl
  have zero : BitVec.ofNat 27 n = 0 := by
    rw [large]
    rfl
  rw [zero] at run
  refine ⟨List.replicate n .inc, run, counted, ?_⟩
  intro isExact
  have value := isExact.value
  rw [counted] at value
  cases value

end XtratuM.Mmu
