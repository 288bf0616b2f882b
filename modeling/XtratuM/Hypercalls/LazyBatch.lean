import XtratuM.Kernel.Base
import XtratuM.Library.Reachability

/-! Deferred hypercalls: records collected in a batch of words, which `XM_multicall` is given when a
record would not fit or when the batch is flushed.
-/

namespace XtratuM.Hypercalls.Lazy

open Reachability

def XM_BATCH_LEN : Nat := 1024

def XM_OK : XmU32 := 0

/-- A hypercall and its arguments, as `XM_lazy_hypercall` takes them. -/
structure Deferred where
  noHyp : XmU32
  args : List XmU32
  few : args.length ≤ 5

/-- The static variables of `lazy.c`. -/
structure Batch where
  xmHypercallBatch : Nat → XmU32
  batchLen : Nat
  prevBatchLen : Nat

/-- What `XM_multicall` does if it is called: its result, and the words it leaves in the batch. -/
structure Answer where
  result : XmU32
  batch : Nat → XmU32

/-- A call of `XM_multicall`. -/
structure Handed where
  words : List XmU32
  result : XmU32

/-- What a function of `lazy.c` leaves: the calls it has made and its result, if it has one. -/
structure Outcome where
  batch : Batch
  calls : List Handed
  returned : Option XmU32

/-- `xmHypercallBatch` up to `batchLen`. -/
def Batch.words (b : Batch) : List XmU32 :=
  (List.range b.batchLen).map b.xmHypercallBatch

/-- `XM_flush_hyp_batch`. The comparison is of an `xm_u32_t`. -/
def xmFlushHypBatch (answer : Answer) (b : Batch) : Outcome :=
  if b.batchLen ≠ 0 then
    let r : XmU32 := answer.result
    let calls := [{ words := b.words, result := r }]
    let b := { b with xmHypercallBatch := answer.batch }
    if r < 0 then
      { batch := b, calls, returned := some r }
    else
      { batch := { b with prevBatchLen := b.batchLen, batchLen := 0 }
        calls
        returned := some XM_OK }
  else
    { batch := b, calls := [], returned := some XM_OK }

/-- `xmHypercallBatch[batchLen++]=word`. -/
def Batch.store (b : Batch) (word : XmU32) : Except Stop Batch :=
  if b.batchLen < XM_BATCH_LEN then
    .ok { b with
      xmHypercallBatch := Function.update b.xmHypercallBatch b.batchLen word
      batchLen := b.batchLen + 1 }
  else
    .error .badAccess

/-- The record does not fit. -/
def Batch.Full (b : Batch) (noArgs : Nat) : Prop :=
  b.batchLen ≥ XM_BATCH_LEN ∨ b.batchLen + noArgs + 1 ≥ XM_BATCH_LEN

instance (b : Batch) (noArgs : Nat) : Decidable (b.Full noArgs) :=
  inferInstanceAs (Decidable (_ ∨ _))

/-- The flush before a record that does not fit. Its result is dropped. -/
def makeRoom (answer : Answer) (noArgs : Nat) (b : Batch) : Outcome :=
  if b.Full noArgs then
    { xmFlushHypBatch answer b with returned := none }
  else
    { batch := b, calls := [], returned := none }

/-- `XM_lazy_hypercall`. -/
def xmLazyHypercall (answer : Answer) (deferred : Deferred) (b : Batch) : Except Stop Outcome := do
  let made := makeRoom answer deferred.args.length b
  let batch ← made.batch.store deferred.noHyp
  let batch ← batch.store deferred.args.length
  let batch ← deferred.args.foldlM Batch.store batch
  pure { made with batch }

/-- `init_batch`, on whatever words there are. -/
def initBatch (xmHypercallBatch : Nat → XmU32) : Batch :=
  { xmHypercallBatch, batchLen := 0, prevBatchLen := 0 }

inductive Request
  | flush
  | lazy (deferred : Deferred)

def Request.run (answer : Answer) (b : Batch) : Request → Except Stop Outcome
  | .flush => .ok (xmFlushHypBatch answer b)
  | .lazy deferred => xmLazyHypercall answer deferred b

-----------------------------------------------------------------------------------------
-- The words of the batch

/-- The record of a hypercall: its number, the count and the arguments. -/
def Deferred.words (deferred : Deferred) : List XmU32 :=
  deferred.noHyp :: (deferred.args.length : XmU32) :: deferred.args

@[simp] theorem words_length (b : Batch) : b.words.length = b.batchLen := by
  simp [Batch.words]

@[simp] theorem Deferred.words_length (deferred : Deferred)
    : deferred.words.length = deferred.args.length + 2 :=
  rfl

theorem store_words {b : Batch} (word : XmU32) (room : b.batchLen < XM_BATCH_LEN)
    : ∃ b', b.store word = .ok b' ∧ b'.words = b.words ++ [word] := by
  unfold Batch.store
  rw [if_pos room]
  refine ⟨_, rfl, ?_⟩
  have kept : ∀ i ∈ List.range b.batchLen,
      Function.update b.xmHypercallBatch b.batchLen word i = b.xmHypercallBatch i := by
    intro i inside
    exact Function.update_of_ne (Nat.ne_of_lt (List.mem_range.mp inside)) _ _
  simp only [Batch.words, List.range_succ, List.map_append, List.map_cons, List.map_nil,
    Function.update_self, List.map_congr_left kept]

/-- Words for which there is room are appended. -/
theorem stores_words {b : Batch} {words : List XmU32}
    (room : b.batchLen + words.length ≤ XM_BATCH_LEN)
    : ∃ b', words.foldlM Batch.store b = .ok b' ∧ b'.words = b.words ++ words := by
  induction words generalizing b with
  | nil => exact ⟨b, rfl, (List.append_nil _).symm⟩
  | cons word rest ih =>
      rw [List.length_cons] at room
      obtain ⟨next, stored, words⟩ := store_words word (by omega : b.batchLen < _)
      have length : next.batchLen = b.batchLen + 1 := by
        rw [← words_length, words]
        simp
      obtain ⟨b', stores, appended⟩ := ih (by omega : next.batchLen + _ ≤ _)
      refine ⟨b', ?_, ?_⟩
      · rw [List.foldlM_cons, stored]
        exact stores
      · rw [appended, words, List.append_assoc]
        rfl

/-- A flush makes one call, with all the words there are, and empties the batch whatever the call
returns.
-/
theorem flush_empties (answer : Answer) (b : Batch)
    : (xmFlushHypBatch answer b).batch.words = []
      ∧ (xmFlushHypBatch answer b).calls
        = if b.batchLen = 0 then [] else [⟨b.words, answer.result⟩] := by
  unfold xmFlushHypBatch
  by_cases empty : b.batchLen = 0
  · rw [if_neg (not_not.mpr empty), if_pos empty]
    simp [Batch.words, empty]
  · have unsigned : ¬ answer.result < 0 := BitVec.not_lt_zero
    rw [if_pos empty, if_neg empty]
    dsimp only
    rw [if_neg unsigned]
    exact ⟨rfl, rfl⟩

theorem flush_returned (answer : Answer) (b : Batch)
    : (xmFlushHypBatch answer b).returned = some XM_OK := by
  have unsigned : ¬ answer.result < 0 := BitVec.not_lt_zero
  unfold xmFlushHypBatch
  split
  · dsimp only
    rw [if_neg unsigned]
  · rfl

/-- A record that does not fit finds an empty batch. -/
theorem lazy_words (answer : Answer) (deferred : Deferred) (b : Batch)
    : ∃ outcome, xmLazyHypercall answer deferred b = .ok outcome
      ∧ outcome.calls = (makeRoom answer deferred.args.length b).calls
      ∧ outcome.batch.words
        = (makeRoom answer deferred.args.length b).batch.words ++ deferred.words := by
  have few := deferred.few
  have room : (makeRoom answer deferred.args.length b).batch.batchLen + deferred.words.length
      ≤ XM_BATCH_LEN := by
    rw [Deferred.words_length]
    unfold makeRoom
    split
    · rw [← words_length, (flush_empties answer b).1, List.length_nil, XM_BATCH_LEN]
      omega
    · next fits =>
        simp only [Batch.Full, not_or, not_le] at fits
        dsimp only
        omega
  obtain ⟨batch, stored, words⟩ := stores_words room
  refine ⟨{ makeRoom answer deferred.args.length b with batch }, ?_, rfl, words⟩
  unfold xmLazyHypercall
  simp only [Deferred.words, List.foldlM_cons] at stored
  obtain ⟨first, storedNumber, stored⟩ := bind_eq_ok.mp stored
  obtain ⟨second, storedCount, stored⟩ := bind_eq_ok.mp stored
  simp only [storedNumber, storedCount, stored, ok_bind]
  rfl

/-- No access leaves the batch, whatever `XM_multicall` returns. -/
theorem Request.run_returns (answer : Answer) (b : Batch) (request : Request)
    : ∃ outcome, request.run answer b = .ok outcome := by
  cases request with
  | flush => exact ⟨_, rfl⟩
  | lazy deferred =>
      obtain ⟨outcome, returned, _⟩ := lazy_words answer deferred b
      exact ⟨outcome, returned⟩

-----------------------------------------------------------------------------------------
-- The hypercalls in the batch

/-- A batch, and the hypercalls that have been deferred and not been executed. -/
structure Batched where
  batch : Batch
  queued : List Deferred

/-- The words of some records. -/
def records (queued : List Deferred) : List XmU32 :=
  queued.flatMap Deferred.words

def Request.deferred : Request → List Deferred
  | .flush => []
  | .lazy deferred => [deferred]

/-- What has succeeded is no longer queued. -/
def remaining (queued : List Deferred) (calls : List Handed) : List Deferred :=
  if calls.any fun call => decide (0 ≤ call.result.toInt) then [] else queued

/-- A request, with what `XM_multicall` does if it is called. -/
def Taken (s : Batched) (label : Request × Answer) (s' : Batched) : Prop :=
  ∃ outcome, label.1.run label.2 s.batch = .ok outcome
    ∧ s' = { batch := outcome.batch
             queued := remaining s.queued outcome.calls ++ label.1.deferred }

/-- A request hands over the records that are queued, all of them and in order, and leaves in the
batch those that are still queued; a flush makes a call if anything is, and returns what a failed
one has returned.
-/
structure Delivered (s : Batched) (label : Request × Answer) (outcome : Outcome) : Prop where
  handed : ∀ call ∈ outcome.calls, call.words = records s.queued
  kept : outcome.batch.words
    = records (remaining s.queued outcome.calls ++ label.1.deferred)
  flushed : label.1 = .flush → s.queued ≠ [] → outcome.calls ≠ []
  reported : label.1 = .flush → ∀ call ∈ outcome.calls, call.result.toInt < 0 →
    outcome.returned = some call.result

def DeliveredBy (s : Batched) (label : Request × Answer) : Prop :=
  ∃ outcome, label.1.run label.2 s.batch = .ok outcome ∧ Delivered s label outcome

/-- The request calls `XM_multicall` on a batch that is not empty. -/
def Calls (b : Batch) : Request → Prop
  | .flush => b.batchLen ≠ 0
  | .lazy deferred => b.batchLen ≠ 0 ∧ b.Full deferred.args.length

/-- `XM_multicall` succeeds if it is called. -/
def Succeeds (s : Batched) (label : Request × Answer) : Prop :=
  Calls s.batch label.1 → 0 ≤ label.2.result.toInt

theorem records_append (queued later : List Deferred)
    : records (queued ++ later) = records queued ++ records later :=
  List.flatMap_append

theorem records_eq_nil {queued : List Deferred} : records queued = [] ↔ queued = [] := by
  cases queued with
  | nil => simp [records]
  | cons deferred rest => simp [records, Deferred.words]

theorem records_one (deferred : Deferred) : records [deferred] = deferred.words := by
  simp [records]

/-- A request that calls `XM_multicall` hands over the whole batch and empties it. -/
theorem run_outcome {s : Batched} (held : s.batch.words = records s.queued)
    (label : Request × Answer)
    : ∃ outcome, label.1.run label.2 s.batch = .ok outcome
      ∧ ((Calls s.batch label.1 ∧ outcome.calls = [⟨records s.queued, label.2.result⟩]
          ∧ outcome.batch.words = records label.1.deferred)
        ∨ (¬ Calls s.batch label.1 ∧ outcome.calls = []
          ∧ outcome.batch.words = records (s.queued ++ label.1.deferred))) := by
  obtain ⟨request, answer⟩ := label
  obtain ⟨emptied, calls⟩ := flush_empties answer s.batch
  cases request with
  | flush =>
      refine ⟨_, rfl, ?_⟩
      by_cases empty : s.batch.batchLen = 0
      · have nothing : records s.queued = [] := by
          rw [← held, Batch.words, empty]
          rfl
        rw [if_pos empty] at calls
        refine Or.inr ⟨not_not.mpr empty, calls, ?_⟩
        rw [emptied, Request.deferred, List.append_nil, nothing]
      · rw [if_neg empty, held] at calls
        exact Or.inl ⟨empty, calls, emptied⟩
  | lazy deferred =>
      have few := deferred.few
      obtain ⟨outcome, returned, made, words⟩ := lazy_words answer deferred s.batch
      refine ⟨outcome, returned, ?_⟩
      unfold makeRoom at made words
      by_cases full : s.batch.Full deferred.args.length
      · have nonempty : s.batch.batchLen ≠ 0 := by
          unfold Batch.Full XM_BATCH_LEN at full
          omega
        rw [if_pos full] at made words
        rw [if_neg nonempty, held] at calls
        refine Or.inl ⟨⟨nonempty, full⟩, made.trans calls, ?_⟩
        rw [words, Request.deferred, records_one]
        exact congrArg (· ++ deferred.words) emptied
      · rw [if_neg full] at made words
        refine Or.inr ⟨fun calls => full calls.2, made, ?_⟩
        rw [words, held, records_append, Request.deferred, records_one]

theorem remaining_failed (queued : List Deferred) {call : Handed} (failed : call.result.toInt < 0)
    : remaining queued [call] = queued := by
  simp [remaining, Int.not_le.mpr failed]

theorem remaining_succeeded (queued : List Deferred) {call : Handed}
    (succeeded : 0 ≤ call.result.toInt)
    : remaining queued [call] = [] := by
  simp [remaining, succeeded]

theorem calls_queued {s : Batched} (held : s.batch.words = records s.queued) {request : Request}
    (calls : Calls s.batch request)
    : s.queued ≠ [] := by
  intro nothing
  have empty : s.batch.batchLen = 0 := by
    rw [← words_length, held, nothing]
    rfl
  cases request with
  | flush => exact calls empty
  | lazy deferred => exact calls.1 empty

/-- A request delivers what is queued unless it makes a call that fails. -/
theorem delivered_iff {s : Batched} (held : s.batch.words = records s.queued)
    (label : Request × Answer)
    : DeliveredBy s label ↔ Succeeds s label := by
  obtain ⟨outcome, ran, done⟩ := run_outcome held label
  constructor
  · rintro ⟨other, same, delivered⟩ calls
    rw [ran] at same
    cases same
    rcases done with ⟨_, made, words⟩ | ⟨quiet, _⟩
    · by_contra failed
      have kept := delivered.kept
      rw [made, remaining_failed _ (Int.not_le.mp failed), words, records_append] at kept
      -- The batch holds the new record alone, and the old ones are queued still.
      have nothing : records s.queued = [] := by
        have lengths := congrArg List.length kept
        rw [List.length_append] at lengths
        exact List.length_eq_zero_iff.mp (by omega)
      exact calls_queued held calls (records_eq_nil.mp nothing)
    · exact absurd calls quiet
  · intro succeeds
    refine ⟨outcome, ran, ?_⟩
    rcases done with ⟨calls, made, words⟩ | ⟨quiet, unmade, words⟩
    · have succeeded := succeeds calls
      constructor
      · intro call member
        rw [made, List.mem_singleton] at member
        rw [member]
      · rw [words, made, remaining_succeeded _ succeeded, List.nil_append]
      · intro _ _ nothing
        rw [nothing] at made
        cases made
      · intro _ call member failed
        rw [made, List.mem_singleton] at member
        rw [member] at failed
        exact absurd failed (Int.not_lt.mpr succeeded)
    · have empty : label.1 = .flush → s.queued = [] := by
        intro flush
        rw [flush] at quiet
        have zero : s.batch.batchLen = 0 := not_not.mp quiet
        rw [← records_eq_nil, ← held, Batch.words, zero]
        rfl
      constructor
      · intro call member
        rw [unmade] at member
        cases member
      · rw [words, unmade]
        rfl
      · intro flush queued
        exact absurd (empty flush) queued
      · intro _ call member
        rw [unmade] at member
        cases member

/-- Before any request. -/
def batchStart (xmHypercallBatch : Nat → XmU32) : Batched :=
  { batch := initBatch xmHypercallBatch, queued := [] }

/-- Every request of a run returns without an access outside the batch. The runs in which every
request delivers are those in which every call of `XM_multicall` succeeds.
-/
theorem lazy_runs_deliver_iff (xmHypercallBatch : Nat → XmU32) {past : List (Request × Answer)}
    {s : Batched}
    : (∀ request : Request, ∀ answer, ∃ outcome, request.run answer s.batch = .ok outcome)
      ∧ (Reach (fun s label s' => Taken s label s' ∧ DeliveredBy s label)
          (batchStart xmHypercallBatch) past s
        ↔ Reach (guarded Succeeds Taken) (batchStart xmHypercallBatch) past s) := by
  refine ⟨fun request answer => request.run_returns answer s.batch, ?_⟩
  refine Reach.kept_iff_guarded (P := fun s => s.batch.words = records s.queued)
    (R := fun s label _ => DeliveredBy s label) rfl ?_
  intro s label s' held taken
  refine ⟨delivered_iff held label, ?_⟩
  rintro ⟨outcome, ran, delivered⟩
  obtain ⟨other, same, rfl⟩ := taken
  rw [ran] at same
  cases same
  exact delivered.kept

/-- One deferred hypercall, and a flush for which `XM_multicall` returns `XM_INVALID_PARAM`: the
flush returns `XM_OK`, and the hypercall is gone.
-/
theorem failed_flush_reports_ok
    : ∃ s, Reach Taken (batchStart fun _ => 0)
        [(.lazy ⟨9, [1, 2], by decide⟩, ⟨0, fun _ => 0⟩)] s
      ∧ s.queued.length = 1
      ∧ (xmFlushHypBatch ⟨-3, fun _ => 0⟩ s.batch).calls = [⟨[9, 2, 1, 2], -3⟩]
      ∧ (xmFlushHypBatch ⟨-3, fun _ => 0⟩ s.batch).returned = some XM_OK
      ∧ (xmFlushHypBatch ⟨-3, fun _ => 0⟩ s.batch).batch.words = []
      ∧ ¬ DeliveredBy s (.flush, ⟨-3, fun _ => 0⟩) := by
  refine ⟨_, .step .start ⟨_, rfl, rfl⟩, rfl, rfl, rfl, rfl, ?_⟩
  rintro ⟨outcome, ran, delivered⟩
  cases ran
  have reported := delivered.reported rfl ⟨[9, 2, 1, 2], -3⟩ (List.mem_singleton.mpr rfl)
    (by decide)
  cases reported

end XtratuM.Hypercalls.Lazy
