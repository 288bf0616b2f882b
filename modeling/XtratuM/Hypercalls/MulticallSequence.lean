import XtratuM.Hypercalls.Multicall
import XtratuM.Library.Lockstep
import XtratuM.Library.WordMemory

/-! A multicall against the sequence of its hypercalls. The table of argument counts is kept beside
the parameter lists of the functions, and a round of the loop reads five words for any of them.
-/

namespace XtratuM.Hypercalls

open Lockstep
open XtratuM.Guest

variable {κ : Type}

/-- The words that the function of each hypercall takes by its parameter list, in which a time of
64 bits is two.
-/
def paramWordsTab : List Nat :=
  [2, 1, 1, 1, 3, 1, 0, 1, 0, 2, 5, 4, 4, 3, 3, 2, 2, 2, 2, 3, 2, 2, 1, 1, 2, 2, 2, 2, 4, 1,
    1, 1, 0, 1, 1, 1, 1, 1, 1, 3, 2, 2, 0, 0]

def paramWords (noHyp : XmU32) : Nat :=
  paramWordsTab.getD noHyp.toNat 0

/-- The functions of `hypercallsTab`, by number, on the words that they take. Two of them have no
result, and leave the dispatcher what happens to be in its register.
-/
abbrev Functions (κ : Type) : Type := XmU32 → List XmU32 → World κ → Int × World κ

/-- A function takes its own parameters of the words passed to it. -/
def Functions.handlers (functions : Functions κ) : Handlers κ :=
  fun noHyp args => functions noHyp (args.take (paramWords noHyp))

/-- The loop of a multicall at a record. -/
abbrev AtRecord (κ : Type) : Type := XmU32 × World κ

/-- One round of the loop of `MulticallSys`: it goes on to the next record or returns. -/
def batchRound (handlers : Handlers κ) (multicall : Multicall κ) (endAddr : XmU32)
    (s : AtRecord κ) : Except Stop (AtRecord κ ⊕ Int × World κ) :=
  if s.1 < endAddr then do
    let prepared ← prepare s.1 s.2
    match prepared with
    | .refused w => pure (.inr (XmRet.multicallError.code, w))
    | .call noHyp args w => do
        let returned ← dispatch handlers multicall noHyp args w
        let next ← finish noHyp s.1 returned
        pure (.inl next)
  else
    .ok (.inr (XmRet.ok.code, s.2))

/-- The number and the argument count of a record, once its result is cleared. -/
def recordHead (addr : XmU32) (w : World κ) : Except Stop (XmU32 × XmU32 × World κ) := do
  let noHyp ← w.space.read addr
  let w ← w.update (addr + 4) fun word => word &&& ~~~0xFFFF0000
  let count ← w.space.read (addr + 4)
  pure (noHyp, count, w)

/-- The number is not one of a hypercall, or the count not that of the table. -/
def Faulty (noHyp count : XmU32) : Prop :=
  NR_HYPERCALLS ≤ noHyp ∨ count ≠ noArgs noHyp

instance (noHyp count : XmU32) : Decidable (Faulty noHyp count) :=
  inferInstanceAs (Decidable (_ ∨ _))

/-- A record's hypercall issued directly, on the record's own words, and its result put in the
record. There is no such call when the function takes words that the record has not.
-/
def issue (functions : Functions κ) (noHyp addr : XmU32) (w : World κ)
    : Option (AtRecord κ) :=
  if paramWords noHyp = (noArgs noHyp).toNat then
    match batchParams w (noArgs noHyp).toNat (addr + 8) with
    | .error _ => none
    | .ok args =>
        let (ret, w) := functions noHyp args w
        (w.update (addr + 4) fun word => (word &&& 0xFFFF) ||| upperHalf ret).toOption.map
          fun w => (addr + (noArgs noHyp + 2) * 4, w)
  else
    none

/-- The sequence of a buffer's hypercalls, each issued directly, up to a faulty record. -/
def issueRound (functions : Functions κ) (endAddr : XmU32) (s : AtRecord κ)
    : Option (AtRecord κ ⊕ Int × World κ) :=
  if s.1 < endAddr then
    match recordHead s.1 s.2 with
    | .error _ => none
    | .ok (noHyp, count, w) =>
        if Faulty noHyp count then
          (w.update (s.1 + 4) fun word =>
              word ||| upperHalf XmRet.invalidParam.code).toOption.map
            fun w => .inr (XmRet.multicallError.code, w)
        else
          (issue functions noHyp s.1 w).map .inl
  else
    some (.inr (XmRet.ok.code, s.2))

/-- A batch's loop before its first record. -/
def Batch.start (batch : Batch κ) : AtRecord κ := (batch.startAddr, batch.world)

/-- The loop of the multicall as rounds that may be stuck. -/
def Batch.round (functions : Functions κ) (depth : Nat) (batch : Batch κ) (s : AtRecord κ)
    : Option (AtRecord κ ⊕ Int × World κ) :=
  (batchRound functions.handlers (multicallSys functions.handlers depth) batch.endAddr s).toOption

/-- The multicall is the sequence of its hypercalls: it is where they are after every record, and
returns what is left when they end.
-/
structure IsSequence (functions : Functions κ) (depth : Nat) (batch : Batch κ) : Prop where
  records : Same (batch.round functions depth) (issueRound functions batch.endAddr) batch.start
  returns : ∃ n result,
    after (issueRound functions batch.endAddr) batch.start n = some (.inr result)
    ∧ batch.run functions.handlers (depth + 1) = .ok result

/-- The kernel can read and write a word. -/
structure Accessible (space : AddressSpace) (addr : XmU32) : Prop where
  read : (space.readable addr && space.readable (addr + 3)) = true
  write : (space.writable addr && space.writable (addr + 3)) = true

/-- The result fits beside what a call leaves in its record's second word: what is in the upper half
is part of the result, as it is when the call leaves that half clear.
-/
structure ResultFits (addr : XmU32) (returned : Int × World κ) : Prop where
  accessible : Accessible returned.2.space addr
  upper : (returned.2.space.word addr &&& 0xFFFF0000) ||| upperHalf returned.1
    = upperHalf returned.1

/-- A record's call takes the words that the table declares, the five words after the record's head
can be read, and the call leaves room for its result.
-/
structure OwnWords (functions : Functions κ) (noHyp addr : XmU32) (w : World κ) : Prop where
  declared : paramWords noHyp = (noArgs noHyp).toNat
  called : ∃ words, batchParams w 5 (addr + 8) = .ok words
    ∧ ResultFits (addr + 4) (functions noHyp (words.take (noArgs noHyp).toNat) w)

/-- A record that can be read and, unless it is faulty, has a call on its own words. -/
def Sound (functions : Functions κ) (s : AtRecord κ) : Prop :=
  ∃ noHyp count w, recordHead s.1 s.2 = .ok (noHyp, count, w)
    ∧ (¬ Faulty noHyp count → OwnWords functions noHyp s.1 w)

/-- No record that the sequence comes to makes a multicall. -/
def NoMulticalls (functions : Functions κ) (batch : Batch κ) : Prop :=
  ∀ n s, after (issueRound functions batch.endAddr) batch.start n = some (.inl s) →
    s.1 < batch.endAddr → ∀ noHyp count w, recordHead s.1 s.2 = .ok (noHyp, count, w) →
    ¬ Faulty noHyp count → noHyp ≠ multicallNr

-----------------------------------------------------------------------------------------
-- Words in memory

section Words

/-- The memory once a word is written. -/
def put (space : AddressSpace) (addr value : XmU32) : AddressSpace :=
  { space with
    byte := fun a =>
      if a = addr then value.extractLsb' 0 8
      else if a = addr + 1 then value.extractLsb' 8 8
      else if a = addr + 2 then value.extractLsb' 16 8
      else if a = addr + 3 then value.extractLsb' 24 8
      else space.byte a }

theorem word_put (space : AddressSpace) (addr value : XmU32)
    : (put space addr value).word addr = value :=
  WordMemory.word_setWord space.byte addr value

theorem put_inj {space : AddressSpace} {addr v v' : XmU32}
    (same : put space addr v = put space addr v')
    : v = v' := by
  rw [← word_put space addr v, same, word_put]

/-- An update reads a word and writes it back. -/
theorem World.update_eq_ok {w w' : World κ} {addr : XmU32} {change : XmU32 → XmU32}
    : w.update addr change = .ok w'
      ↔ Accessible w.space addr
        ∧ w' = { w with space := put w.space addr (change (w.space.word addr)) } := by
  unfold World.update AddressSpace.read AddressSpace.write
  by_cases readable : (w.space.readable addr && w.space.readable (addr + 3)) = true
  · by_cases writable : (w.space.writable addr && w.space.writable (addr + 3)) = true
    · rw [if_pos readable, ok_bind, if_pos writable, ok_bind]
      have accessible : Accessible w.space addr := ⟨readable, writable⟩
      simp only [accessible, true_and]
      constructor
      · intro same
        cases same
        rfl
      · rintro rfl
        rfl
    · rw [if_pos readable, ok_bind, if_neg writable]
      constructor
      · nofun
      · rintro ⟨accessible, -⟩
        exact absurd accessible.write writable
  · rw [if_neg readable]
    constructor
    · nofun
    · rintro ⟨accessible, -⟩
      exact absurd accessible.read readable

theorem Accessible.update {w : World κ} {addr : XmU32} (accessible : Accessible w.space addr)
    (change : XmU32 → XmU32)
    : w.update addr change
      = .ok { w with space := put w.space addr (change (w.space.word addr)) } :=
  World.update_eq_ok.mpr ⟨accessible, rfl⟩

/-- A word that could be updated can be updated again. -/
theorem World.update_again {w w' : World κ} {addr : XmU32} {change : XmU32 → XmU32}
    (updated : w.update addr change = .ok w')
    : Accessible w'.space addr := by
  obtain ⟨accessible, rfl⟩ := World.update_eq_ok.mp updated
  exact ⟨accessible.read, accessible.write⟩

/-- The words before others that could be read. -/
theorem batchParams_take {w : World κ} {left n : Nat} {addr : XmU32} {words : List XmU32}
    (read : batchParams w left addr = .ok words) (fewer : n ≤ left)
    : batchParams w n addr = .ok (words.take n) := by
  induction left generalizing n addr words with
  | zero =>
      have none : n = 0 := by omega
      subst none
      rfl
  | succ left ih =>
      cases n with
      | zero => rfl
      | succ n =>
          obtain ⟨arg, first, later⟩ := bind_eq_ok.mp read
          obtain ⟨rest, others, same⟩ := bind_eq_ok.mp later
          cases same
          refine bind_eq_ok.mpr ⟨arg, first, bind_eq_ok.mpr ⟨rest.take n, ?_, rfl⟩⟩
          exact ih others (by omega)

/-- A result is or-ed in as if it replaced the upper half, when that half is part of it. -/
theorem or_upperHalf_iff (word : XmU32) (ret : Int)
    : word ||| upperHalf ret = (word &&& 0xFFFF) ||| upperHalf ret
      ↔ (word &&& 0xFFFF0000) ||| upperHalf ret = upperHalf ret := by
  have low : ∀ i : Fin 32, (0xFFFF : XmU32).getLsbD i = decide (i.val < 16) := by decide
  have high : ∀ i : Fin 32, (0xFFFF0000 : XmU32).getLsbD i = decide (16 ≤ i.val) := by decide
  rw [BitVec.eq_of_getLsbD_eq_iff, BitVec.eq_of_getLsbD_eq_iff]
  refine forall_congr' fun i => forall_congr' fun inside => ?_
  simp only [BitVec.getLsbD_or, BitVec.getLsbD_and, low ⟨i, inside⟩, high ⟨i, inside⟩]
  by_cases lower : i < 16
  · have clear : (upperHalf ret).getLsbD i = false := by simp [upperHalf, lower]
    simp [lower, clear]
  · simp [lower, Nat.not_lt.mp lower]

end Words

-----------------------------------------------------------------------------------------
-- One record

theorem prepare_eq (addr : XmU32) (w : World κ)
    : prepare addr w = (do
        let (noHyp, count, w) ← recordHead addr w
        if Faulty noHyp count then do
          let w ← w.update (addr + 4) fun word => word ||| upperHalf XmRet.invalidParam.code
          pure (.refused w)
        else do
          let args ← batchParams w 5 (addr + 8)
          pure (.call noHyp args w)) := by
  unfold recordHead
  simp only [bind_assoc, pure_bind]
  rfl

/-- The dispatcher's call, on the five words after a record's head. -/
def dispatchRecord (functions : Functions κ) (multicall : Multicall κ) (noHyp addr : XmU32)
    (w : World κ) : Except Stop (AtRecord κ) := do
  let args ← batchParams w 5 (addr + 8)
  let returned ← dispatch functions.handlers multicall noHyp args w
  finish noHyp addr returned

/-- A call that is dispatched takes the words that its function does. -/
theorem dispatchRecord_eq_ok {functions : Functions κ} {multicall : Multicall κ}
    {noHyp addr : XmU32} {w : World κ} {next : AtRecord κ} (direct : noHyp ≠ multicallNr)
    : dispatchRecord functions multicall noHyp addr w = .ok next
      ↔ ∃ words, batchParams w 5 (addr + 8) = .ok words
        ∧ finish noHyp addr (functions noHyp (words.take (paramWords noHyp)) w) = .ok next := by
  unfold dispatchRecord
  rw [bind_eq_ok]
  simp only [dispatch, direct, ↓reduceIte, ok_bind]
  rfl

/-- A direct call takes its record's words, as many as its function has parameters. -/
theorem issue_eq_some {functions : Functions κ} {noHyp addr : XmU32} {w : World κ}
    {next : AtRecord κ} {words : List XmU32} (read : batchParams w 5 (addr + 8) = .ok words)
    : issue functions noHyp addr w = some next
      ↔ paramWords noHyp = (noArgs noHyp).toNat
        ∧ ∃ w', (functions noHyp (words.take (paramWords noHyp)) w).2.update (addr + 4)
            (fun word => (word &&& 0xFFFF)
              ||| upperHalf (functions noHyp (words.take (paramWords noHyp)) w).1) = .ok w'
          ∧ next = (addr + (noArgs noHyp + 2) * 4, w') := by
  have few := noArgs_le noHyp
  unfold issue
  by_cases declared : paramWords noHyp = (noArgs noHyp).toNat
  · rw [if_pos declared, batchParams_take read (by omega), declared]
    simp only [Option.map_eq_some_iff, toOption_eq_some, true_and, eq_comm (a := next)]
  · simp [declared]

/-- The dispatcher's call and the direct one agree exactly on a record's own words. -/
theorem call_agree {functions : Functions κ} {multicall : Multicall κ} {noHyp addr : XmU32}
    {w : World κ} (direct : noHyp ≠ multicallNr)
    : (∃ next, dispatchRecord functions multicall noHyp addr w = .ok next
        ∧ issue functions noHyp addr w = some next)
      ↔ OwnWords functions noHyp addr w := by
  constructor
  · rintro ⟨next, dispatched, issued⟩
    obtain ⟨words, read, finished⟩ := (dispatchRecord_eq_ok direct).mp dispatched
    obtain ⟨declared, w', updated, rfl⟩ := (issue_eq_some read).mp issued
    obtain ⟨w'', ored, same⟩ := bind_eq_ok.mp finished
    cases same
    obtain ⟨accessible, world⟩ := World.update_eq_ok.mp ored
    have replaced := (World.update_eq_ok.mp updated).2
    have spaces := congrArg World.space (world.symm.trans replaced)
    refine ⟨declared, words, read, ?_⟩
    rw [← declared]
    exact ⟨accessible, (or_upperHalf_iff _ _).mp (put_inj spaces)⟩
  · rintro ⟨declared, words, read, fits⟩
    rw [← declared] at fits
    have same := (or_upperHalf_iff _ _).mpr fits.upper
    refine ⟨_, (dispatchRecord_eq_ok direct).mpr ⟨words, read, bind_eq_ok.mpr
      ⟨_, fits.accessible.update _, rfl⟩⟩, ?_⟩
    refine (issue_eq_some read).mpr ⟨declared, _, ?_, rfl⟩
    exact World.update_eq_ok.mpr ⟨fits.accessible, by rw [same]⟩

/-- A round at a record is that of a faulty one, or the dispatcher's call. -/
theorem batchRound_head {functions : Functions κ} {multicall : Multicall κ} {endAddr : XmU32}
    {s : AtRecord κ} {noHyp count : XmU32} {w : World κ} (inside : s.1 < endAddr)
    (head : recordHead s.1 s.2 = .ok (noHyp, count, w))
    : batchRound functions.handlers multicall endAddr s
      = if Faulty noHyp count then
          (w.update (s.1 + 4) fun word => word ||| upperHalf XmRet.invalidParam.code).map
            fun w => .inr (XmRet.multicallError.code, w)
        else
          (dispatchRecord functions multicall noHyp s.1 w).map .inl := by
  unfold batchRound
  rw [if_pos inside, prepare_eq, head]
  by_cases faulty : Faulty noHyp count
  · simp only [ok_bind, faulty, ↓reduceIte, bind_assoc, pure_bind]
    rfl
  · simp only [ok_bind, faulty, ↓reduceIte, bind_assoc, pure_bind, dispatchRecord]
    cases batchParams w 5 (s.1 + 8) with
    | error stop => rfl
    | ok args =>
        rw [ok_bind, ok_bind]
        cases dispatch functions.handlers multicall noHyp args w with
        | error stop => rfl
        | ok returned => cases finish noHyp s.1 returned <;> rfl

/-- A faulty record's second word, which was just cleared, takes the error. -/
theorem recordHead_accessible {addr noHyp count : XmU32} {w w' : World κ}
    (head : recordHead addr w = .ok (noHyp, count, w'))
    : Accessible w'.space (addr + 4) := by
  obtain ⟨_, -, head⟩ := bind_eq_ok.mp head
  obtain ⟨cleared, updated, head⟩ := bind_eq_ok.mp head
  obtain ⟨_, -, same⟩ := bind_eq_ok.mp head
  cases same
  exact World.update_again updated

/-- At a record the loop does what the sequence of hypercalls does exactly when the record is
sound.
-/
theorem record_agree {functions : Functions κ} {depth : Nat} {batch : Batch κ} {s : AtRecord κ}
    (inside : s.1 < batch.endAddr)
    (direct : ∀ noHyp count w, recordHead s.1 s.2 = .ok (noHyp, count, w) →
      ¬ Faulty noHyp count → noHyp ≠ multicallNr)
    : Agree (batch.round functions depth) (issueRound functions batch.endAddr) s
      ↔ Sound functions s := by
  unfold Agree Batch.round issueRound Sound
  simp only [if_pos inside, toOption_eq_some]
  cases head : recordHead s.1 s.2 with
  | error stop => simp
  | ok result =>
      obtain ⟨noHyp, count, w⟩ := result
      simp only [batchRound_head inside head, Except.ok.injEq, Prod.mk.injEq]
      by_cases faulty : Faulty noHyp count
      · have error := (recordHead_accessible head).update
          fun word => word ||| upperHalf XmRet.invalidParam.code
        simp only [faulty, ↓reduceIte, error]
        refine ⟨fun _ => ⟨noHyp, count, w, ⟨rfl, rfl, rfl⟩, fun sound => absurd faulty sound⟩, ?_⟩
        exact fun _ => ⟨_, rfl, rfl⟩
      · have same : (∃ next,
              dispatchRecord functions (multicallSys functions.handlers depth) noHyp s.1 w
                = .ok next
              ∧ issue functions noHyp s.1 w = some next)
            ↔ OwnWords functions noHyp s.1 w :=
          call_agree (direct noHyp count w head faulty)
        simp only [faulty, ↓reduceIte, map_eq_ok, Option.map_eq_some_iff]
        constructor
        · rintro ⟨_, ⟨next, dispatched, rfl⟩, ⟨next', issued, same'⟩⟩
          cases same'
          exact ⟨noHyp, count, w, ⟨rfl, rfl, rfl⟩, fun _ => same.mp ⟨next, dispatched, issued⟩⟩
        · rintro ⟨_, _, _, ⟨rfl, rfl, rfl⟩, own⟩
          obtain ⟨next, dispatched, issued⟩ := same.mpr (own faulty)
          exact ⟨.inl next, ⟨next, dispatched, rfl⟩, next, issued, rfl⟩

-----------------------------------------------------------------------------------------
-- Runs of records

/-- The loop of `MulticallSys` is its rounds. -/
theorem batchLoop_eq (handlers : Handlers κ) (multicall : Multicall κ) (endAddr : XmU32)
    (rounds : Nat) (s : AtRecord κ)
    : batchLoop handlers multicall endAddr (rounds + 1) s.1 s.2 = (do
        let next ← batchRound handlers multicall endAddr s
        match next with
        | .inl next => batchLoop handlers multicall endAddr rounds next.1 next.2
        | .inr result => .ok result) := by
  unfold batchRound
  rw [batchLoop]
  split
  · simp only [bind_assoc]
    refine congrArg _ (funext fun prepared => ?_)
    cases prepared with
    | refused w => rfl
    | call noHyp args w => simp only [bind_assoc, pure_bind]
  · rfl

/-- A round that goes on comes to a record further on. -/
theorem batchRound_advances {handlers : Handlers κ} {multicall : Multicall κ} {endAddr : XmU32}
    {s t : AtRecord κ} (below : endAddr < CONFIG_XM_OFFSET)
    (round : batchRound handlers multicall endAddr s = .ok (.inl t))
    : s.1.toNat < endAddr.toNat ∧ s.1.toNat + 8 ≤ t.1.toNat := by
  unfold batchRound at round
  split at round
  · next inside =>
      have before := BitVec.lt_def.mp inside
      obtain ⟨prepared, -, round⟩ := bind_eq_ok.mp round
      cases prepared with
      | refused w => cases round
      | call noHyp args w =>
          obtain ⟨returned, -, round⟩ := bind_eq_ok.mp round
          obtain ⟨next, finished, same⟩ := bind_eq_ok.mp round
          cases same
          have guest := Nat.lt_trans before (BitVec.lt_def.mp below)
          exact ⟨before, finish_advances finished guest⟩
  · cases round

/-- The loop returns what the sequence of hypercalls ends with, by induction on the rounds left. -/
theorem batchLoop_returns {functions : Functions κ} {depth : Nat} {batch : Batch κ}
    (below : batch.endAddr < CONFIG_XM_OFFSET) {rounds : Nat} {s : AtRecord κ}
    (same : Same (batch.round functions depth) (issueRound functions batch.endAddr) s)
    (enough : (batch.endAddr.toNat - s.1.toNat + 7) / 8 < rounds)
    : ∃ n result, after (issueRound functions batch.endAddr) s n = some (.inr result)
      ∧ batchLoop functions.handlers (multicallSys functions.handlers depth) batch.endAddr rounds
          s.1 s.2 = .ok result := by
  induction rounds generalizing s with
  | zero => omega
  | succ rounds ih =>
      obtain ⟨r, here, issued⟩ := same 1
      have round : batchRound functions.handlers (multicallSys functions.handlers depth)
          batch.endAddr s = .ok r := toOption_eq_some.mp here
      rw [batchLoop_eq, round, ok_bind]
      cases r with
      | inl t =>
          have further := batchRound_advances below round
          obtain ⟨n, result, ended, returned⟩ := ih (same.next issued) (by omega)
          exact ⟨n + 1, result, (after_next issued n).trans ended, returned⟩
      | inr result => exact ⟨1, result, issued, rfl⟩

/-- For every buffer that is accepted, of hypercalls that return, the multicall is the sequence of
its hypercalls if and only if every record that the sequence comes to is sound.
-/
theorem multicall_isSequence_iff (functions : Functions κ) (depth : Nat) (batch : Batch κ)
    (passes : batch.Passes) (direct : NoMulticalls functions batch)
    : IsSequence functions depth batch
      ↔ ∀ n s, after (issueRound functions batch.endAddr) batch.start n = some (.inl s) →
          s.1 < batch.endAddr → Sound functions s := by
  have agree : ∀ n s, after (issueRound functions batch.endAddr) batch.start n = some (.inl s) →
      s.1 < batch.endAddr →
      (Agree (batch.round functions depth) (issueRound functions batch.endAddr) s
        ↔ Sound functions s) := by
    intro n s there inside
    exact record_agree inside (direct n s there inside)
  constructor
  · intro sequence n s there inside
    exact (agree n s there inside).mp (same_iff.mp sequence.records n s there)
  · intro sound
    have same : Same (batch.round functions depth) (issueRound functions batch.endAddr)
        batch.start := by
      refine same_iff.mpr fun n s there => ?_
      by_cases inside : s.1 < batch.endAddr
      · exact (agree n s there inside).mpr (sound n s there inside)
      · refine ⟨.inr (XmRet.ok.code, s.2), ?_, if_neg inside⟩
        simp only [Batch.round, batchRound, inside, ↓reduceIte]
        rfl
    refine ⟨same, ?_⟩
    rw [passes.run functions.handlers depth]
    refine batchLoop_returns passes.below same ?_
    unfold batchRounds
    simp only [Batch.start]
    omega

/-- The table declares what the functions take, but for the multicall itself, `ResetPartitionSys`
and `SetTimerSys`.
-/
theorem declared_iff {noHyp : XmU32} (known : noHyp < NR_HYPERCALLS)
    : paramWords noHyp = (noArgs noHyp).toNat ↔ noHyp ≠ multicallNr ∧ noHyp ≠ 4 ∧ noHyp ≠ 10 := by
  have entries : ∀ nr : Fin 44, paramWords (.ofNat 32 nr) = (noArgs (.ofNat 32 nr)).toNat
      ↔ (BitVec.ofNat 32 nr : XmU32) ≠ multicallNr ∧ (BitVec.ofNat 32 nr : XmU32) ≠ 4
        ∧ (BitVec.ofNat 32 nr : XmU32) ≠ 10 := by
    decide
  have entry := entries ⟨noHyp.toNat, BitVec.lt_def.mp known⟩
  simpa only [BitVec.ofNat_toNat, BitVec.setWidth_eq] using entry

/-- The head of a record whose words can be read and written. -/
theorem recordHead_of {addr : XmU32} {w : World κ}
    (number : (w.space.readable addr && w.space.readable (addr + 3)) = true)
    (accessible : Accessible w.space (addr + 4))
    : ∃ w', recordHead addr w
      = .ok (w.space.word addr, w.space.word (addr + 4) &&& ~~~0xFFFF0000, w') := by
  have read : w.space.read addr = .ok (w.space.word addr) := if_pos number
  have count (value : XmU32) : (put w.space (addr + 4) value).read (addr + 4) = .ok value := by
    have readable : ((put w.space (addr + 4) value).readable (addr + 4)
        && (put w.space (addr + 4) value).readable (addr + 4 + 3)) = true := accessible.read
    rw [AddressSpace.read, if_pos readable, word_put]
  unfold recordHead
  rw [read, ok_bind, accessible.update, ok_bind, count]
  exact ⟨_, rfl⟩

/-- Memory that can be read and written all over. -/
def openSpace (byte : XmU32 → BitVec 8) : AddressSpace where
  byte
  readable _ := true
  writable _ := true

/-- A buffer with a `ResetPartitionSys` of its declared argument and an `IdleSelfSys`. -/
def resetBatch : Batch (List XmU32) where
  startAddr := 0x1000
  endAddr := 0x1014
  world :=
    { space := openSpace fun addr =>
        if addr = 0x1000 then 4 else if addr = 0x1004 then 1 else if addr = 0x100C then 8 else 0
      kernel := [] }

/-- Functions that leave the words they took. -/
def noteWords : Functions (List XmU32) :=
  fun _ args w => (0, { w with kernel := args })

theorem resetBatch_head
    : ∃ w, recordHead resetBatch.startAddr resetBatch.world = .ok (4, 1, w) :=
  recordHead_of rfl ⟨rfl, rfl⟩

theorem resetBatch_stuck : issueRound noteWords resetBatch.endAddr resetBatch.start = none := by
  obtain ⟨w, head⟩ := resetBatch_head
  have inside : resetBatch.start.1 < resetBatch.endAddr := by decide
  have takesMore : paramWords 4 ≠ (noArgs 4).toNat := by decide
  have counted : ¬ Faulty 4 1 := by decide
  unfold issueRound
  rw [if_pos inside]
  simp only [Batch.start, head, counted, ↓reduceIte, issue, takesMore, Option.map_none]

/-- The reset takes its mode and its status from the record that follows it. -/
theorem resetBatch_notSequence
    : resetBatch.Passes ∧ NoMulticalls noteWords resetBatch
      ∧ (resetBatch.round noteWords 0 resetBatch.start).map
          (Sum.elim (fun s => s.2.kernel) fun _ => []) = some [0, 8, 0]
      ∧ ∀ depth, ¬ IsSequence noteWords depth resetBatch := by
  have passes : resetBatch.Passes :=
    ⟨by decide, { ret := 0, probed := [0x1000] }, by decide, by decide⟩
  refine ⟨passes, ?_, by decide, ?_⟩
  · intro n s there inside noHyp count w head _
    obtain rfl | ⟨_, _, first, -⟩ := start_or_next there
    · obtain ⟨w', expected⟩ := resetBatch_head
      cases head.symm.trans expected
      decide
    · cases resetBatch_stuck.symm.trans first
  · intro depth sequence
    obtain ⟨r, -, issued⟩ := sequence.records 1
    exact absurd (resetBatch_stuck.symm.trans issued) (by simp)

instance decidableExistsOk {ε α : Type} (x : Except ε α) (P : α → Prop) [DecidablePred P]
    : Decidable (∃ a, x = .ok a ∧ P a) :=
  match x with
  | .error _ => .isFalse (by simp)
  | .ok a => decidable_of_iff (P a) (by simp)

instance (space : AddressSpace) (addr : XmU32) : Decidable (Accessible space addr) :=
  decidable_of_iff (_ ∧ _) ⟨fun both => ⟨both.1, both.2⟩, fun word => ⟨word.read, word.write⟩⟩

instance (addr : XmU32) (returned : Int × World κ) : Decidable (ResultFits addr returned) :=
  decidable_of_iff (_ ∧ _) ⟨fun both => ⟨both.1, both.2⟩, fun fits => ⟨fits.accessible, fits.upper⟩⟩

instance (functions : Functions κ) (noHyp addr : XmU32) (w : World κ)
    : Decidable (OwnWords functions noHyp addr w) :=
  decidable_of_iff (_ ∧ _) ⟨fun both => ⟨both.1, both.2⟩, fun own => ⟨own.declared, own.called⟩⟩

instance (functions : Functions κ) (s : AtRecord κ) : Decidable (Sound functions s) :=
  decidable_of_iff
    (∃ head, recordHead s.1 s.2 = .ok head
      ∧ (¬ Faulty head.1 head.2.1 → OwnWords functions head.1 s.1 head.2.2))
    (by simp [Sound])

/-- A buffer with a `HaltPartitionSys` of partition 3, a `WriteObjectSys` of four arguments and an
`IdleSelfSys`.
-/
def callsBatch : Batch (List XmU32) where
  startAddr := 0x1000
  endAddr := 0x102C
  world :=
    { space := openSpace fun addr =>
        if addr = 0x1000 then 1 else if addr = 0x1004 then 1 else if addr = 0x1008 then 3
        else if addr = 0x100C then 12 else if addr = 0x1010 then 4
        else if addr = 0x1014 then 0x20 else if addr = 0x1019 then 0x20
        else if addr = 0x101C then 16 else if addr = 0x1024 then 8 else 0
      kernel := [] }

theorem callsBatch_passes : callsBatch.Passes :=
  ⟨by decide, { ret := 0, probed := [0x1000] }, by decide, by decide⟩

/-- The sequence of its calls comes to three records and to the end of the buffer. -/
theorem callsBatch_states {n : Nat} {s : AtRecord (List XmU32)}
    (there : after (issueRound noteWords callsBatch.endAddr) callsBatch.start n = some (.inl s))
    : s ∈ states (issueRound noteWords callsBatch.endAddr) 5 callsBatch.start :=
  mem_states (by decide) there

theorem callsBatch_direct : NoMulticalls noteWords callsBatch := by
  intro n s there inside noHyp count w head _
  have others : ∀ s ∈ states (issueRound noteWords callsBatch.endAddr) 5 callsBatch.start,
      s.1 < callsBatch.endAddr →
      (recordHead s.1 s.2).toOption.all (fun head => head.1 ≠ multicallNr) = true := by
    decide
  have other := others s (callsBatch_states there) inside
  simpa [head, Except.toOption] using other

/-- Three calls, of one argument, of four and of none. -/
theorem multicall_isSequence_calls : IsSequence noteWords 0 callsBatch := by
  refine
    (multicall_isSequence_iff noteWords 0 callsBatch callsBatch_passes callsBatch_direct).mpr ?_
  have sound : ∀ s ∈ states (issueRound noteWords callsBatch.endAddr) 5 callsBatch.start,
      s.1 < callsBatch.endAddr → Sound noteWords s := by
    decide
  exact fun n s there => sound s (callsBatch_states there)

end XtratuM.Hypercalls
