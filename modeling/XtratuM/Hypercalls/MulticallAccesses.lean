import XtratuM.Hypercalls.MulticallSequence
import XtratuM.Library.Tracked

/-! The words of its buffer that a multicall accesses. The loop compares the start of a record with
the end of the buffer, and not the end of the record.
-/

namespace XtratuM.MulticallAccesses

open Guest
open Hypercalls
open Lockstep
open Tracked

variable {κ : Type}

/-- A word that a multicall reads as part of a record's head, passes on as an argument that the
table declares for the call or as one beyond those, or writes.
-/
inductive WordAccess
  | header (addr : XmU32)
  | argument (addr : XmU32)
  | surplus (addr : XmU32)
  | written (addr : XmU32)
  deriving DecidableEq, Repr

abbrev Accessing (α : Type) : Type := Computation WordAccess Stop α

/-- Reads a word of a record's head. -/
def readHeader (addr : XmU32) (w : World κ) : Accessing XmU32 :=
  access (.header addr) (w.space.read addr)

def updateHeader (addr : XmU32) (change : XmU32 → XmU32) (w : World κ) : Accessing (World κ) := do
  let old ← readHeader addr w
  let space ← access (.written addr) (w.space.write addr (change old))
  pure { w with space }

/-- An argument of a call, as one of those that the table declares or beyond them. -/
def paramAccess (noHyp addr : XmU32) (i : Nat) : WordAccess :=
  if i < (noArgs noHyp).toNat then
    .argument (addr + BitVec.ofNat 32 (4 * i))
  else
    .surplus (addr + BitVec.ofNat 32 (4 * i))

/-- The words handed to a call. C leaves open in which order they are read, so that all of them
count when the reading of one stops.
-/
def batchParams (noHyp addr : XmU32) (w : World κ) : Accessing (List XmU32) where
  accesses := (List.range 5).map (paramAccess noHyp addr)
  result := Hypercalls.batchParams w 5 addr

/-- The number and the argument count of a record, once its result is cleared. -/
def recordHead (addr : XmU32) (w : World κ) : Accessing (XmU32 × XmU32 × World κ) := do
  let noHyp ← readHeader addr w
  let w ← updateHeader (addr + 4) (fun word => word &&& ~~~0xFFFF0000) w
  let count ← readHeader (addr + 4) w
  pure (noHyp, count, w)

def prepare (addr : XmU32) (w : World κ) : Accessing (Prepared κ) := do
  let head ← recordHead addr w
  if Faulty head.1 head.2.1 then do
    let w ← updateHeader (addr + 4) (fun word => word ||| upperHalf XmRet.invalidParam.code)
      head.2.2
    pure (.refused w)
  else do
    let args ← batchParams head.1 (addr + 8) head.2.2
    pure (.call head.1 args head.2.2)

def finish (noHyp addr : XmU32) (returned : Int × World κ) : Accessing (XmU32 × World κ) := do
  let w ← updateHeader (addr + 4) (fun word => word ||| upperHalf returned.1) returned.2
  pure (addr + (noArgs noHyp + 2) * 4, w)

/-- A round of the loop of `MulticallSys`. What a call itself accesses is not counted. -/
def batchRound (handlers : Handlers κ) (multicall : Multicall κ) (endAddr : XmU32)
    (s : AtRecord κ) : Accessing (AtRecord κ ⊕ Int × World κ) :=
  if s.1 < endAddr then do
    let prepared ← prepare s.1 s.2
    match prepared with
    | .refused w => pure (.inr (XmRet.multicallError.code, w))
    | .call noHyp args w => do
        let returned ← lift (dispatch handlers multicall noHyp args w)
        let next ← finish noHyp s.1 returned
        pure (.inl next)
  else
    pure (.inr (XmRet.ok.code, s.2))

/-- The loop from a record on. -/
def batchLoop (handlers : Handlers κ) (multicall : Multicall κ) (endAddr : XmU32)
    : Nat → AtRecord κ → Accessing (Int × World κ)
  | 0, _ => lift (.error .diverges)
  | rounds + 1, s => do
      let goesOn ← batchRound handlers multicall endAddr s
      match goesOn with
      | .inl next => batchLoop handlers multicall endAddr rounds next
      | .inr result => pure result

/-- `MulticallSys`, with the multicalls in its buffer nested less deep than `depth`. -/
def multicallSys (handlers : Handlers κ) (depth : Nat) (startAddr endAddr : XmU32)
    (w : World κ) : Accessing (Int × World κ) :=
  if endAddr < startAddr then
    pure (XmRet.invalidParam.code, w)
  else do
    let checked ← lift (checkGParam w.space startAddr (endAddr - startAddr) batchFlags)
    if checked.ret < 0 then
      pure (XmRet.invalidParam.code, w)
    else
      batchLoop handlers (Hypercalls.multicallSys handlers depth) endAddr
        (batchRounds startAddr endAddr) (startAddr, w)

/-- A word that counts is in the buffer with all of its bytes. -/
def Inside (startAddr endAddr : XmU32) : WordAccess → Prop
  | .header addr | .argument addr | .written addr =>
      startAddr.toNat ≤ addr.toNat ∧ addr.toNat + 4 ≤ endAddr.toNat
  | .surplus _ => True

/-- The end of the record at an address: its head has two words, of which the second is not looked
at when the first cannot be read, and the arguments follow those of a call that is not refused.
-/
def recordEnd (addr : XmU32) (w : World κ) : Nat :=
  match w.space.read addr with
  | .error _ => addr.toNat + 4
  | .ok _ =>
      match Hypercalls.recordHead addr w with
      | .error _ => addr.toNat + 8
      | .ok (noHyp, count, _) =>
          if Faulty noHyp count then
            addr.toNat + 8
          else
            addr.toNat + 8 + 4 * (noArgs noHyp).toNat

/-- The loop over the records of a multicall as rounds that may be stuck. -/
def recordRound (handlers : Handlers κ) (depth : Nat) (endAddr : XmU32) (s : AtRecord κ)
    : Option (AtRecord κ ⊕ Int × World κ) :=
  (Hypercalls.batchRound handlers (Hypercalls.multicallSys handlers depth) endAddr s).toOption

/-- No record that the loop comes to before the end of the buffer ends beyond it. -/
def RecordsFit (handlers : Handlers κ) (depth : Nat) (endAddr : XmU32) (s : AtRecord κ) : Prop :=
  ∀ n t, after (recordRound handlers depth endAddr) s n = some (.inl t) →
    t.1 < endAddr → recordEnd t.1 t.2 ≤ endAddr.toNat

-----------------------------------------------------------------------------------------
-- What is computed

@[simp] theorem updateHeader_result (addr : XmU32) (change : XmU32 → XmU32) (w : World κ)
    : (updateHeader addr change w).result = w.update addr change := by
  simp only [updateHeader, readHeader, result_bind, result_access, result_pure]
  rfl

@[simp] theorem recordHead_result (addr : XmU32) (w : World κ)
    : (recordHead addr w).result = Hypercalls.recordHead addr w := by
  simp only [recordHead, readHeader, result_bind, result_access, updateHeader_result, result_pure]
  rfl

@[simp] theorem prepare_result (addr : XmU32) (w : World κ)
    : (prepare addr w).result = Hypercalls.prepare addr w := by
  rw [prepare_eq, prepare, result_bind, recordHead_result]
  refine congrArg _ (funext fun head => ?_)
  dsimp only
  split
  · simp only [result_bind, updateHeader_result, result_pure]
    rfl
  · simp only [result_bind, result_pure]
    rfl

@[simp] theorem finish_result (noHyp addr : XmU32) (returned : Int × World κ)
    : (finish noHyp addr returned).result = Hypercalls.finish noHyp addr returned := by
  simp only [finish, result_bind, updateHeader_result, result_pure]
  rfl

@[simp] theorem batchRound_result (handlers : Handlers κ) (multicall : Multicall κ)
    (endAddr : XmU32) (s : AtRecord κ)
    : (batchRound handlers multicall endAddr s).result
      = Hypercalls.batchRound handlers multicall endAddr s := by
  unfold batchRound Hypercalls.batchRound
  split
  · rw [result_bind, prepare_result]
    refine congrArg _ (funext fun prepared => ?_)
    cases prepared with
    | refused w => rfl
    | call noHyp args w =>
        simp only [result_bind, result_lift, finish_result, result_pure]
        rfl
  · rfl

theorem batchLoop_result (handlers : Handlers κ) (multicall : Multicall κ) (endAddr : XmU32)
    (rounds : Nat) (s : AtRecord κ)
    : (batchLoop handlers multicall endAddr rounds s).result
      = Hypercalls.batchLoop handlers multicall endAddr rounds s.1 s.2 := by
  induction rounds generalizing s with
  | zero => rfl
  | succ rounds ih =>
      rw [batchLoop_eq, batchLoop, result_bind, batchRound_result]
      refine congrArg _ (funext fun next => ?_)
      cases next with
      | inl next => exact ih next
      | inr result => rfl

/-- The accesses are those of the multicall: what is computed beside them is what it returns. -/
theorem multicallSys_result (handlers : Handlers κ) (depth : Nat) (startAddr endAddr : XmU32)
    (w : World κ)
    : (multicallSys handlers depth startAddr endAddr w).result
      = Hypercalls.multicallSys handlers (depth + 1) startAddr endAddr w := by
  unfold multicallSys Hypercalls.multicallSys
  split
  · rfl
  · rw [result_bind, ifChecked, result_lift]
    refine congrArg _ (funext fun checked => ?_)
    split
    · rfl
    · exact batchLoop_result handlers _ endAddr _ _

-----------------------------------------------------------------------------------------
-- What is accessed

section Within

variable {P : WordAccess → Prop}

theorem updateHeader_within {addr : XmU32} {change : XmU32 → XmU32} {w : World κ}
    (header : P (.header addr)) (written : P (.written addr))
    : (updateHeader addr change w).Within P := by
  refine within_bind.mpr ⟨within_access.mpr header, fun old _ => ?_⟩
  exact within_bind.mpr ⟨within_access.mpr written, fun _ _ => within_pure _⟩

theorem batchParams_within {noHyp addr : XmU32} {w : World κ}
    : (batchParams noHyp addr w).Within P ↔ ∀ i < 5, P (paramAccess noHyp addr i) := by
  simp [Computation.Within, batchParams]

end Within

/-- A record ends in time when its head does, with the arguments of a call that is not refused. -/
theorem recordEnd_le {addr : XmU32} {w : World κ} {limit : Nat}
    : recordEnd addr w ≤ limit
      ↔ addr.toNat + 4 ≤ limit
        ∧ (∀ noHyp, w.space.read addr = .ok noHyp → addr.toNat + 8 ≤ limit)
        ∧ ∀ noHyp count w', Hypercalls.recordHead addr w = .ok (noHyp, count, w') →
          ¬ Faulty noHyp count → addr.toNat + 8 + 4 * (noArgs noHyp).toNat ≤ limit := by
  unfold recordEnd
  cases read : w.space.read addr with
  | error stop =>
      have head : Hypercalls.recordHead addr w = .error stop := by
        rw [Hypercalls.recordHead, read]
        rfl
      simp [head]
  | ok noHyp =>
      cases head : Hypercalls.recordHead addr w with
      | error stop =>
          simp
          omega
      | ok found =>
          obtain ⟨noHyp', count, w'⟩ := found
          dsimp only
          split
          · next faulty =>
              refine ⟨fun fits => ⟨by omega, fun _ _ => fits, ?_⟩, fun fits => fits.2.1 _ rfl⟩
              intro _ _ _ same call
              cases same
              exact absurd faulty call
          · next call =>
              refine ⟨fun fits => ⟨by omega, fun _ _ => by omega, ?_⟩,
                fun fits => fits.2.2 _ _ _ rfl call⟩
              intro _ _ _ same _
              cases same
              exact fits

/-- A record of a buffer in guest memory. -/
structure AtBuffer (startAddr endAddr addr : XmU32) : Prop where
  after : startAddr.toNat ≤ addr.toNat
  before : addr.toNat < endAddr.toNat
  guest : endAddr.toNat < CONFIG_XM_OFFSET.toNat

section Round

variable {startAddr endAddr addr : XmU32} {w : World κ}

theorem AtBuffer.add (here : AtBuffer startAddr endAddr addr) {offset : Nat}
    (small : offset < 0x1000)
    : (addr + BitVec.ofNat 32 offset).toNat = addr.toNat + offset := by
  have top : CONFIG_XM_OFFSET.toNat = 0xFC000000 := rfl
  have before := here.before
  have guest := here.guest
  rw [BitVec.toNat_add, BitVec.toNat_ofNat]
  omega

theorem AtBuffer.second (here : AtBuffer startAddr endAddr addr)
    : (addr + 4).toNat = addr.toNat + 4 :=
  here.add (by decide)

theorem recordHead_within (here : AtBuffer startAddr endAddr addr)
    : (recordHead addr w).Within (Inside startAddr endAddr)
      ↔ addr.toNat + 4 ≤ endAddr.toNat
        ∧ ∀ noHyp, w.space.read addr = .ok noHyp → addr.toNat + 8 ≤ endAddr.toNat := by
  have second := here.second
  have after := here.after
  constructor
  · intro within
    obtain ⟨number, rest⟩ := within_bind.mp within
    refine ⟨(within_access.mp number).2, ?_⟩
    intro noHyp read
    have update := (within_bind.mp (rest noHyp read)).1
    have count : Inside startAddr endAddr (.header (addr + 4)) :=
      within_access.mp (within_bind.mp update).1
    have bound := count.2
    omega
  · rintro ⟨number, count⟩
    refine within_bind.mpr ⟨within_access.mpr ⟨after, number⟩, ?_⟩
    intro noHyp read
    have bound := count noHyp read
    have inside : startAddr.toNat ≤ (addr + 4).toNat ∧ (addr + 4).toNat + 4 ≤ endAddr.toNat := by
      omega
    refine within_bind.mpr ⟨updateHeader_within inside inside, fun w' _ => ?_⟩
    exact within_bind.mpr ⟨within_access.mpr inside, fun _ _ => within_pure _⟩

theorem batchParams_inside (here : AtBuffer startAddr endAddr addr) (noHyp : XmU32)
    (head : addr.toNat + 8 ≤ endAddr.toNat)
    : (batchParams noHyp (addr + 8) w).Within (Inside startAddr endAddr)
      ↔ addr.toNat + 8 + 4 * (noArgs noHyp).toNat ≤ endAddr.toNat := by
  have few := noArgs_le noHyp
  have after := here.after
  have place (i : Nat) (small : i < 5)
      : (addr + 8 + BitVec.ofNat 32 (4 * i)).toNat = addr.toNat + 8 + 4 * i := by
    have sum : addr + 8 + BitVec.ofNat 32 (4 * i) = addr + BitVec.ofNat 32 (8 + 4 * i) := by
      rw [BitVec.add_assoc, BitVec.ofNat_add]
      rfl
    rw [sum, here.add (by omega)]
    omega
  rw [batchParams_within]
  constructor
  · intro within
    cases count : (noArgs noHyp).toNat with
    | zero => omega
    | succ last =>
        -- the last of the declared arguments reaches furthest
        have access := within last (by omega)
        rw [paramAccess, if_pos (by omega)] at access
        have bound := access.2
        rw [place last (by omega)] at bound
        omega
  · intro fits i small
    unfold paramAccess
    split
    · next declared =>
        have here := place i small
        exact ⟨by omega, by omega⟩
    · trivial

theorem batchRound_within {handlers : Handlers κ} {multicall : Multicall κ} {s : AtRecord κ}
    (here : AtBuffer startAddr endAddr s.1)
    : (batchRound handlers multicall endAddr s).Within (Inside startAddr endAddr)
      ↔ recordEnd s.1 s.2 ≤ endAddr.toNat := by
  have second := here.second
  have after := here.after
  have results (addr' : XmU32) (same : addr' = s.1 + 4) (head : s.1.toNat + 8 ≤ endAddr.toNat)
      (change : XmU32 → XmU32) (w : World κ)
      : (updateHeader addr' change w).Within (Inside startAddr endAddr) := by
    have inside : startAddr.toNat ≤ addr'.toNat ∧ addr'.toNat + 4 ≤ endAddr.toNat := by
      subst same
      omega
    exact updateHeader_within inside inside
  rw [recordEnd_le, batchRound, if_pos (BitVec.lt_def.mpr here.before), prepare]
  constructor
  · intro within
    have prepares := (within_bind.mp within).1
    obtain ⟨head, rest⟩ := within_bind.mp prepares
    obtain ⟨number, count⟩ := (recordHead_within here).mp head
    refine ⟨number, count, ?_⟩
    intro noHyp given w' found call
    obtain ⟨noHyp', read, _⟩ := bind_eq_ok.mp found
    have args := rest (noHyp, given, w') ((recordHead_result _ _).trans found)
    rw [if_neg call] at args
    exact (batchParams_inside here noHyp (count noHyp' read)).mp (within_bind.mp args).1
  · rintro ⟨number, count, args⟩
    have opened {found : XmU32 × XmU32 × World κ}
        (head : (recordHead s.1 s.2).result = .ok found)
        : s.1.toNat + 8 ≤ endAddr.toNat := by
      rw [recordHead_result] at head
      obtain ⟨noHyp, read, _⟩ := bind_eq_ok.mp head
      exact count noHyp read
    refine within_bind.mpr ⟨within_bind.mpr ⟨(recordHead_within here).mpr ⟨number, count⟩, ?_⟩, ?_⟩
    · rintro ⟨noHyp, given, w'⟩ head
      dsimp only
      split
      · exact within_bind.mpr ⟨results _ rfl (opened head) _ _, fun _ _ => within_pure _⟩
      · next call =>
          refine within_bind.mpr ⟨?_, fun _ _ => within_pure _⟩
          refine (batchParams_inside here noHyp (opened head)).mpr ?_
          exact args noHyp given w' ((recordHead_result _ _).symm.trans head) call
    · intro prepared returned
      rw [result_bind] at returned
      obtain ⟨found, head, _⟩ := bind_eq_ok.mp returned
      cases prepared with
      | refused w' => exact within_pure _
      | call noHyp args w' =>
          refine within_bind.mpr ⟨within_lift _, fun returned _ => ?_⟩
          refine within_bind.mpr ⟨?_, fun _ _ => within_pure _⟩
          exact within_bind.mpr ⟨results _ rfl (opened head) _ _, fun _ _ => within_pure _⟩

end Round

/-- The records fit if the first does and, from where the round over it goes on, the others. -/
theorem recordsFit_next {handlers : Handlers κ} {depth : Nat} {endAddr : XmU32} {s : AtRecord κ}
    : RecordsFit handlers depth endAddr s
      ↔ (s.1 < endAddr → recordEnd s.1 s.2 ≤ endAddr.toNat)
        ∧ ∀ t, recordRound handlers depth endAddr s = some (.inl t) →
          RecordsFit handlers depth endAddr t := by
  constructor
  · intro fits
    refine ⟨fits 0 s rfl, ?_⟩
    intro t round n u there
    exact fits (n + 1) u ((after_next round n).trans there)
  · rintro ⟨here, rest⟩ n t there inside
    rcases start_or_next there with rfl | ⟨u, m, round, there⟩
    · exact here inside
    · exact rest u round m t there inside

/-- Induction on the rounds left, of which there are enough for the rest of the buffer. -/
theorem batchLoop_within {handlers : Handlers κ} {depth : Nat} {startAddr endAddr : XmU32}
    (guest : endAddr < CONFIG_XM_OFFSET) {rounds : Nat} {s : AtRecord κ}
    (behind : startAddr.toNat ≤ s.1.toNat)
    (enough : (endAddr.toNat - s.1.toNat + 7) / 8 < rounds)
    : (batchLoop handlers (Hypercalls.multicallSys handlers depth) endAddr rounds s).Within
        (Inside startAddr endAddr)
      ↔ RecordsFit handlers depth endAddr s := by
  induction rounds generalizing s with
  | zero => omega
  | succ rounds ih =>
      have round : (batchRound handlers (Hypercalls.multicallSys handlers depth) endAddr s).Within
            (Inside startAddr endAddr)
          ↔ (s.1 < endAddr → recordEnd s.1 s.2 ≤ endAddr.toNat) := by
        by_cases inside : s.1 < endAddr
        · have here : AtBuffer startAddr endAddr s.1 :=
            { after := behind
              before := BitVec.lt_def.mp inside
              guest := BitVec.lt_def.mp guest }
          simp only [batchRound_within here, inside, forall_const]
        · rw [batchRound, if_neg inside]
          exact iff_of_true (within_pure _) fun other => absurd other inside
      rw [batchLoop, within_bind, round, recordsFit_next]
      refine and_congr_right fun _ => ?_
      have next {t : AtRecord κ}
          (goesOn : Hypercalls.batchRound handlers (Hypercalls.multicallSys handlers depth)
            endAddr s = .ok (.inl t))
          : (batchLoop handlers (Hypercalls.multicallSys handlers depth) endAddr rounds t).Within
              (Inside startAddr endAddr)
            ↔ RecordsFit handlers depth endAddr t := by
        have further := batchRound_advances guest goesOn
        exact ih (by omega) (by omega)
      constructor
      · intro within t goesOn
        have returned := toOption_eq_some.mp goesOn
        exact (next returned).mp (within (.inl t) ((batchRound_result _ _ _ _).trans returned))
      · intro rest goesOn returned
        rw [batchRound_result] at returned
        cases goesOn with
        | inl t => exact (next returned).mpr (rest t (toOption_eq_some.mpr returned))
        | inr result => exact within_pure _

/-- An accepted multicall stays inside its buffer exactly when no record that it comes to ends
beyond it.
-/
theorem multicall_stays_inside (handlers : Handlers κ) (depth : Nat) {batch : Batch κ}
    (passes : batch.Passes)
    : (multicallSys handlers depth batch.startAddr batch.endAddr batch.world).Within
        (Inside batch.startAddr batch.endAddr)
      ↔ RecordsFit handlers depth batch.endAddr batch.start := by
  have enough : (batch.endAddr.toNat - batch.startAddr.toNat + 7) / 8
      < batchRounds batch.startAddr batch.endAddr := by
    unfold batchRounds
    omega
  rw [← batchLoop_within passes.below (Nat.le_refl batch.startAddr.toNat) enough]
  obtain ⟨checked, check, passed⟩ := passes.accepted
  rw [multicallSys, if_neg passes.ordered, within_bind]
  constructor
  · rintro ⟨_, loop⟩
    have loop := loop checked check
    rwa [if_neg passed] at loop
  · intro loop
    refine ⟨within_lift _, ?_⟩
    intro other returned
    cases check.symm.trans returned
    rwa [if_neg passed]

/-- Three records of one argument, of four and of none, which fill their buffer. -/
theorem calls_inside
    : (multicallSys noteWords.handlers 0 callsBatch.startAddr callsBatch.endAddr
        callsBatch.world).Within (Inside callsBatch.startAddr callsBatch.endAddr) := by
  refine (multicall_stays_inside noteWords.handlers 0 callsBatch_passes).mpr ?_
  have fit : ∀ s ∈ states (recordRound noteWords.handlers 0 callsBatch.endAddr) 5 callsBatch.start,
      s.1 < callsBatch.endAddr → recordEnd s.1 s.2 ≤ callsBatch.endAddr.toNat := by
    decide
  exact fun n s there => fit s (mem_states (by decide) there)

-----------------------------------------------------------------------------------------
-- A buffer too short for a record

/-- A word that is the number of no hypercall. -/
def oneWord : Batch Unit where
  startAddr := 0x1000
  endAddr := 0x1004
  world := { space := openSpace fun _ => 0xFF, kernel := () }

/-- A buffer of one word is one record for the loop, which writes the word after the buffer. -/
theorem one_word_overrun
    : oneWord.Passes
      ∧ ¬ (multicallSys (fun _ _ w => (0, w)) 0 oneWord.startAddr oneWord.endAddr
          oneWord.world).Within (Inside oneWord.startAddr oneWord.endAddr) := by
  refine ⟨⟨by decide, { ret := 0, probed := [0x1000] }, by decide, by decide⟩, ?_⟩
  intro within
  have outside := within (.written 0x1004) (by decide)
  exact absurd outside.2 (by decide)

end XtratuM.MulticallAccesses
