import XtratuM.Hypercalls.Multicall

/-! Multicalls in multicalls. Each one is an activation of `MulticallSys` on the kernel stack, which
has room for so many of them.
-/

namespace XtratuM.Hypercalls

open Budget
open XtratuM.Guest

variable {κ : Type}

/-- The multicall returns on a kernel stack with room for `levels` activations of `MulticallSys`:
it never makes another below the last of them.
-/
def Batch.ReturnsOn (handlers : Handlers κ) (levels : Nat) (batch : Batch κ) : Prop :=
  Avoids .diverges (batch.run handlers levels)

/-- The loop comes from one record to another, every call between them having returned. -/
inductive Reaches (handlers : Handlers κ) (endAddr : XmU32)
    : XmU32 → World κ → XmU32 → World κ → Prop
  | here {addr : XmU32} {w : World κ} : Reaches handlers endAddr addr w addr w
  | record {addr addr' noHyp : XmU32} {args : List XmU32} {w w' prepared : World κ}
      {depth : Nat} {returned : Int × World κ} {next : XmU32 × World κ}
      (inside : addr < endAddr) (head : prepare addr w = .ok (.call noHyp args prepared))
      (returns : dispatch handlers (multicallSys handlers depth) noHyp args prepared
        = .ok returned)
      (finished : finish noHyp addr returned = .ok next)
      (rest : Reaches handlers endAddr next.1 next.2 addr' w')
    : Reaches handlers endAddr addr w addr' w'

/-- The loop over `batch` comes to a record that makes the multicall `nested`. -/
structure Nests (handlers : Handlers κ) (batch nested : Batch κ) : Prop where
  passes : batch.Passes
  found : ∃ addr w args, Reaches handlers batch.endAddr batch.startAddr batch.world addr w
    ∧ addr < batch.endAddr
    ∧ prepare addr w = .ok (.call multicallNr args nested.world)
    ∧ nested.startAddr = args.getD 0 0 ∧ nested.endAddr = args.getD 1 0

/-- From `batch` on, multicalls are nested in each other so many deep. -/
inductive NestedBy (handlers : Handlers κ) : Nat → Batch κ → Prop
  | outermost {batch : Batch κ} : NestedBy handlers 0 batch
  | deeper {batch nested : Batch κ} {levels : Nat} (nests : Nests handlers batch nested)
      (rest : NestedBy handlers levels nested)
    : NestedBy handlers (levels + 1) batch

/-- The loop comes from one record to another over records of other hypercalls than the multicall:
each leaves the buffer as its handler does, with the result in the record.
-/
inductive Walks (handlers : Handlers κ) (endAddr : XmU32)
    : XmU32 → World κ → XmU32 → World κ → Prop
  | here {addr : XmU32} {w : World κ} : Walks handlers endAddr addr w addr w
  | record {addr addr' noHyp : XmU32} {args : List XmU32} {w w' prepared : World κ}
      {next : XmU32 × World κ} (inside : addr < endAddr)
      (head : prepare addr w = .ok (.call noHyp args prepared)) (other : noHyp ≠ multicallNr)
      (finished : finish noHyp addr (handlers noHyp args prepared) = .ok next)
      (rest : Walks handlers endAddr next.1 next.2 addr' w')
    : Walks handlers endAddr addr w addr' w'

/-- No record of the buffer has the number of the multicall when the loop comes to it. -/
def Batch.NamesNoMulticall (handlers : Handlers κ) (batch : Batch κ) : Prop :=
  batch.Passes → ∀ addr w, Walks handlers batch.endAddr batch.startAddr batch.world addr w →
    addr < batch.endAddr → ∀ args prepared, prepare addr w ≠ .ok (.call multicallNr args prepared)

-----------------------------------------------------------------------------------------
-- A stack with room for some activations

/-- A multicall that fails them returns at once. -/
theorem Batch.refused {batch : Batch κ} (refused : ¬ batch.Passes) (handlers : Handlers κ)
    (depth : Nat)
    : Avoids .diverges (batch.run handlers (depth + 1)) := by
  intro stops
  unfold Batch.run multicallSys at stops
  split at stops
  · cases stops
  · next ordered => exact refused ⟨ordered, (ifChecked_stops stops).1⟩

/-- What is dispatched the same way at two depths at which it ends returns the same. -/
theorem dispatch_agree {handlers : Handlers κ} {noHyp : XmU32} {args : List XmU32} {w : World κ}
    {depth depth' : Nat}
    (within : Avoids .diverges (dispatch handlers (multicallSys handlers depth) noHyp args w))
    (within' : Avoids .diverges (dispatch handlers (multicallSys handlers depth') noHyp args w))
    : dispatch handlers (multicallSys handlers depth) noHyp args w
      = dispatch handlers (multicallSys handlers depth') noHyp args w := by
  exact agree (fun depth => dispatch handlers (multicallSys handlers depth) noHyp args w)
    (fun depth => dispatch_extended (multicallSys_extends handlers depth) noHyp args w)
    within within'

/-- A loop that ends, ends from every record it comes to. -/
theorem Reaches.ends {handlers : Handlers κ} {endAddr addr addr' : XmU32} {w w' : World κ}
    {depth rounds : Nat} (reaches : Reaches handlers endAddr addr w addr' w')
    (ends : Avoids .diverges
      (batchLoop handlers (multicallSys handlers depth) endAddr rounds addr w))
    : ∃ rounds', Avoids .diverges
        (batchLoop handlers (multicallSys handlers depth) endAddr rounds' addr' w') := by
  induction reaches generalizing rounds with
  | here => exact ⟨rounds, ends⟩
  | @record addr addr' noHyp args w w' prepared depth' returned next inside head returns finished
      rest ih =>
      cases rounds with
      | zero => exact absurd rfl ends
      | succ rounds =>
          simp only [batchLoop, if_pos inside, head, ok_bind] at ends
          have within : Avoids .diverges
              (dispatch handlers (multicallSys handlers depth) noHyp args prepared) := by
            intro stops
            rw [stops] at ends
            exact ends rfl
          have same := dispatch_agree within (returns ▸ avoids_ok returned)
          rw [same.trans returns, ok_bind, finished, ok_bind] at ends
          exact ih ends

/-- A multicall that returns on a stack leaves each one nested in it a level less. -/
theorem Nests.returnsOn {handlers : Handlers κ} {levels : Nat} {batch nested : Batch κ}
    (nests : Nests handlers batch nested) (returns : batch.ReturnsOn handlers (levels + 1))
    : nested.ReturnsOn handlers levels := by
  obtain ⟨passes, addr, w, args, reaches, inside, head, startAddr, endAddr⟩ := nests
  rw [Batch.ReturnsOn, passes.run handlers levels] at returns
  obtain ⟨rounds, ends⟩ := reaches.ends returns
  cases rounds with
  | zero => exact absurd rfl ends
  | succ rounds =>
      simp only [batchLoop, if_pos inside, head, ok_bind] at ends
      intro stops
      have dispatched : dispatch handlers (multicallSys handlers levels) multicallNr args
          nested.world = .error .diverges := by
        rw [dispatch, if_pos rfl, ← startAddr, ← endAddr]
        exact stops
      rw [dispatched] at ends
      exact ends rfl

/-- The loop goes on from a record whose call returned. -/
theorem Reaches.snoc {handlers : Handlers κ} {endAddr addr addr' noHyp : XmU32}
    {args : List XmU32} {w w' prepared : World κ} {depth : Nat} {returned : Int × World κ}
    {next : XmU32 × World κ} (reaches : Reaches handlers endAddr addr w addr' w')
    (inside : addr' < endAddr) (head : prepare addr' w' = .ok (.call noHyp args prepared))
    (returns : dispatch handlers (multicallSys handlers depth) noHyp args prepared
      = .ok returned)
    (finished : finish noHyp addr' returned = .ok next)
    : Reaches handlers endAddr addr w next.1 next.2 := by
  induction reaches with
  | here => exact .record inside head returns finished .here
  | record inside' head' returns' finished' _ ih =>
      exact .record inside' head' returns' finished' (ih inside head finished)

/-- Where every nested multicall returns, the loop ends, by induction on the rounds left. -/
theorem Batch.Passes.loop_ends {handlers : Handlers κ} {batch : Batch κ} {levels : Nat}
    (passes : batch.Passes)
    (nested : ∀ other, Nests handlers batch other → other.ReturnsOn handlers levels)
    {rounds : Nat} {addr : XmU32} {w : World κ}
    (reaches : Reaches handlers batch.endAddr batch.startAddr batch.world addr w)
    (enough : (batch.endAddr.toNat - addr.toNat + 7) / 8 < rounds)
    : Avoids .diverges
        (batchLoop handlers (multicallSys handlers levels) batch.endAddr rounds addr w) := by
  induction rounds generalizing addr w with
  | zero => omega
  | succ rounds ih =>
      unfold batchLoop
      split
      · next inside =>
          refine (prepare_ends addr w).bind fun prepared head => ?_
          cases prepared with
          | refused w' => exact avoids_pure _
          | call noHyp args w' =>
              have called : Avoids .diverges
                  (dispatch handlers (multicallSys handlers levels) noHyp args w') := by
                unfold dispatch
                split
                · next multi =>
                    subst multi
                    exact nested ⟨args.getD 0 0, args.getD 1 0, w'⟩
                      ⟨passes, addr, w, args, reaches, inside, head, rfl, rfl⟩
                · exact avoids_ok _
              refine called.bind fun returned returns => ?_
              refine (finish_ends noHyp addr returned).bind fun next finished => ?_
              refine ih (reaches.snoc inside head returns finished) ?_
              have before := BitVec.lt_def.mp inside
              have guest : addr.toNat < CONFIG_XM_OFFSET.toNat :=
                Nat.lt_trans before (BitVec.lt_def.mp passes.below)
              have further := finish_advances finished guest
              omega
      · exact avoids_ok _

/-- A multicall returns on a stack when those nested in it do on what it leaves of the stack. -/
theorem Batch.returnsOn_succ {handlers : Handlers κ} {levels : Nat} {batch : Batch κ}
    (nested : ∀ other, Nests handlers batch other → other.ReturnsOn handlers levels)
    : batch.ReturnsOn handlers (levels + 1) := by
  by_cases passes : batch.Passes
  · have enough : (batch.endAddr.toNat - batch.startAddr.toNat + 7) / 8
        < batchRounds batch.startAddr batch.endAddr := by
      unfold batchRounds
      omega
    rw [Batch.ReturnsOn, passes.run handlers levels]
    exact passes.loop_ends nested .here enough
  · exact Batch.refused passes handlers levels

/-- A stack is enough exactly when multicalls are nested less deep than it has room for: by
induction on the room, of which a nested multicall has one level less.
-/
theorem Batch.returnsOn_iff (handlers : Handlers κ) (levels : Nat) (batch : Batch κ)
    : batch.ReturnsOn handlers (levels + 1) ↔ ¬ NestedBy handlers (levels + 1) batch := by
  induction levels generalizing batch with
  | zero =>
      constructor
      · intro returns nestedBy
        cases nestedBy with
        | deeper nests _ => exact absurd rfl (nests.returnsOn returns)
      · intro flat
        exact Batch.returnsOn_succ fun other nests => absurd (.deeper nests .outermost) flat
  | succ levels ih =>
      constructor
      · intro returns nestedBy
        cases nestedBy with
        | deeper nests rest => exact (ih _).mp (nests.returnsOn returns) rest
      · intro shallow
        refine Batch.returnsOn_succ fun other nests => (ih other).mpr ?_
        intro rest
        exact shallow (.deeper nests rest)

-----------------------------------------------------------------------------------------
-- Buffers without a multicall

theorem Walks.reaches {handlers : Handlers κ} {endAddr addr addr' : XmU32} {w w' : World κ}
    (walks : Walks handlers endAddr addr w addr' w')
    : Reaches handlers endAddr addr w addr' w' := by
  induction walks with
  | here => exact .here
  | @record addr addr' noHyp args w w' prepared next inside head other finished _ ih =>
      have returns : dispatch handlers (multicallSys handlers 0) noHyp args prepared
          = .ok (handlers noHyp args prepared) := if_neg other
      exact .record inside head returns finished ih

/-- A loop that walks into no multicall comes to its records by walking. -/
theorem Reaches.walks {handlers : Handlers κ} {endAddr addr addr' : XmU32} {w w' : World κ}
    (reaches : Reaches handlers endAddr addr w addr' w')
    (others : ∀ addr' w', Walks handlers endAddr addr w addr' w' → addr' < endAddr →
      ∀ args prepared, prepare addr' w' ≠ .ok (.call multicallNr args prepared))
    : Walks handlers endAddr addr w addr' w' := by
  induction reaches with
  | here => exact .here
  | @record addr addr' noHyp args w w' prepared depth returned next inside head returns finished
      rest ih =>
      have other : noHyp ≠ multicallNr := by
        rintro rfl
        exact others addr w .here inside args prepared head
      rw [dispatch, if_neg other] at returns
      cases returns
      refine .record inside head other finished (ih fun addr' w' walks => ?_)
      exact others addr' w' (.record inside head other finished walks)

theorem Batch.namesNoMulticall_iff (handlers : Handlers κ) (batch : Batch κ)
    : batch.NamesNoMulticall handlers ↔ ∀ nested, ¬ Nests handlers batch nested := by
  constructor
  · rintro names nested ⟨passes, addr, w, args, reaches, inside, head, -, -⟩
    exact names passes addr w (reaches.walks (names passes)) inside args nested.world head
  · intro flat passes addr w walks inside args prepared head
    exact flat ⟨args.getD 0 0, args.getD 1 0, prepared⟩
      ⟨passes, addr, w, args, walks.reaches, inside, head, rfl, rfl⟩

/-- A buffer at 0x1000 with one record, a multicall of no arguments; the two words after it are
the start and the end of that very record.
-/
def ownRecord : AddressSpace where
  byte addr :=
    if addr = 0x1009 then 0x10
    else if addr = 0x100C then 0x08
    else if addr = 0x100D then 0x10
    else 0
  readable _ := true
  writable _ := true

def ownBatch : Batch Unit where
  startAddr := 0x1000
  endAddr := 0x1008
  world := { space := ownRecord, kernel := () }

theorem ownBatch_passes : ownBatch.Passes where
  ordered := by decide
  accepted := ⟨{ ret := 0, probed := [0x1000] }, by decide, by decide⟩

/-- Clearing the result of the record writes what is there. -/
theorem ownRecord_write : ownRecord.write 0x1004 0 = .ok ownRecord := by
  have writable : (ownRecord.writable 0x1004 && ownRecord.writable (0x1004 + 3)) = true := rfl
  rw [AddressSpace.write, if_pos writable]
  refine congrArg (fun byte => Except.ok { ownRecord with byte }) (funext fun addr => ?_)
  split
  · next here =>
      subst here
      decide
  · split
    · next here =>
        subst here
        decide
    · split
      · next here =>
          subst here
          decide
      · split
        · next here =>
            subst here
            decide
        · rfl

theorem ownBatch_head
    : prepare ownBatch.startAddr ownBatch.world
      = .ok (.call multicallNr [0x1000, 0x1008, 0, 0, 0] ownBatch.world) := by
  have cleared : ownBatch.world.update 0x1004 (fun word => word &&& ~~~0xFFFF0000)
      = .ok ownBatch.world := by
    have read : ownBatch.world.space.read 0x1004 = .ok 0 := by decide
    have write : ownBatch.world.space.write 0x1004 (0 &&& ~~~0xFFFF0000)
        = .ok ownBatch.world.space := ownRecord_write
    rw [World.update, read, ok_bind, write, ok_bind]
    rfl
  have noHyp : ownBatch.world.space.read 0x1000 = .ok 0 := by decide
  have count : ownBatch.world.space.read 0x1004 = .ok 0 := by decide
  have params : batchParams ownBatch.world 5 0x1008 = .ok [0x1000, 0x1008, 0, 0, 0] := by decide
  have known : ¬ (NR_HYPERCALLS ≤ 0 ∨ (0 : XmU32) ≠ noArgs 0) := by decide
  show prepare 0x1000 ownBatch.world = _
  rw [prepare, noHyp, ok_bind]
  show (ownBatch.world.update 0x1004 _ >>= _) = _
  rw [cleared, ok_bind]
  show (ownBatch.world.space.read 0x1004 >>= _) = _
  rw [count, ok_bind, if_neg known]
  show (batchParams ownBatch.world 5 0x1008 >>= _) = _
  rw [params, ok_bind]
  rfl

end XtratuM.Hypercalls
