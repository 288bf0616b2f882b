import XtratuM.Guest.Access
import XtratuM.Library.Budget

/-! `MulticallSys`: a batch of hypercalls in guest memory, each with its number, the count of
its arguments and the arguments. The batch may hold further multicalls.
-/

namespace XtratuM.Hypercalls

open Budget
open XtratuM.Guest

/-- What the calls of a batch see and change: the caller's memory and the rest of the system. -/
structure World (κ : Type) where
  space : AddressSpace
  kernel : κ

variable {κ : Type}

/-- `hypercallFlagsTab`, by the number of each call. -/
def hypercallFlagsTab : List XmU32 :=
  ([0, 1, 1, 1, 1, 1, 0, 1, 0, 2, 3, 4, 4, 3, 3, 2, 2, 2, 2, 3, 2, 2, 1, 1, 2, 2, 2, 2, 4, 1,
    1, 1, 0, 1, 1, 1, 1, 1, 1, 3, 2, 2].map fun args => 0x80000000 ||| BitVec.ofNat 32 args)
    ++ [0, 0]

def NR_HYPERCALLS : XmU32 := 44

/-- `HYP_NO_ARGS(hypercallFlagsTab[noHyp].noArgs)`. -/
def noArgs (noHyp : XmU32) : XmU32 :=
  hypercallFlagsTab.getD noHyp.toNat 0 &&& ~~~0x80000000

def multicallNr : XmU32 := 0

/-- `hypercallsTab` but for the multicall: a call's number and arguments decide what it returns
and what it leaves.
-/
abbrev Handlers (κ : Type) : Type := XmU32 → List XmU32 → World κ → Int × World κ

def World.update (w : World κ) (addr : XmU32) (change : XmU32 → XmU32)
    : Except Stop (World κ) := do
  let old ← w.space.read addr
  let space ← w.space.write addr (change old)
  pure { w with space }

/-- A return value in the upper half of a record's second word. -/
def upperHalf (ret : Int) : XmU32 := BitVec.ofInt 32 ret <<< 16

/-- A record that was read: refused, or a call to dispatch. -/
inductive Prepared (κ : Type)
  | refused (w : World κ)
  | call (noHyp : XmU32) (args : List XmU32) (w : World κ)

/-- The words from `addr` on that are handed to a call. -/
def batchParams (w : World κ) : Nat → XmU32 → Except Stop (List XmU32)
  | 0, _ => .ok []
  | left + 1, addr => do
      let arg ← w.space.read addr
      let rest ← batchParams w left (addr + 4)
      pure (arg :: rest)

/-- What a round of the loop does before it dispatches a call, which is handed five words
however many arguments it takes.
-/
def prepare (addr : XmU32) (w : World κ) : Except Stop (Prepared κ) := do
  let noHyp ← w.space.read addr
  let w ← w.update (addr + 4) fun word => word &&& ~~~0xFFFF0000
  let count ← w.space.read (addr + 4)
  if NR_HYPERCALLS ≤ noHyp ∨ count ≠ noArgs noHyp then do
    let w ← w.update (addr + 4) fun word => word ||| upperHalf XmRet.invalidParam.code
    pure (.refused w)
  else do
    let args ← batchParams w 5 (addr + 8)
    pure (.call noHyp args w)

/-- What it does after: the next record and the world it is read in. -/
def finish (noHyp addr : XmU32) (returned : Int × World κ) : Except Stop (XmU32 × World κ) := do
  let w ← returned.2.update (addr + 4) fun word => word ||| upperHalf returned.1
  pure (addr + (noArgs noHyp + 2) * 4, w)

/-- A way to make multicalls, by their start and end. -/
abbrev Multicall (κ : Type) : Type := XmU32 → XmU32 → World κ → Except Stop (Int × World κ)

def dispatch (handlers : Handlers κ) (multicall : Multicall κ) (noHyp : XmU32)
    (args : List XmU32) (w : World κ) : Except Stop (Int × World κ) :=
  if noHyp = multicallNr then
    multicall (args.getD 0 0) (args.getD 1 0) w
  else
    .ok (handlers noHyp args w)

/-- The loop over the records from `addr` on, for a number of rounds. -/
def batchLoop (handlers : Handlers κ) (multicall : Multicall κ) (endAddr : XmU32)
    : Nat → XmU32 → World κ → Except Stop (Int × World κ)
  | 0, _, _ => .error .diverges
  | rounds + 1, addr, w =>
      if addr < endAddr then do
        let prepared ← prepare addr w
        match prepared with
        | .refused w => pure (XmRet.multicallError.code, w)
        | .call noHyp args w => do
            let returned ← dispatch handlers multicall noHyp args w
            let next ← finish noHyp addr returned
            batchLoop handlers multicall endAddr rounds next.1 next.2
      else
        .ok (XmRet.ok.code, w)

/-- Enough rounds: a record has at least two words. -/
def batchRounds (startAddr endAddr : XmU32) : Nat :=
  (endAddr.toNat - startAddr.toNat) / 8 + 2

def batchFlags : PFlags where
  rw := true
  notNull := false

/-- `MulticallSys`, with multicalls nested less deep than `depth`. -/
def multicallSys (handlers : Handlers κ) : Nat → Multicall κ
  | 0, _, _, _ => .error .diverges
  | depth + 1, startAddr, endAddr, w =>
      if endAddr < startAddr then
        .ok (XmRet.invalidParam.code, w)
      else
        ifChecked w.space startAddr (endAddr - startAddr) batchFlags
          (XmRet.invalidParam.code, w)
          (batchLoop handlers (multicallSys handlers depth) endAddr
            (batchRounds startAddr endAddr) startAddr w)

-----------------------------------------------------------------------------------------
-- What a round can do

theorem noArgs_le (noHyp : XmU32) : (noArgs noHyp).toNat ≤ 4 := by
  have entries : ∀ entry ∈ hypercallFlagsTab, (entry &&& ~~~0x80000000).toNat ≤ 4 := by
    simp [hypercallFlagsTab]
  unfold noArgs
  rw [List.getD_eq_getElem?_getD]
  cases found : hypercallFlagsTab[noHyp.toNat]? with
  | none => simp
  | some entry => exact entries entry (List.mem_of_getElem? found)

section Ends

theorem read_ends (space : AddressSpace) (addr : XmU32)
    : Avoids .diverges (space.read addr) := by
  unfold AddressSpace.read
  split <;> simp

theorem World.update_ends (w : World κ) (addr : XmU32) (change : XmU32 → XmU32)
    : Avoids .diverges (w.update addr change) := by
  refine (read_ends w.space addr).bind fun old _ => ?_
  have write : Avoids .diverges (w.space.write addr (change old)) := by
    unfold AddressSpace.write
    split <;> simp
  exact write.bind fun _ _ => avoids_pure _

theorem batchParams_ends (w : World κ) (left : Nat) (addr : XmU32)
    : Avoids .diverges (batchParams w left addr) := by
  induction left generalizing addr with
  | zero => exact avoids_ok _
  | succ left ih =>
      exact (read_ends w.space addr).bind fun _ _ => (ih (addr + 4)).bind fun _ _ => avoids_pure _

theorem prepare_ends (addr : XmU32) (w : World κ) : Avoids .diverges (prepare addr w) := by
  refine (read_ends w.space addr).bind fun noHyp _ => ?_
  refine (w.update_ends _ _).bind fun w _ => ?_
  refine (read_ends w.space _).bind fun count _ => ?_
  split
  · exact (w.update_ends _ _).bind fun _ _ => avoids_pure _
  · exact (batchParams_ends w 5 _).bind fun _ _ => avoids_pure _

theorem finish_ends (noHyp addr : XmU32) (returned : Int × World κ)
    : Avoids .diverges (finish noHyp addr returned) :=
  (returned.2.update_ends _ _).bind fun _ _ => avoids_pure _

end Ends

/-- The next record is further on, and still below the address space's end. -/
theorem finish_advances {noHyp addr : XmU32} {returned : Int × World κ}
    {next : XmU32 × World κ} (finished : finish noHyp addr returned = .ok next)
    (guest : addr.toNat < CONFIG_XM_OFFSET.toNat)
    : addr.toNat + 8 ≤ next.1.toNat := by
  obtain ⟨w, -, finished⟩ := bind_eq_ok.mp finished
  cases finished
  have args := noArgs_le noHyp
  have top : CONFIG_XM_OFFSET.toNat = 0xFC000000 := rfl
  rw [BitVec.toNat_add, BitVec.toNat_mul, BitVec.toNat_add]
  simp only [BitVec.reduceToNat]
  omega

-----------------------------------------------------------------------------------------
-- Deeper multicalls

theorem dispatch_extended {handlers : Handlers κ} {small large : Multicall κ}
    (extended : ∀ startAddr endAddr w,
      Extends Stop.diverges (small startAddr endAddr w) (large startAddr endAddr w))
    (noHyp : XmU32) (args : List XmU32) (w : World κ)
    : Extends Stop.diverges (dispatch handlers small noHyp args w)
      (dispatch handlers large noHyp args w) := by
  unfold dispatch
  split
  · exact extended _ _ w
  · exact .refl _

theorem batchLoop_extends (handlers : Handlers κ) {small large : Multicall κ}
    (extended : ∀ startAddr endAddr w,
      Extends Stop.diverges (small startAddr endAddr w) (large startAddr endAddr w))
    (endAddr : XmU32) (rounds : Nat) (addr : XmU32) (w : World κ)
    : Extends Stop.diverges (batchLoop handlers small endAddr rounds addr w)
      (batchLoop handlers large endAddr rounds addr w) := by
  induction rounds generalizing addr w with
  | zero => exact .refl _
  | succ rounds ih =>
      unfold batchLoop
      split
      · refine (Extends.refl _).bind fun prepared => ?_
        cases prepared with
        | refused w => exact .refl _
        | call noHyp args w =>
            refine (dispatch_extended extended noHyp args w).bind fun returned => ?_
            exact (Extends.refl _).bind fun next => ih _ _
      · exact .refl _

theorem multicallSys_extends (handlers : Handlers κ) (depth : Nat) (startAddr endAddr : XmU32)
    (w : World κ)
    : Extends Stop.diverges (multicallSys handlers depth startAddr endAddr w)
      (multicallSys handlers (depth + 1) startAddr endAddr w) := by
  induction depth generalizing startAddr endAddr w with
  | zero => exact Or.inl rfl
  | succ depth ih =>
      unfold multicallSys
      split
      · exact .refl _
      · refine (Extends.refl _).bind fun checked => ?_
        split
        · exact .refl _
        · exact batchLoop_extends handlers ih endAddr _ startAddr w

-----------------------------------------------------------------------------------------
-- Multicalls that pass their checks

/-- A multicall and the world it is made in. -/
structure Batch (κ : Type) where
  startAddr : XmU32
  endAddr : XmU32
  world : World κ

/-- The checks of `MulticallSys`. -/
structure Batch.Passes (batch : Batch κ) : Prop where
  ordered : ¬ batch.endAddr < batch.startAddr
  accepted : Accepts batch.world.space batch.startAddr (batch.endAddr - batch.startAddr) batchFlags

/-- The records of a multicall are below the kernel. -/
theorem Batch.Passes.below {batch : Batch κ} (passes : batch.Passes)
    : batch.endAddr < CONFIG_XM_OFFSET := by
  have accepted := passes.accepted.below
  rwa [BitVec.add_comm, BitVec.sub_add_cancel] at accepted

def Batch.run (handlers : Handlers κ) (depth : Nat) (batch : Batch κ)
    : Except Stop (Int × World κ) :=
  multicallSys handlers depth batch.startAddr batch.endAddr batch.world

/-- A multicall that passes its checks is the loop over its records. -/
theorem Batch.Passes.run {batch : Batch κ} (passes : batch.Passes) (handlers : Handlers κ)
    (depth : Nat)
    : batch.run handlers (depth + 1)
      = batchLoop handlers (multicallSys handlers depth) batch.endAddr
        (batchRounds batch.startAddr batch.endAddr) batch.startAddr batch.world := by
  unfold Batch.run multicallSys
  rw [if_neg passes.ordered, ifChecked_accepted passes.accepted]

end XtratuM.Hypercalls
