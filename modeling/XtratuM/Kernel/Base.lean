import Mathlib.Data.BitVec

/-! Machine words, return codes and the ways a kernel function may fail to return. Times
(`xmTime_t`, microseconds in 64 bits) are unbounded integers, but where the point is that their
sums wrap.
-/

namespace XtratuM

/-- `xm_u32_t`, `xmWord_t`, `xmAddress_t` and `xmSize_t`. -/
abbrev XmU32 := BitVec 32

instance : LawfulBEq XmU32 :=
  inferInstance

def PAGE_SIZE : XmU32 := 4096

def PAGE_MASK : XmU32 := ~~~(PAGE_SIZE - 1)

/-- The mask of a bit sets that bit alone. -/
theorem getLsbD_or_shiftLeft (word : XmU32) {i j : Nat} (inside : i < 32)
    : (word ||| ((1 : XmU32) <<< i)).getLsbD j = (word.getLsbD j || decide (i = j)) := by
  have mask : (1 : XmU32) <<< i = BitVec.twoPow 32 i := (BitVec.twoPow_eq 32 i).symm
  rw [mask, BitVec.getLsbD_or, BitVec.getLsbD_twoPow]
  simp [inside]

/-- The complement of the mask clears that bit alone. -/
theorem getLsbD_andNot_shiftLeft (word : XmU32) {i j : Nat} (inside : i < 32)
    : (word &&& ~~~((1 : XmU32) <<< i)).getLsbD j = (word.getLsbD j && !decide (i = j)) := by
  have mask : ((1 : XmU32) <<< i).getLsbD j = decide (i = j) := by
    simpa using getLsbD_or_shiftLeft 0 inside (j := j)
  rw [BitVec.getLsbD_and, BitVec.getLsbD_not, mask]
  by_cases large : j < 32
  · simp [large]
  · simp [BitVec.getLsbD_of_ge _ _ (Nat.le_of_not_lt large)]

/-- `XM_OK` and the error codes of the hypercall interface. -/
inductive XmRet
  | ok
  | noAction
  | unknownHypercall
  | invalidParam
  | permError
  | invalidConfig
  | invalidMode
  | opNotAllowed
  | multicallError
  deriving DecidableEq, Repr

/-- The `xm_s32_t` value of a return code. -/
def XmRet.code : XmRet → Int
  | .ok => 0
  | .noAction => -1
  | .unknownHypercall => -2
  | .invalidParam => -3
  | .permError => -4
  | .invalidConfig => -5
  | .invalidMode => -6
  | .opNotAllowed => -7
  | .multicallError => -8

/-- Why control does not come back to the caller. -/
inductive Stop
  /-- A failed `ASSERT` or `ASSERT_LOCK`: `SystemPanic` with the asserted text. -/
  | assertion
  /-- An explicit `SystemPanic`. -/
  | systemPanic
  /-- `PartitionPanic`: the running kthread is halted and never resumed here. -/
  | partitionPanic
  /-- `IdleTask`, which loops for ever. -/
  | idleTask
  /-- A dereference that has no page behind it, or lies outside the object it names. -/
  | badAccess
  /-- A loop whose exit condition is never met. -/
  | diverges
  deriving DecidableEq, Repr

/-- `ASSERT(exp)` under `CONFIG_DEBUG`. -/
def assert (exp : Prop) [Decidable exp] : Except Stop Unit :=
  if exp then .ok () else .error .assertion

@[simp] theorem assert_ok {exp : Prop} [Decidable exp] : assert exp = .ok () ↔ exp := by
  unfold assert
  split <;> simp_all

@[simp] theorem assert_of {exp : Prop} [Decidable exp] (holds : exp) : assert exp = .ok () :=
  if_pos holds

@[simp] theorem ok_bind {ε α β : Type} (a : α) (rest : α → Except ε β)
    : (Except.ok a >>= rest) = rest a :=
  rfl

/-- Binding returns exactly when both computations do. -/
theorem bind_eq_ok {ε α β : Type} {first : Except ε α} {rest : α → Except ε β} {b : β}
    : (first >>= rest) = .ok b ↔ ∃ a, first = .ok a ∧ rest a = .ok b := by
  cases first <;> simp [bind, Except.bind]

/-- Binding stops exactly when one of the computations does. -/
theorem bind_eq_error {α β : Type} {first : Except Stop α} {rest : α → Except Stop β}
    {stop : Stop}
    : (first >>= rest) = .error stop
      ↔ first = .error stop ∨ ∃ a, first = .ok a ∧ rest a = .error stop := by
  cases first <;> simp [bind, Except.bind]

theorem map_eq_ok {ε α β : Type} {result : Except ε α} {f : α → β} {b : β}
    : result.map f = .ok b ↔ ∃ a, result = .ok a ∧ f a = b := by
  cases result <;> simp [Except.map]

theorem map_eq_error {α β : Type} {result : Except Stop α} {f : α → β} {stop : Stop}
    : result.map f = .error stop ↔ result = .error stop := by
  cases result <;> simp [Except.map]

theorem toOption_eq_some {α : Type} {result : Except Stop α} {a : α}
    : result.toOption = some a ↔ result = .ok a := by
  cases result <;> simp [Except.toOption]

/-- A computation returns a first component exactly when it returns some pair with it. -/
theorem map_fst_eq_ok {α β : Type} {result : Except Stop (α × β)} {a : α}
    : result.map Prod.fst = .ok a ↔ ∃ b, result = .ok (a, b) := by
  cases result <;> simp [Except.map, Prod.ext_iff]

theorem map_snd_eq_ok {α β : Type} {result : Except Stop (α × β)} {b : β}
    : result.map Prod.snd = .ok b ↔ ∃ a, result = .ok (a, b) := by
  cases result <;> simp [Except.map, Prod.ext_iff]

/-- The computation does not end in that way. -/
def Avoids {α : Type} (stop : Stop) (result : Except Stop α) : Prop :=
  result ≠ .error stop

section Avoids

variable {α β : Type} {stop : Stop}

@[simp] theorem avoids_ok (a : α) : Avoids stop (.ok a : Except Stop α) := by
  simp [Avoids]

@[simp] theorem avoids_pure (a : α) : Avoids stop (pure a : Except Stop α) :=
  avoids_ok a

@[simp] theorem avoids_error {other : Stop}
    : Avoids stop (.error other : Except Stop α) ↔ other ≠ stop := by
  simp [Avoids]

/-- Neither part ends so, and the sequence does not. -/
theorem Avoids.bind {first : Except Stop α} {rest : α → Except Stop β}
    (here : Avoids stop first) (after : ∀ a, first = .ok a → Avoids stop (rest a))
    : Avoids stop (first >>= rest) := by
  intro stops
  rcases bind_eq_error.mp stops with stops | ⟨a, returned, stops⟩
  · exact here stops
  · exact after a returned stops

theorem Avoids.map {first : Except Stop α} (here : Avoids stop first) (f : α → β)
    : Avoids stop (first.map f) := by
  intro stops
  exact here (map_eq_error.mp stops)

end Avoids

/-- The computation does not reach an explicit `SystemPanic`. -/
def NoPanic {α : Type} (result : Except Stop α) : Prop :=
  result ≠ .error .systemPanic

@[simp] theorem noPanic_ok {α : Type} (a : α) : NoPanic (.ok a : Except Stop α) :=
  avoids_ok a

@[simp] theorem noPanic_pure {α : Type} (a : α) : NoPanic (pure a : Except Stop α) :=
  noPanic_ok a

@[simp] theorem noPanic_error {α : Type} {stop : Stop}
    : NoPanic (.error stop : Except Stop α) ↔ stop ≠ .systemPanic :=
  avoids_error

@[simp] theorem noPanic_assert (exp : Prop) [Decidable exp] : NoPanic (assert exp) := by
  unfold assert
  split <;> simp

/-- Neither part panics, so the sequence does not. -/
theorem NoPanic.bind {α β : Type} {first : Except Stop α} {rest : α → Except Stop β}
    (here : NoPanic first) (after : ∀ a, first = .ok a → NoPanic (rest a))
    : NoPanic (first >>= rest) :=
  Avoids.bind here after

theorem NoPanic.map {α β : Type} {first : Except Stop α} (here : NoPanic first) (f : α → β)
    : NoPanic (first.map f) :=
  Avoids.map here f

end XtratuM
