import XtratuM.Kernel.Base

/-! Guest memory as the kernel sees it, and the checks made before it is touched. -/

namespace XtratuM.Guest

def CONFIG_XM_OFFSET : XmU32 := 0xFC000000

/-- The mapped bytes of the running address space and which of them a kernel access may
touch: `AsmROnlyCheck` and `AsmRWCheck` learn of a fault through the exception table.
-/
structure AddressSpace where
  byte : XmU32 → BitVec 8
  readable : XmU32 → Bool
  writable : XmU32 → Bool

/-- The little-endian word at any address. -/
def AddressSpace.word (space : AddressSpace) (addr : XmU32) : XmU32 :=
  space.byte (addr + 3) ++ space.byte (addr + 2) ++ space.byte (addr + 1) ++ space.byte addr

/-- Reads a word through a guest pointer; a fault stops the kernel. -/
def AddressSpace.read (space : AddressSpace) (addr : XmU32) : Except Stop XmU32 :=
  if space.readable addr && space.readable (addr + 3) then
    .ok (space.word addr)
  else
    .error .badAccess

/-- Writes a word through a guest pointer. -/
def AddressSpace.write (space : AddressSpace) (addr value : XmU32)
    : Except Stop AddressSpace :=
  if space.writable addr && space.writable (addr + 3) then
    .ok
      { space with
        byte := fun a =>
          if a = addr then value.extractLsb' 0 8
          else if a = addr + 1 then value.extractLsb' 8 8
          else if a = addr + 2 then value.extractLsb' 16 8
          else if a = addr + 3 then value.extractLsb' 24 8
          else space.byte a }
  else
    .error .badAccess

/-- What a check answers, with the bytes it probed, first to last. -/
structure Checked where
  ret : Int
  probed : List XmU32
  deriving DecidableEq, Repr

/-- The loop of `AsmRWCheck` and `AsmROnlyCheck`: one byte a page from `addr` up to, and not
including, `param + size` as a 32-bit sum.
-/
def probePages (touch : XmU32 → Bool) (limit : XmU32) : Nat → XmU32 → Except Stop Checked
  | 0, _ => .error .diverges
  | fuel + 1, addr =>
      if addr < limit then
        if touch addr then do
          let rest ← probePages touch limit fuel ((addr &&& PAGE_MASK) + PAGE_SIZE)
          pure { ret := rest.ret, probed := addr :: rest.probed }
        else
          .ok { ret := -1, probed := [addr] }
      else
        .ok { ret := 0, probed := [] }

/-- Enough passes for every range that ends below the kernel: a pass for each page it touches
and one to see that it ends.
-/
def probeFuel (limit addr : XmU32) : Nat :=
  (limit - addr).toNat / 4096 + 3

def asmRWCheck (space : AddressSpace) (param size : XmU32) : Except Stop Checked :=
  probePages space.writable (param + size) (probeFuel (param + size) param) param

def asmROnlyCheck (space : AddressSpace) (param size : XmU32) : Except Stop Checked :=
  probePages space.readable (param + size) (probeFuel (param + size) param) param

/-- The `flags` of `CheckGParam`. -/
structure PFlags where
  rw : Bool
  notNull : Bool

/-- `CheckGParam`; the alignment is not looked at. -/
def checkGParam (space : AddressSpace) (param size : XmU32) (flags : PFlags)
    : Except Stop Checked :=
  if flags.notNull ∧ param = 0 then
    .ok { ret := -1, probed := [] }
  else if CONFIG_XM_OFFSET ≤ param ∨ CONFIG_XM_OFFSET ≤ param + size then
    .ok { ret := -1, probed := [] }
  else if flags.rw then
    asmRWCheck space param size
  else
    asmROnlyCheck space param size

/-- `CheckGParam(..) < 0` decides which of two ways a handler goes. -/
def ifChecked {α : Type} (space : AddressSpace) (param size : XmU32) (flags : PFlags)
    (refused : α) (accepted : Except Stop α) : Except Stop α := do
  let checked ← checkGParam space param size flags
  if checked.ret < 0 then pure refused else accepted

/-- `CheckGParam` returns and does not refuse the parameter. -/
def Accepts (space : AddressSpace) (param size : XmU32) (flags : PFlags) : Prop :=
  ∃ checked, checkGParam space param size flags = .ok checked ∧ ¬ checked.ret < 0

/-- An accepted range begins and ends below the kernel. -/
theorem Accepts.guest {space : AddressSpace} {param size : XmU32} {flags : PFlags}
    (accepts : Accepts space param size flags)
    : param < CONFIG_XM_OFFSET ∧ param + size < CONFIG_XM_OFFSET := by
  obtain ⟨checked, check, passed⟩ := accepts
  unfold checkGParam at check
  split at check
  · cases check
    exact absurd passed (by decide)
  · split at check
    · cases check
      exact absurd passed (by decide)
    · next guest =>
        obtain ⟨start, ending⟩ := not_or.mp guest
        exact ⟨BitVec.not_le.mp start, BitVec.not_le.mp ending⟩

theorem Accepts.below {space : AddressSpace} {param size : XmU32} {flags : PFlags}
    (accepts : Accepts space param size flags)
    : param + size < CONFIG_XM_OFFSET :=
  accepts.guest.2

/-- A handler that returned was refused its parameter, or went on with it accepted. -/
theorem ifChecked_cases {α : Type} {space : AddressSpace} {param size : XmU32}
    {flags : PFlags} {refused result : α} {accepted : Except Stop α}
    (returned : ifChecked space param size flags refused accepted = .ok result)
    : (¬ Accepts space param size flags ∧ result = refused)
      ∨ (Accepts space param size flags ∧ accepted = .ok result) := by
  obtain ⟨checked, check, returned⟩ := bind_eq_ok.mp returned
  split at returned
  · next failed =>
      cases returned
      refine Or.inl ⟨?_, rfl⟩
      rintro ⟨checked', check', passed⟩
      cases check.symm.trans check'
      exact passed failed
  · next passed => exact Or.inr ⟨⟨checked, check, passed⟩, returned⟩

/-- The first address of a page. -/
theorem page_toNat (addr : XmU32) : (addr &&& PAGE_MASK).toNat = addr.toNat / 4096 * 4096 := by
  have bits : ∀ i : Fin 32, PAGE_MASK.getLsbD i = decide (12 ≤ i.val) := by decide
  have shifted : addr &&& PAGE_MASK = (addr >>> 12) <<< 12 := by
    apply BitVec.eq_of_getLsbD_eq
    intro i inside
    simp only [BitVec.getLsbD_and, bits ⟨i, inside⟩, BitVec.getLsbD_shiftLeft,
      BitVec.getLsbD_ushiftRight]
    by_cases low : i < 12
    · simp [low]
    · have above : 12 ≤ i := by omega
      simp [low, above, inside]
  rw [shifted, BitVec.toNat_shiftLeft, BitVec.toNat_ushiftRight, Nat.shiftRight_eq_div_pow,
    Nat.shiftLeft_eq]
  have size := addr.isLt
  omega

/-- The walk over the pages ends, by induction on the fuel: each pass goes on to the next page. -/
theorem probePages_returns {touch : XmU32 → Bool} {limit : XmU32}
    (below : limit.toNat ≤ CONFIG_XM_OFFSET.toNat) {fuel : Nat} {addr : XmU32}
    (enough : addr < limit → (limit.toNat + 4095) / 4096 < addr.toNat / 4096 + fuel)
    (some : 0 < fuel)
    : ∃ checked, probePages touch limit fuel addr = .ok checked := by
  induction fuel generalizing addr with
  | zero => exact absurd some (Nat.lt_irrefl 0)
  | succ fuel ih =>
      unfold probePages
      split
      · next inside =>
          have top : CONFIG_XM_OFFSET.toNat = 0xFC000000 := rfl
          have before := BitVec.lt_def.mp inside
          have enough := enough inside
          have next
              : ((addr &&& PAGE_MASK) + PAGE_SIZE).toNat = addr.toNat / 4096 * 4096 + 4096 := by
            rw [BitVec.toNat_add, page_toNat]
            have size : PAGE_SIZE.toNat = 4096 := rfl
            omega
          split
          · have left : 0 < fuel := by omega
            have page
                : ((addr &&& PAGE_MASK) + PAGE_SIZE).toNat / 4096 = addr.toNat / 4096 + 1 := by
              omega
            have enough' : (limit.toNat + 4095) / 4096
                < ((addr &&& PAGE_MASK) + PAGE_SIZE).toNat / 4096 + fuel := by
              rw [page]
              omega
            obtain ⟨rest, returned⟩ := ih (fun _ => enough') left
            exact ⟨_, bind_eq_ok.mpr ⟨rest, returned, rfl⟩⟩
          · exact ⟨_, rfl⟩
      · exact ⟨_, rfl⟩

theorem probeFuel_enough {limit addr : XmU32} (inside : addr < limit)
    : (limit.toNat + 4095) / 4096 < addr.toNat / 4096 + probeFuel limit addr := by
  have before := BitVec.lt_def.mp inside
  rw [probeFuel, BitVec.toNat_sub_of_le (BitVec.le_of_lt inside)]
  omega

/-- `CheckGParam` returns. -/
theorem checkGParam_returns (space : AddressSpace) (param size : XmU32) (flags : PFlags)
    : ∃ checked, checkGParam space param size flags = .ok checked := by
  have probes (touch : XmU32 → Bool) (below : ¬ CONFIG_XM_OFFSET ≤ param + size)
      : ∃ checked, probePages touch (param + size) (probeFuel (param + size) param) param
        = .ok checked := by
    refine probePages_returns ?_ probeFuel_enough ?_
    · exact Nat.le_of_lt (BitVec.lt_def.mp (BitVec.not_le.mp below))
    · exact Nat.succ_pos _
  unfold checkGParam
  split
  · exact ⟨_, rfl⟩
  · split
    · exact ⟨_, rfl⟩
    · next guest =>
        have below := (not_or.mp guest).2
        split
        · exact probes space.writable below
        · exact probes space.readable below

theorem checkGParam_noPanic (space : AddressSpace) (param size : XmU32) (flags : PFlags)
    : NoPanic (checkGParam space param size flags) := by
  obtain ⟨checked, check⟩ := checkGParam_returns space param size flags
  rw [check]
  exact noPanic_ok checked

/-- A handler that stops was accepted its parameter. -/
theorem ifChecked_stops {α : Type} {space : AddressSpace} {param size : XmU32}
    {flags : PFlags} {refused : α} {accepted : Except Stop α} {stop : Stop}
    (stops : ifChecked space param size flags refused accepted = .error stop)
    : Accepts space param size flags ∧ accepted = .error stop := by
  rcases bind_eq_error.mp stops with stops | ⟨checked, check, stops⟩
  · obtain ⟨checked, returned⟩ := checkGParam_returns space param size flags
    cases returned.symm.trans stops
  · split at stops
    · cases stops
    · next passed => exact ⟨⟨checked, check, passed⟩, stops⟩

theorem ifChecked_noPanic {α : Type} (space : AddressSpace) (param size : XmU32)
    (flags : PFlags) (refused : α) {accepted : Except Stop α} (safe : NoPanic accepted)
    : NoPanic (ifChecked space param size flags refused accepted) := by
  refine (checkGParam_noPanic space param size flags).bind ?_
  intro checked _
  split
  · exact noPanic_pure _
  · exact safe

/-- An accepted parameter lets the handler go on. -/
theorem ifChecked_accepted {α : Type} {space : AddressSpace} {param size : XmU32}
    {flags : PFlags} {refused : α} {accepted : Except Stop α}
    (accepts : Accepts space param size flags)
    : ifChecked space param size flags refused accepted = accepted := by
  obtain ⟨checked, check, passed⟩ := accepts
  simp [ifChecked, check, passed]

end XtratuM.Guest
