import XtratuM.Arch.RingProtection
import XtratuM.Library.Tracked

/-! The descriptors that guests load into the descriptor tables, with every write of one: in the
caller's own table, in the hypervisor's `gdtTab` and, by `IsGdtDescValid`, where it was read.
-/

namespace XtratuM.GuestDescriptors

open Arch
open Guest
open Reachability
open Tracked

/-- An entry of `kArch.gdtTab` of the caller or of `gdtTab`, or a descriptor where it was read. -/
inductive DescWrite
  | own (slot : Nat)
  | processor (slot : Nat)
  | inPlace (addr : XmU32)
  deriving DecidableEq, Repr

abbrev Writing (α : Type) : Type := Computation DescWrite Stop α

-----------------------------------------------------------------------------------------
-- Hypercalls

/-- `CheckGParam(..) < 0` decides which of two ways a handler goes. -/
def ifChecked {α : Type} (space : AddressSpace) (param size : XmU32) (refused : α)
    (accepted : Writing α) : Writing α := do
  let checked ← lift (checkGParam space param size paramFlags)
  if checked.ret < 0 then pure refused else accepted

/-- `IsGdtDescValid` gets to mark the descriptor as accessed. -/
def marks (desc : X86Desc) : Bool :=
  (isGdtDescValid desc).installs && desc.present

/-- `IsGdtDescValid` on a descriptor in memory. -/
def isGdtDescValidAt (addr : XmU32) (desc : X86Desc) : Writing DescCheck :=
  let check := isGdtDescValid desc
  if marks desc then access (.inPlace addr) (.ok check) else pure check

/-- The loop of `X86LoadGdtSys` from entry `e` on. -/
def loadEntries (space : AddressSpace) (linearBase : XmU32) : Nat → Nat → GdtTabs → Writing GdtTabs
  | 0, _, tabs => pure tabs
  | left + 1, e, tabs => do
      let addr := linearBase + BitVec.ofNat 32 (8 * e)
      let desc ← lift (readDesc space addr)
      let check ← isGdtDescValidAt addr desc
      if check.installs then do
        let kArch ← access (.own e) (.ok (setEntry tabs.kArch e check.desc))
        let processor ← access (.processor e) (.ok (setEntry tabs.processor e check.desc))
        loadEntries space linearBase left (e + 1) { kArch, processor }
      else
        loadEntries space linearBase left (e + 1) tabs

/-- The `memset` of `X86LoadGdtSys`. -/
def clearTable (tab : Nat → X86Desc) : Writing (Nat → X86Desc) where
  accesses := (List.range CONFIG_PARTITION_NO_GDT_ENTRIES).map .own
  result := .ok (clearGuestEntries tab)

/-- `X86LoadGdtSys`. -/
def x86LoadGdtSys (space : AddressSpace) (desc : XmU32) (v : Arch.VCpu)
    : Writing (XmRet × Arch.VCpu) :=
  ifChecked space desc 6 (.invalidParam, v) do
    let gdtr ← lift (readDescReg space desc)
    if gdtr.noEntries > CONFIG_PARTITION_NO_GDT_ENTRIES then
      pure (.invalidParam, v)
    else do
      let cleared ← clearTable v.kArch.gdtTab
      let tabs ← loadEntries space gdtr.linearBase gdtr.noEntries 0
        { kArch := cleared, processor := v.gdtTab }
      pure
        (.ok,
          { v with
            pct := { v.pct with gdtr }
            kArch := { v.kArch with gdtTab := tabs.kArch }
            gdtTab := tabs.processor })

/-- `X86UpdateGdtSys`. -/
def x86UpdateGdtSys (space : AddressSpace) (entry : Int) (gdt : XmU32) (v : Arch.VCpu)
    : Writing (XmRet × Arch.VCpu) :=
  ifChecked space gdt 8 (.invalidParam, v) do
    if entry ≥ CONFIG_PARTITION_NO_GDT_ENTRIES then
      pure (.invalidParam, v)
    else do
      let desc ← lift (readDesc space gdt)
      let check ← isGdtDescValidAt gdt desc
      if check.installs then do
        let slot := gdtSlot entry
        let gdtTab ← access (.own slot) (.ok (setEntry v.kArch.gdtTab slot check.desc))
        pure (.ok, { v with kArch := { v.kArch with gdtTab } })
      else
        pure (.invalidParam, v)

-----------------------------------------------------------------------------------------
-- The vCPUs

/-- The vCPUs of all partitions, by number, and the hypervisor's own table. -/
structure Machine where
  kArch : Nat → KThreadArch
  pct : Nat → PctArch
  ctxt : Nat → CpuCtxt
  gdtTab : Nat → X86Desc

def Machine.running (m : Machine) (k : Nat) : Arch.VCpu where
  kArch := m.kArch k
  pct := m.pct k
  gdtTab := m.gdtTab
  ctxt := m.ctxt k

def Machine.leave (m : Machine) (k : Nat) (v : Arch.VCpu) : Machine where
  kArch := Function.update m.kArch k v.kArch
  pct := Function.update m.pct k v.pct
  ctxt := Function.update m.ctxt k v.ctxt
  gdtTab := v.gdtTab

/-- A call with its arguments, in the guest memory of the moment. -/
inductive GdtRequest
  | load (space : AddressSpace) (desc : XmU32)
  | update (space : AddressSpace) (entry : Int) (gdt : XmU32)

def GdtRequest.run : GdtRequest → Arch.VCpu → Writing (XmRet × Arch.VCpu)
  | .load space desc => x86LoadGdtSys space desc
  | .update space entry gdt => x86UpdateGdtSys space entry gdt

structure GdtCall where
  caller : Nat
  request : GdtRequest

/-- A call by one of the vCPUs, with its writes. -/
def Machine.call (m : Machine) (call : GdtCall) : Writing (XmRet × Arch.VCpu) :=
  call.request.run (m.running call.caller)

/-- A call that stops is only seen by what it has written until then. -/
def Machine.next (m : Machine) (call : GdtCall) : Machine :=
  match (m.call call).result with
  | .ok (_, v) => m.leave call.caller v
  | .error _ => m

def CallNext (m : Machine) (call : GdtCall) (m' : Machine) : Prop :=
  m' = m.next call

/-- What `SetupKThreadArch` leaves: no entry of a guest is set. -/
structure Booted (m : Machine) : Prop where
  gdtTab : ∀ e < CONFIG_PARTITION_NO_GDT_ENTRIES, m.gdtTab e = { high := 0, low := 0 }
  copied : ∀ k, ∀ e < CONFIG_PARTITION_NO_GDT_ENTRIES, (m.kArch k).gdtTab e = m.gdtTab e

-----------------------------------------------------------------------------------------
-- Containment

/-- A descriptor that is not present, or a segment that is not of level 0 and ends, as a sum of
integers, below the hypervisor.
-/
def Below (desc : X86Desc) : Prop :=
  desc.present = true → desc.codeData = true ∧ desc.dpl ≠ 0
    ∧ desc.base.toNat + desc.limit.toNat ≤ CONFIG_XM_OFFSET.toNat

def AllBelow (m : Machine) : Prop :=
  ∀ k, ∀ e < CONFIG_PARTITION_NO_GDT_ENTRIES, Below ((m.kArch k).gdtTab e)

/-- The entries of the caller that are a guest's, and what guests have in their own memory. -/
def Own : DescWrite → Prop
  | .own slot => slot < CONFIG_PARTITION_NO_GDT_ENTRIES
  | .processor _ => False
  | .inPlace addr => addr + 4 < CONFIG_XM_OFFSET

/-- A call leaves every descriptor of a guest below the hypervisor and writes nowhere but in the
caller's own table: neither the tables of other vCPUs nor the hypervisor's change.
-/
structure Contained (m : Machine) (call : GdtCall) (m' : Machine) : Prop where
  below : AllBelow m'
  writes : (m.call call).Within Own
  others : ∀ k, k ≠ call.caller → m'.kArch k = m.kArch k
  hypervisor : m'.gdtTab = m.gdtTab
  rest : ∀ k, ∀ e ≥ CONFIG_PARTITION_NO_GDT_ENTRIES,
    (m'.kArch k).gdtTab e = (m.kArch k).gdtTab e

/-- None of the entries from `e` on installs, up to one that cannot be read. -/
def NoneInstalls (space : AddressSpace) (linearBase : XmU32) (left e : Nat) : Prop :=
  ∀ i < left,
    (∀ j ≤ i, ∃ found, readDesc space (linearBase + BitVec.ofNat 32 (8 * (e + j))) = .ok found) →
    (isGdtDescValid (descAt space (linearBase + BitVec.ofNat 32 (8 * (e + i))))).installs = false

/-- The guest's table has nothing that the load installs, as far as it can be read. -/
def InstallsNothing (space : AddressSpace) (desc : XmU32) : Prop :=
  Accepts space desc 6 paramFlags → ∀ gdtr, readDescReg space desc = .ok gdtr →
    gdtr.noEntries ≤ CONFIG_PARTITION_NO_GDT_ENTRIES →
    NoneInstalls space gdtr.linearBase gdtr.noEntries 0

/-- What the update installs goes to an entry of the guest's and, if it is present, has a limit that
does not bring its base around.
-/
def InstallsInside (space : AddressSpace) (entry : Int) (gdt : XmU32) : Prop :=
  Accepts space gdt 8 paramFlags → entry < CONFIG_PARTITION_NO_GDT_ENTRIES →
    ∀ desc, readDesc space gdt = .ok desc → (isGdtDescValid desc).installs = true →
    gdtSlot entry < CONFIG_PARTITION_NO_GDT_ENTRIES
      ∧ (desc.present = true → desc.base.toNat + desc.limit.toNat < 2 ^ 32)

def Allowed (_ : Machine) (call : GdtCall) : Prop :=
  match call.request with
  | .load space desc => InstallsNothing space desc
  | .update space entry gdt => InstallsInside space entry gdt

-----------------------------------------------------------------------------------------
-- One descriptor

/-- The bit of the mark is not one of a field's. -/
theorem marked_and (low mask : XmU32) (apart : 1 <<< 8 &&& mask = 0)
    : (low ||| 1 <<< 8) &&& mask = low &&& mask := by
  rw [BitVec.and_comm, BitVec.and_or_distrib_left, BitVec.and_comm mask (1 <<< 8), apart,
    BitVec.and_comm mask low]
  exact BitVec.or_zero

theorem marked_bit (low : XmU32) {i : Nat} (other : (1 <<< 8 : XmU32).getLsbD i = false)
    : (low ||| 1 <<< 8).getLsbD i = low.getLsbD i := by
  rw [BitVec.getLsbD_or, other, Bool.or_false]

/-- What `IsGdtDescValid` accepts for a table: what is not present, and what it marks. -/
theorem installs_cases {desc : X86Desc} (installs : (isGdtDescValid desc).installs = true)
    : (desc.present = false ∧ (isGdtDescValid desc).desc = desc)
      ∨ (desc.present = true ∧ desc.codeData = true ∧ desc.dpl ≠ 0
        ∧ desc.limit + desc.base ≤ CONFIG_XM_OFFSET
        ∧ (isGdtDescValid desc).desc = { desc with low := desc.low ||| 1 <<< 8 }) := by
  unfold isGdtDescValid at installs ⊢
  cases present : desc.present with
  | false => exact Or.inl ⟨rfl, by simp⟩
  | true =>
      simp only [present, Bool.not_true, Bool.false_eq_true, if_false] at installs ⊢
      split at installs
      · cases installs
      · next inside =>
          split at installs
          · next codeData =>
              split at installs
              · cases installs
              · next level =>
                  refine Or.inr ⟨trivial, codeData, level, BitVec.not_lt.mp inside, ?_⟩
                  rw [if_neg inside, if_pos codeData, if_neg level]
          · split at installs <;> cases installs

/-- An installed descriptor is below the hypervisor unless the sum of 32 bits has wrapped. -/
theorem installed_below_iff {desc : X86Desc} (installs : (isGdtDescValid desc).installs = true)
    : Below (isGdtDescValid desc).desc
      ↔ (desc.present = true → desc.base.toNat + desc.limit.toNat < 2 ^ 32) := by
  rcases installs_cases installs with ⟨absent, same⟩ | ⟨present, codeData, level, inside, same⟩
  · rw [same]
    exact iff_of_true (fun present => by simp [absent] at present)
      (fun present => by simp [absent] at present)
  · have base : X86Desc.base { desc with low := desc.low ||| 1 <<< 8 } = desc.base := by
      simp only [X86Desc.base]
      rw [marked_and _ _ (by decide), marked_and _ _ (by decide)]
    have limit : X86Desc.limit { desc with low := desc.low ||| 1 <<< 8 } = desc.limit := by
      simp only [X86Desc.limit]
      rw [marked_and _ _ (by decide), marked_bit _ (by decide)]
    have dpl : X86Desc.dpl { desc with low := desc.low ||| 1 <<< 8 } = desc.dpl := by
      rw [← same]
      exact isGdtDescValid_dpl desc
    have isPresent : X86Desc.present { desc with low := desc.low ||| 1 <<< 8 } = true := by
      rw [← present]
      exact marked_bit desc.low (by decide)
    have isCodeData : X86Desc.codeData { desc with low := desc.low ||| 1 <<< 8 } = true := by
      rw [← codeData]
      exact marked_bit desc.low (by decide)
    have sum := BitVec.le_def.mp inside
    rw [BitVec.toNat_add] at sum
    have top : CONFIG_XM_OFFSET.toNat = 0xFC000000 := rfl
    unfold Below
    rw [same, base, limit, dpl, isCodeData]
    simp only [isPresent, present, true_and, forall_const, level, ne_eq, not_false_eq_true]
    omega

@[simp] theorem isGdtDescValidAt_result (addr : XmU32) (desc : X86Desc)
    : (isGdtDescValidAt addr desc).result = .ok (isGdtDescValid desc) := by
  unfold isGdtDescValidAt
  split <;> rfl

theorem isGdtDescValidAt_within {addr : XmU32} {desc : X86Desc}
    : (isGdtDescValidAt addr desc).Within Own
      ↔ (marks desc = true → addr + 4 < CONFIG_XM_OFFSET) := by
  unfold isGdtDescValidAt
  split
  · next marked =>
      rw [within_access]
      simp [Own, marked]
  · next unmarked => exact iff_of_true (within_pure _) fun marked => absurd marked unmarked

-----------------------------------------------------------------------------------------
-- A table

theorem noneInstalls_succ {space : AddressSpace} {linearBase : XmU32} {left e : Nat}
    {desc : X86Desc} (read : readDesc space (linearBase + BitVec.ofNat 32 (8 * e)) = .ok desc)
    : NoneInstalls space linearBase (left + 1) e
      ↔ (isGdtDescValid desc).installs = false ∧ NoneInstalls space linearBase left (e + 1) := by
  have first := readDesc_eq read
  have shift (j : Nat) : e + 1 + j = e + (j + 1) := by omega
  constructor
  · intro none
    refine ⟨?_, ?_⟩
    · rw [first]
      refine none 0 (Nat.succ_pos left) ?_
      intro j small
      obtain rfl := Nat.le_zero.mp small
      exact ⟨desc, read⟩
    · intro i small readable
      rw [shift]
      refine none (i + 1) (Nat.succ_lt_succ small) ?_
      intro j upTo
      cases j with
      | zero => exact ⟨desc, read⟩
      | succ j =>
          rw [← shift]
          exact readable j (Nat.le_of_succ_le_succ upTo)
  · rintro ⟨here, later⟩ i small readable
    cases i with
    | zero => rwa [first] at here
    | succ i =>
        rw [← shift]
        refine later i (Nat.lt_of_succ_lt_succ small) ?_
        intro j upTo
        rw [shift]
        exact readable (j + 1) (Nat.succ_le_succ upTo)

theorem loadEntries_result (space : AddressSpace) (linearBase : XmU32) (left e : Nat)
    (tabs : GdtTabs)
    : (loadEntries space linearBase left e tabs).result
      = Arch.loadEntries space linearBase left e tabs := by
  induction left generalizing e tabs with
  | zero => rfl
  | succ left ih =>
      rw [loadEntries, Arch.loadEntries, result_bind, result_lift]
      refine congrArg _ (funext fun desc => ?_)
      rw [result_bind, isGdtDescValidAt_result, ok_bind]
      dsimp only
      split
      · exact ih _ _
      · exact ih _ _

/-- Witness: induction on the entries left. An entry that installs writes `gdtTab`. -/
theorem loadEntries_within {space : AddressSpace} {linearBase : XmU32} {left e : Nat}
    {tabs : GdtTabs}
    : (loadEntries space linearBase left e tabs).Within Own
      ↔ NoneInstalls space linearBase left e := by
  induction left generalizing e tabs with
  | zero =>
      refine iff_of_true (within_pure _) ?_
      intro i small
      exact absurd small (Nat.not_lt_zero i)
  | succ left ih =>
      rw [loadEntries, within_bind]
      simp only [within_lift, true_and, result_lift]
      cases read : readDesc space (linearBase + BitVec.ofNat 32 (8 * e)) with
      | error stop =>
          refine iff_of_true (fun _ returned => by cases returned) ?_
          intro i _ readable
          obtain ⟨found, here⟩ := readable 0 (Nat.zero_le i)
          cases read.symm.trans here
      | ok desc =>
          rw [noneInstalls_succ read]
          simp only [Except.ok.injEq, forall_eq', within_bind, isGdtDescValidAt_within,
            isGdtDescValidAt_result]
          cases installs : (isGdtDescValid desc).installs with
          | true =>
              refine iff_of_false ?_ fun none => by cases none.1
              rintro ⟨_, stored⟩
              rw [if_pos rfl] at stored
              obtain ⟨_, stored⟩ := within_bind.mp stored
              exact within_access.mp (within_bind.mp (stored _ rfl)).1
          | false =>
              have unmarked : ¬ marks desc = true := by simp [marks, installs]
              simp only [unmarked, Bool.false_eq_true, if_false, ih, false_implies, true_and]

theorem loadEntries_kept {space : AddressSpace} {linearBase : XmU32} {left e : Nat}
    {tabs tabs' : GdtTabs} (none : NoneInstalls space linearBase left e)
    (returned : Arch.loadEntries space linearBase left e tabs = .ok tabs')
    : tabs' = tabs := by
  induction left generalizing e with
  | zero =>
      cases returned
      rfl
  | succ left ih =>
      obtain ⟨desc, read, returned⟩ := bind_eq_ok.mp returned
      obtain ⟨refused, later⟩ := (noneInstalls_succ read).mp none
      dsimp only at returned
      rw [refused] at returned
      exact ih later returned

-----------------------------------------------------------------------------------------
-- Calls

section Checked

variable {α : Type} {space : AddressSpace} {param size : XmU32} {refused : α}
  {accepted : Writing α}

theorem ifChecked_result
    : (ifChecked space param size refused accepted).result
      = Guest.ifChecked space param size paramFlags refused accepted.result := by
  rw [ifChecked, result_bind]
  refine congrArg _ (funext fun checked => ?_)
  split <;> rfl

theorem ifChecked_within {P : DescWrite → Prop}
    : (ifChecked space param size refused accepted).Within P
      ↔ (Accepts space param size paramFlags → accepted.Within P) := by
  obtain ⟨checked, check⟩ := checkGParam_returns space param size paramFlags
  rw [ifChecked, within_bind, result_lift, check]
  simp only [within_lift, true_and, Except.ok.injEq, forall_eq']
  split
  · next failed =>
      refine iff_of_true (within_pure _) ?_
      rintro ⟨other, same, passed⟩
      cases check.symm.trans same
      exact absurd failed passed
  · next passed =>
      have accepts : Accepts space param size paramFlags := ⟨checked, check, passed⟩
      simp only [accepts, forall_const]

end Checked

/-- The two words of an accepted descriptor are below the hypervisor. -/
theorem accepted_descriptor {space : AddressSpace} {gdt : XmU32}
    (accepts : Accepts space gdt 8 paramFlags)
    : gdt + 4 < CONFIG_XM_OFFSET := by
  have starts := BitVec.lt_def.mp accepts.guest.1
  have ends := BitVec.lt_def.mp accepts.guest.2
  have top : CONFIG_XM_OFFSET.toNat = 0xFC000000 := rfl
  rw [BitVec.lt_def, BitVec.toNat_add]
  rw [BitVec.toNat_add] at ends
  simp only [BitVec.reduceToNat] at ends ⊢
  omega

theorem x86LoadGdtSys_result (space : AddressSpace) (desc : XmU32) (v : Arch.VCpu)
    : (x86LoadGdtSys space desc v).result = Arch.x86LoadGdtSys space desc v := by
  rw [x86LoadGdtSys, ifChecked_result]
  refine congrArg _ ?_
  rw [result_bind, result_lift]
  refine congrArg _ (funext fun gdtr => ?_)
  split
  · rfl
  · have cleared : (clearTable v.kArch.gdtTab).result = .ok (clearGuestEntries v.kArch.gdtTab) :=
      rfl
    rw [result_bind, cleared, ok_bind, result_bind, loadEntries_result]
    rfl

theorem x86LoadGdtSys_within {space : AddressSpace} {desc : XmU32} {v : Arch.VCpu}
    : (x86LoadGdtSys space desc v).Within Own ↔ InstallsNothing space desc := by
  rw [x86LoadGdtSys, ifChecked_within, InstallsNothing]
  refine imp_congr_right fun _ => ?_
  rw [within_bind]
  simp only [within_lift, true_and, result_lift]
  refine forall_congr' fun gdtr => imp_congr_right fun _ => ?_
  split
  · next large => exact iff_of_true (within_pure _) fun small => absurd large (Nat.not_lt.mpr small)
  · next small =>
      have cleared : (clearTable v.kArch.gdtTab).Within Own := by
        intro write member
        obtain ⟨e, inside, rfl⟩ := List.mem_map.mp member
        exact List.mem_range.mp inside
      rw [within_bind]
      simp only [cleared, true_and, Nat.not_lt.mp small, forall_const]
      constructor
      · intro loads
        exact loadEntries_within.mp (within_bind.mp (loads _ rfl)).1
      · intro none tab _
        exact within_bind.mpr ⟨loadEntries_within.mpr none, fun _ _ => within_pure _⟩

theorem x86UpdateGdtSys_result (space : AddressSpace) (entry : Int) (gdt : XmU32) (v : Arch.VCpu)
    : (x86UpdateGdtSys space entry gdt v).result = Arch.x86UpdateGdtSys space entry gdt v := by
  rw [x86UpdateGdtSys, ifChecked_result]
  refine congrArg _ ?_
  split
  · rfl
  · rw [result_bind, result_lift]
    refine congrArg _ (funext fun desc => ?_)
    rw [result_bind, isGdtDescValidAt_result, ok_bind]
    dsimp only
    split <;> rfl

/-- The mark is made in guest memory, and the descriptor put where the entry lies. -/
theorem x86UpdateGdtSys_within {space : AddressSpace} {entry : Int} {gdt : XmU32} {v : Arch.VCpu}
    : (x86UpdateGdtSys space entry gdt v).Within Own
      ↔ (Accepts space gdt 8 paramFlags → entry < CONFIG_PARTITION_NO_GDT_ENTRIES →
        ∀ desc, readDesc space gdt = .ok desc → (isGdtDescValid desc).installs = true →
        gdtSlot entry < CONFIG_PARTITION_NO_GDT_ENTRIES) := by
  rw [x86UpdateGdtSys, ifChecked_within]
  refine forall_congr' fun accepts => ?_
  split
  · next large => exact iff_of_true (within_pure _) fun small => absurd small (by omega)
  · next small =>
      have inGuest := accepted_descriptor accepts
      rw [within_bind]
      simp only [within_lift, true_and, result_lift, not_le.mp small, forall_const]
      refine forall_congr' fun desc => imp_congr_right fun _ => ?_
      rw [within_bind, isGdtDescValidAt_result]
      simp only [isGdtDescValidAt_within, inGuest, implies_true, true_and, Except.ok.injEq,
        forall_eq']
      split
      · next installs =>
          rw [within_bind, within_access]
          simp only [installs, forall_const, Own]
          exact and_iff_left fun _ _ => within_pure _
      · next refused => exact iff_of_true (within_pure _) fun installs => absurd installs refused

-----------------------------------------------------------------------------------------
-- Steps

theorem Machine.next_eq (m : Machine) (call : GdtCall)
    : m.next call = m ∨ ∃ ret v, (m.call call).result = .ok (ret, v)
      ∧ m.next call = m.leave call.caller v := by
  unfold Machine.next
  cases returned : (m.call call).result with
  | error stop => exact Or.inl rfl
  | ok result => exact Or.inr ⟨result.1, result.2, rfl, rfl⟩

theorem contained_stopped {m : Machine} {call : GdtCall} (below : AllBelow m)
    (writes : (m.call call).Within Own)
    : Contained m call m where
  below := below
  writes := writes
  others _ _ := rfl
  hypervisor := rfl
  rest _ _ _ := rfl

theorem contained_leave {m : Machine} {call : GdtCall} {v : Arch.VCpu} (below : AllBelow m)
    (writes : (m.call call).Within Own) (hypervisor : v.gdtTab = m.gdtTab)
    (own : ∀ e < CONFIG_PARTITION_NO_GDT_ENTRIES, Below (v.kArch.gdtTab e))
    (rest : ∀ e ≥ CONFIG_PARTITION_NO_GDT_ENTRIES,
      v.kArch.gdtTab e = (m.kArch call.caller).gdtTab e)
    : Contained m call (m.leave call.caller v) where
  below k e inside := by
    by_cases same : k = call.caller
    · subst same
      simpa [Machine.leave] using own e inside
    · simpa [Machine.leave, same] using below k e inside
  writes := writes
  others k other := Function.update_of_ne other _ _
  hypervisor := hypervisor
  rest k e beyond := by
    by_cases same : k = call.caller
    · subst same
      simpa [Machine.leave] using rest e beyond
    · simp [Machine.leave, same]

theorem not_present_below {desc : X86Desc} (absent : desc.present = false) : Below desc :=
  fun present => by simp [absent] at present

/-- A load that installs nothing leaves the guest's entries cleared, or as they were. -/
theorem x86LoadGdtSys_leaves {space : AddressSpace} {desc : XmU32} {v v' : Arch.VCpu} {ret : XmRet}
    (none : InstallsNothing space desc)
    (returned : Arch.x86LoadGdtSys space desc v = .ok (ret, v'))
    : v'.gdtTab = v.gdtTab
      ∧ (v'.kArch.gdtTab = v.kArch.gdtTab
        ∨ v'.kArch.gdtTab = clearGuestEntries v.kArch.gdtTab) := by
  rcases ifChecked_cases returned with ⟨_, result⟩ | ⟨accepts, returned⟩
  · cases result
    exact ⟨rfl, Or.inl rfl⟩
  · obtain ⟨gdtr, read, returned⟩ := bind_eq_ok.mp returned
    split at returned
    · cases returned
      exact ⟨rfl, Or.inl rfl⟩
    · next small =>
        obtain ⟨tabs, loaded, returned⟩ := bind_eq_ok.mp returned
        cases returned
        cases loadEntries_kept (none accepts gdtr read (Nat.not_lt.mp small)) loaded
        exact ⟨rfl, Or.inr rfl⟩

theorem x86UpdateGdtSys_installs {space : AddressSpace} {entry : Int} {gdt : XmU32} {v : Arch.VCpu}
    {desc : X86Desc} (accepts : Accepts space gdt 8 paramFlags)
    (small : entry < CONFIG_PARTITION_NO_GDT_ENTRIES) (read : readDesc space gdt = .ok desc)
    (installs : (isGdtDescValid desc).installs = true)
    : ∃ v', Arch.x86UpdateGdtSys space entry gdt v = .ok (.ok, v')
      ∧ v'.kArch.gdtTab = setEntry v.kArch.gdtTab (gdtSlot entry) (isGdtDescValid desc).desc := by
  rw [Arch.x86UpdateGdtSys, ifChecked_accepted accepts, if_neg (not_le.mpr small), read, ok_bind]
  dsimp only
  rw [if_pos installs]
  exact ⟨_, rfl, rfl⟩

/-- An update leaves the table as it was, or puts what it installs at its entry. -/
theorem x86UpdateGdtSys_leaves {space : AddressSpace} {entry : Int} {gdt : XmU32} {v v' : Arch.VCpu}
    {ret : XmRet} (returned : Arch.x86UpdateGdtSys space entry gdt v = .ok (ret, v'))
    : v' = v ∨ (entry < CONFIG_PARTITION_NO_GDT_ENTRIES
      ∧ Accepts space gdt 8 paramFlags ∧ ∃ desc, readDesc space gdt = .ok desc
        ∧ (isGdtDescValid desc).installs = true ∧ v'.gdtTab = v.gdtTab
        ∧ v'.kArch.gdtTab
          = setEntry v.kArch.gdtTab (gdtSlot entry) (isGdtDescValid desc).desc) := by
  rcases ifChecked_cases returned with ⟨_, result⟩ | ⟨accepts, returned⟩
  · cases result
    exact Or.inl rfl
  · split at returned
    · cases returned
      exact Or.inl rfl
    · next small =>
        obtain ⟨desc, read, returned⟩ := bind_eq_ok.mp returned
        dsimp only at returned
        split at returned
        · next installs =>
            cases returned
            exact Or.inr ⟨not_le.mp small, accepts, desc, read, installs, rfl, rfl⟩
        · cases returned
          exact Or.inl rfl

theorem load_contained_iff {m : Machine} {caller : Nat} {space : AddressSpace} {desc : XmU32}
    (below : AllBelow m)
    : Contained m ⟨caller, .load space desc⟩ (m.next ⟨caller, .load space desc⟩)
      ↔ InstallsNothing space desc := by
  have writes : (m.call ⟨caller, .load space desc⟩).Within Own ↔ InstallsNothing space desc :=
    x86LoadGdtSys_within
  refine ⟨fun contained => writes.mp contained.writes, fun none => ?_⟩
  rcases m.next_eq ⟨caller, .load space desc⟩ with same | ⟨ret, v, returned, same⟩
  · rw [same]
    exact contained_stopped below (writes.mpr none)
  · rw [same]
    have loaded : Arch.x86LoadGdtSys space desc (m.running caller) = .ok (ret, v) := by
      rw [← returned]
      exact (x86LoadGdtSys_result space desc (m.running caller)).symm
    obtain ⟨hypervisor, kept | cleared⟩ := x86LoadGdtSys_leaves none loaded
    · refine contained_leave below (writes.mpr none) hypervisor ?_ ?_
      · intro e inside
        rw [kept]
        exact below caller e inside
      · intro e _
        rw [kept]
        rfl
    · refine contained_leave below (writes.mpr none) hypervisor ?_ ?_
      · intro e inside
        rw [cleared, clearGuestEntries, if_pos inside]
        exact not_present_below rfl
      · intro e beyond
        rw [cleared, clearGuestEntries, if_neg (Nat.not_lt.mpr beyond)]
        rfl

theorem update_contained_iff {m : Machine} {caller : Nat} {space : AddressSpace} {entry : Int}
    {gdt : XmU32} (below : AllBelow m)
    : Contained m ⟨caller, .update space entry gdt⟩ (m.next ⟨caller, .update space entry gdt⟩)
      ↔ InstallsInside space entry gdt := by
  have writes : (m.call ⟨caller, .update space entry gdt⟩).Within Own
      ↔ (Accepts space gdt 8 paramFlags → entry < CONFIG_PARTITION_NO_GDT_ENTRIES →
        ∀ desc, readDesc space gdt = .ok desc → (isGdtDescValid desc).installs = true →
        gdtSlot entry < CONFIG_PARTITION_NO_GDT_ENTRIES) :=
    x86UpdateGdtSys_within
  have results : (m.call ⟨caller, .update space entry gdt⟩).result
      = Arch.x86UpdateGdtSys space entry gdt (m.running caller) :=
    x86UpdateGdtSys_result space entry gdt (m.running caller)
  constructor
  · intro contained accepts small desc read installs
    have inside := writes.mp contained.writes accepts small desc read installs
    refine ⟨inside, (installed_below_iff installs).mp ?_⟩
    obtain ⟨v', returned, stored⟩ :=
      x86UpdateGdtSys_installs (v := m.running caller) accepts small read installs
    have after := contained.below caller (gdtSlot entry) inside
    rw [Machine.next, results, returned] at after
    simpa [Machine.leave, stored] using after
  · intro allowed
    have own := writes.mpr fun accepts small desc read installs =>
      (allowed accepts small desc read installs).1
    rcases m.next_eq ⟨caller, .update space entry gdt⟩ with same | ⟨ret, v, returned, same⟩
    · rw [same]
      exact contained_stopped below own
    · rw [same]
      rw [results] at returned
      rcases x86UpdateGdtSys_leaves returned with
        rfl | ⟨small, accepts, desc, read, installs, hypervisor, stored⟩
      · exact contained_leave below own rfl (below caller) fun _ _ => rfl
      · obtain ⟨inside, ends⟩ := allowed accepts small desc read installs
        refine contained_leave below own hypervisor ?_ ?_
        · intro e inTab
          rw [stored]
          by_cases here : e = gdtSlot entry
          · subst here
            rw [setEntry_same]
            exact (installed_below_iff installs).mpr ends
          · rw [setEntry_other here]
            exact below caller e inTab
        · intro e beyond
          rw [stored, setEntry_other (by omega)]
          rfl

/-- At 0x1000 a segment from 0x10000 on of 4 GiB, at 0x1008 one from 0 on of 64 KiB, and at 0x1010
the register for a table of the first one alone.
-/
def guestMemory : AddressSpace where
  byte addr :=
    if addr = 0x1000 ∨ addr = 0x1001 ∨ addr = 0x1008 ∨ addr = 0x1009 then 0xFF
    else if addr = 0x1004 then 0x01
    else if addr = 0x1005 ∨ addr = 0x100D then 0xF2
    else if addr = 0x1006 then 0x8F
    else if addr = 0x1010 then 0x07
    else if addr = 0x1013 then 0x10
    else 0
  readable _ := true
  writable _ := true

def bootMachine : Machine where
  kArch _ :=
    { cr0 := 0
      gdtTab := fun _ => { high := 0, low := 0 }
      idtTab := fun _ => { high0 := 0, low0 := 0 }
      tss := { sp1 := 0, ss1 := 0, sp2 := 0, ss2 := 0 } }
  pct _ := { gdtr := ⟨0, 0⟩, idtr := ⟨0, 0⟩, maxIdtVec := 0, cr0 := 0, iFlags := 0 }
  ctxt _ := { eCode := 0, ip := 0, cs := 0, flags := 0, sp := 0, ss := 0 }
  gdtTab _ := { high := 0, low := 0 }

theorem bootMachine_booted : Booted bootMachine where
  gdtTab _ _ := rfl
  copied _ _ _ := rfl

def updateCall (entry : Int) (gdt : XmU32) : GdtCall where
  caller := 0
  request := .update guestMemory entry gdt

def loadCall : GdtCall where
  caller := 0
  request := .load guestMemory 0x1010

end XtratuM.GuestDescriptors
