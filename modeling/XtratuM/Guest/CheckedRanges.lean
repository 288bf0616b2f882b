import XtratuM.Guest.Access
import XtratuM.Library.GuardedUses

/-! Handlers that dereference guest pointers, and what `CheckGParam` says of the ranges it accepts.
-/

namespace XtratuM.Guest

open GuardedUses
open Tracked

/-- A range for which `CheckGParam` answered 0, with the bytes it probed. -/
structure CheckedRange where
  param : XmU32
  size : XmU32
  probed : List XmU32

/-- The range ends below the hypervisor and a byte of each of its pages was probed. -/
structure CheckedRange.Sound (range : CheckedRange) : Prop where
  below : range.param.toNat + range.size.toNat ≤ CONFIG_XM_OFFSET.toNat
  probed : ∀ i < range.size.toNat, ∃ addr ∈ range.probed,
    addr.toNat / 4096 = (range.param.toNat + i) / 4096

/-- The address lies in `[param, param + size)`. -/
def InRange (param size addr : XmU32) : Prop :=
  param.toNat ≤ addr.toNat ∧ addr.toNat < param.toNat + size.toNat

def CheckedRange.Covers (range : CheckedRange) (addr : XmU32) : Prop :=
  InRange range.param range.size addr

/-- A handler, with its checks and the guest addresses it dereferences. -/
abbrev Dereferencing (α : Type) : Type := Guarding CheckedRange XmU32 Stop α

/-- Every address that a call dereferences lies in a range that it has checked. -/
abbrev ChecksFirst (events : List (Event CheckedRange XmU32)) : Prop :=
  Guarded CheckedRange.Sound CheckedRange.Covers events

/-- What is left of a call when `held` has been checked. -/
abbrev ChecksAfter {α : Type} (held : Set CheckedRange) (handler : Dereferencing α) : Prop :=
  After CheckedRange.Sound CheckedRange.Covers held handler

/-- Some range that was checked covers the address. -/
abbrev CoveredBy (held : Set CheckedRange) (addr : XmU32) : Prop :=
  ∃ range ∈ held, range.Covers addr

/-- So many bytes from an address on. -/
def bytesAt (addr : XmU32) (len : Nat) : List XmU32 :=
  (List.range len).map fun i => addr + BitVec.ofNat 32 i

def dereference (addr : XmU32) (len : Nat) : Dereferencing Unit := uses (bytesAt addr len)

/-- `CheckGParam(..) < 0` decides which of two ways a handler goes. -/
def whenChecked {α : Type} (space : AddressSpace) (param size : XmU32) (flags : PFlags)
    (refused : α) (accepted : Dereferencing α) : Dereferencing α := do
  let checked ← lift (checkGParam space param size flags)
  if checked.ret < 0 then
    pure refused
  else do
    guard { param, size, probed := checked.probed }
    accepted

-----------------------------------------------------------------------------------------
-- Accepted ranges

/-- The probes of a walk that comes to its end, by induction on the fuel. -/
theorem probePages_probed {touch : XmU32 → Bool} {limit : XmU32}
    (below : limit.toNat ≤ CONFIG_XM_OFFSET.toNat) {fuel : Nat} {addr : XmU32} {checked : Checked}
    (returned : probePages touch limit fuel addr = .ok checked) (passed : ¬ checked.ret < 0)
    {n : Nat} (low : addr.toNat ≤ n) (high : n < limit.toNat)
    : ∃ probe ∈ checked.probed, probe.toNat / 4096 = n / 4096 := by
  induction fuel generalizing addr checked with
  | zero => cases returned
  | succ fuel ih =>
      have inside : addr < limit := BitVec.lt_def.mpr (Nat.lt_of_le_of_lt low high)
      unfold probePages at returned
      rw [if_pos inside] at returned
      split at returned
      · obtain ⟨rest, walk, returned⟩ := bind_eq_ok.mp returned
        cases returned
        by_cases here : n / 4096 = addr.toNat / 4096
        · exact ⟨addr, List.mem_cons_self, here.symm⟩
        · have top : CONFIG_XM_OFFSET.toNat = 0xFC000000 := rfl
          have next
              : ((addr &&& PAGE_MASK) + PAGE_SIZE).toNat = addr.toNat / 4096 * 4096 + 4096 := by
            rw [BitVec.toNat_add, page_toNat]
            have size : PAGE_SIZE.toNat = 4096 := rfl
            omega
          obtain ⟨probe, member, page⟩ := ih walk passed (by omega)
          exact ⟨probe, List.mem_cons_of_mem _ member, page⟩
      · cases returned
        exact absurd (show (-1 : Int) < 0 by decide) passed

/-- The sum of a parameter and its size does not fit in 32 bits. -/
def Wraps (param size : XmU32) : Prop := 2 ^ 32 ≤ param.toNat + size.toNat

instance (param size : XmU32) : Decidable (Wraps param size) :=
  inferInstanceAs (Decidable (_ ≤ _))

/-- What `CheckGParam` answers 0 for is below the hypervisor and probed, unless its sum wraps. -/
theorem checkGParam_sound {space : AddressSpace} {param size : XmU32} {flags : PFlags}
    {checked : Checked} (returned : checkGParam space param size flags = .ok checked)
    (passed : ¬ checked.ret < 0)
    : CheckedRange.Sound { param, size, probed := checked.probed } ↔ ¬ Wraps param size := by
  have top : CONFIG_XM_OFFSET.toNat = 0xFC000000 := rfl
  constructor
  · rintro ⟨below, _⟩ wraps
    unfold Wraps at wraps
    dsimp only at below
    omega
  · intro fits
    have ending := BitVec.lt_def.mp (Accepts.below ⟨checked, returned, passed⟩)
    have sum : (param + size).toNat = param.toNat + size.toNat := by
      unfold Wraps at fits
      rw [BitVec.toNat_add]
      omega
    rw [sum] at ending
    have probes {touch : XmU32 → Bool}
        (walk : probePages touch (param + size) (probeFuel (param + size) param) param
          = .ok checked)
        (i : Nat) (inside : i < size.toNat)
        : ∃ addr ∈ checked.probed, addr.toNat / 4096 = (param.toNat + i) / 4096 := by
      refine probePages_probed ?_ walk passed (Nat.le_add_right _ _) ?_
      · omega
      · omega
    refine { below := Nat.le_of_lt ending, probed := ?_ }
    unfold checkGParam at returned
    split at returned
    · cases returned
      exact absurd (by decide) passed
    · split at returned
      · cases returned
        exact absurd (by decide) passed
      · split at returned
        · exact probes returned
        · exact probes returned

/-- A range of a fixed small size does not wrap. -/
theorem Accepts.fits {space : AddressSpace} {param size : XmU32} {flags : PFlags}
    (accepts : Accepts space param size flags) (small : size.toNat ≤ 4096)
    : ¬ Wraps param size := by
  have start := BitVec.lt_def.mp accepts.guest.1
  have top : CONFIG_XM_OFFSET.toNat = 0xFC000000 := rfl
  unfold Wraps
  omega

/-- A sum that wraps to below the hypervisor is accepted without a probe. -/
theorem accepts_of_wraps {space : AddressSpace} {param size : XmU32} {flags : PFlags}
    (wraps : Wraps param size) (notNull : param ≠ 0) (start : param < CONFIG_XM_OFFSET)
    (ending : param + size < CONFIG_XM_OFFSET)
    : checkGParam space param size flags = .ok { ret := 0, probed := [] } := by
  have outside : ¬ param < param + size := by
    have small := size.isLt
    unfold Wraps at wraps
    rw [BitVec.lt_def, BitVec.toNat_add]
    omega
  have walk (touch : XmU32 → Bool)
      : probePages touch (param + size) (probeFuel (param + size) param) param
        = .ok { ret := 0, probed := [] } := by
    have fuel : probeFuel (param + size) param
        = (param + size - param).toNat / 4096 + 2 + 1 := rfl
    rw [fuel, probePages, if_neg outside]
  unfold checkGParam
  rw [if_neg fun null => notNull null.2,
    if_neg (not_or.mpr ⟨BitVec.not_le.mpr start, BitVec.not_le.mpr ending⟩)]
  split
  · exact walk _
  · exact walk _

/-- A check with this parameter and size accepts a sum that wraps. -/
structure Slips (param size : XmU32) : Prop where
  wraps : Wraps param size
  start : param < CONFIG_XM_OFFSET
  ending : param + size < CONFIG_XM_OFFSET

/-- The null pointer does not wrap, so it makes no difference whether it is refused. -/
theorem slips_iff (space : AddressSpace) {param size : XmU32} (flags : PFlags)
    : Slips param size ↔ Accepts space param size flags ∧ Wraps param size := by
  constructor
  · rintro ⟨wraps, start, ending⟩
    have notNull : param ≠ 0 := by
      rintro rfl
      have small := size.isLt
      unfold Wraps at wraps
      simp at wraps
      omega
    exact ⟨⟨_, accepts_of_wraps wraps notNull start ending, by decide⟩, wraps⟩
  · rintro ⟨accepts, wraps⟩
    exact { wraps, start := accepts.guest.1, ending := accepts.guest.2 }

/-- The range was checked, whatever bytes were probed. -/
def Passed (held : Set CheckedRange) (param size : XmU32) : Prop :=
  ∃ probed, { param, size, probed } ∈ held

theorem coveredBy_insert {held : Set CheckedRange} {range : CheckedRange} {addr : XmU32}
    : CoveredBy (insert range held) addr ↔ range.Covers addr ∨ CoveredBy held addr :=
  Set.exists_mem_insert

theorem not_coveredBy_empty (addr : XmU32) : ¬ CoveredBy ∅ addr := by
  rintro ⟨range, none, -⟩
  exact none

theorem passed_insert {held : Set CheckedRange} {param size : XmU32} {probed : List XmU32}
    : Passed (insert { param, size, probed } held) param size :=
  ⟨probed, Set.mem_insert _ _⟩

theorem Passed.later {held : Set CheckedRange} {param size : XmU32}
    (passed : Passed held param size) (range : CheckedRange)
    : Passed (insert range held) param size :=
  passed.imp fun _ member => Set.mem_insert_of_mem range member

/-- Bytes of a range that does not wrap. -/
theorem Passed.covers {held : Set CheckedRange} {param size : XmU32}
    (passed : Passed held param size) (fits : ¬ Wraps param size) (offset : Nat) {len : Nat}
    (inside : offset + len ≤ size.toNat)
    : ∀ addr ∈ bytesAt (param + BitVec.ofNat 32 offset) len, CoveredBy held addr := by
  obtain ⟨probed, member⟩ := passed
  intro addr listed
  obtain ⟨i, low, rfl⟩ := List.mem_map.mp listed
  have low := List.mem_range.mp low
  have small := size.isLt
  have numbers : (param + BitVec.ofNat 32 offset + BitVec.ofNat 32 i).toNat
      = param.toNat + offset + i := by
    unfold Wraps at fits
    rw [BitVec.toNat_add, BitVec.toNat_add, BitVec.toNat_ofNat, BitVec.toNat_ofNat]
    omega
  refine ⟨_, member, ?_⟩
  unfold CheckedRange.Covers InRange
  dsimp only
  rw [numbers]
  omega

/-- The first bytes of a range that does not wrap. -/
theorem Passed.covers_start {held : Set CheckedRange} {param size : XmU32}
    (passed : Passed held param size) (fits : ¬ Wraps param size) {len : Nat}
    (inside : len ≤ size.toNat)
    : ∀ addr ∈ bytesAt param len, CoveredBy held addr := by
  have start : param + BitVec.ofNat 32 0 = param := BitVec.add_zero param
  have covered := passed.covers fits 0 (by omega : 0 + len ≤ size.toNat)
  rwa [start] at covered

-----------------------------------------------------------------------------------------
-- Handlers

section Handlers

variable {α β : Type} {held : Set CheckedRange} {space : AddressSpace} {param size : XmU32}
  {flags : PFlags} {refused : α} {accepted : Dereferencing α}

theorem result_whenChecked
    : (whenChecked space param size flags refused accepted).result
      = ifChecked space param size flags refused accepted.result := by
  unfold whenChecked ifChecked
  simp only [result_bind, result_lift]
  congr 1
  funext checked
  split
  · rfl
  · simp only [result_bind, result_guard, ok_bind]

/-- A handler that goes on with what it has checked. -/
theorem checksAfter_whenChecked {holds : Prop}
    (rest : ∀ probed, Accepts space param size flags → ¬ Wraps param size →
      (ChecksAfter (insert { param, size, probed } held) accepted ↔ holds))
    : ChecksAfter held (whenChecked space param size flags refused accepted)
      ↔ ¬ Slips param size ∧ (Accepts space param size flags → holds) := by
  have decided : ChecksAfter held (whenChecked space param size flags refused accepted)
      ↔ ∀ checked, checkGParam space param size flags = .ok checked → ¬ checked.ret < 0 →
        ¬ Wraps param size
          ∧ ChecksAfter (insert { param, size, probed := checked.probed } held) accepted := by
    refine after_lift_bind.trans (forall₂_congr ?_)
    intro checked returned
    split
    · next failed => exact iff_of_true (after_pure refused) fun passed => absurd failed passed
    · next passed =>
        refine after_guard_bind.trans ?_
        rw [checkGParam_sound returned passed]
        exact ⟨fun both _ => both, fun both => both passed⟩
  rw [decided, slips_iff space flags]
  constructor
  · intro goesOn
    have both (accepts : Accepts space param size flags) : ¬ Wraps param size ∧ holds := by
      obtain ⟨checked, returned, passed⟩ := accepts
      obtain ⟨fits, after⟩ := goesOn checked returned passed
      exact ⟨fits, (rest checked.probed ⟨checked, returned, passed⟩ fits).mp after⟩
    exact ⟨fun slips => (both slips.1).1 slips.2, fun accepts => (both accepts).2⟩
  · rintro ⟨noSlip, goesOn⟩ checked returned passed
    have accepts : Accepts space param size flags := ⟨checked, returned, passed⟩
    have fits : ¬ Wraps param size := fun wraps => noSlip ⟨accepts, wraps⟩
    exact ⟨fits, (rest checked.probed accepts fits).mpr (goesOn accepts)⟩

/-- What comes after the check dereferences only what has been checked. -/
theorem checksAfter_whenChecked_of
    (rest : ∀ probed, ¬ Wraps param size →
      ChecksAfter (insert { param, size, probed } held) accepted)
    : ChecksAfter held (whenChecked space param size flags refused accepted)
      ↔ ¬ Slips param size := by
  have rest (probed : List XmU32) (_ : Accepts space param size flags) (fits : ¬ Wraps param size)
      : ChecksAfter (insert { param, size, probed } held) accepted ↔ True :=
    iff_true_intro (rest probed fits)
  exact (checksAfter_whenChecked rest).trans (and_iff_left fun _ => trivial)

/-- A range of a fixed small size needs no condition of its own. -/
theorem checksAfter_whenChecked_small {holds : Prop} (small : size.toNat ≤ 4096)
    (rest : ∀ probed, Accepts space param size flags → ¬ Wraps param size →
      (ChecksAfter (insert { param, size, probed } held) accepted ↔ holds))
    : ChecksAfter held (whenChecked space param size flags refused accepted)
      ↔ (Accepts space param size flags → holds) := by
  rw [checksAfter_whenChecked rest, and_iff_right]
  intro slips
  have accepts := (slips_iff space flags).mp slips
  exact accepts.1.fits small accepts.2

theorem checksAfter_whenChecked_small_of (small : size.toNat ≤ 4096)
    (rest : ∀ probed, ¬ Wraps param size →
      ChecksAfter (insert { param, size, probed } held) accepted)
    : ChecksAfter held (whenChecked space param size flags refused accepted) := by
  refine (checksAfter_whenChecked_small small ?_).mpr fun _ => trivial
  exact fun probed _ fits => iff_true_intro (rest probed fits)

/-- Bytes that a checked range covers. -/
theorem checksAfter_dereference_bind {addr : XmU32} {len : Nat} {rest : Unit → Dereferencing α}
    (covered : ∀ place ∈ bytesAt addr len, CoveredBy held place)
    : ChecksAfter held (dereference addr len >>= rest) ↔ ChecksAfter held (rest ()) :=
  after_uses_bind.trans (and_iff_right covered)

/-- Before anything is checked, nothing may be dereferenced. -/
theorem not_checksAfter_empty {addr : XmU32} {len : Nat} {rest : Unit → Dereferencing α}
    (some : 0 < len) : ¬ ChecksAfter ∅ (dereference addr len >>= rest) := by
  intro checks
  have first : addr ∈ bytesAt addr len :=
    List.mem_map.mpr ⟨0, List.mem_range.mpr some, BitVec.add_zero addr⟩
  exact not_coveredBy_empty addr ((after_uses_bind.mp checks).1 addr first)

end Handlers

end XtratuM.Guest
