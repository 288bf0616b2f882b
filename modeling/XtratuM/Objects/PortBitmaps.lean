import XtratuM.Boot.ReservedMemory
import XtratuM.Library.Tracked
import XtratuM.Library.WordMemory
import XtratuM.Objects.CommPorts

/-! The port bitmaps behind the memory areas of the control tables, word by word in memory, and the
size that `CreatePartition` gives to a table.
-/

namespace XtratuM.PortBitmaps

open Boot (Sizes XmcPartition pctSize someSizes wordSize)
open Tracked
open WordMemory

/-- Memory is reached a word at a time, by the address of the word. -/
abbrev Accessing (α : Type) : Type := Computation XmU32 Stop α

-----------------------------------------------------------------------------------------
-- Bitmaps

def XM_LOG2_WORD_SZ : Nat := 5

def updateWord (addr : XmU32) (change : XmU32 → XmU32) (memory : Memory) : Accessing Memory :=
  access addr (.ok (setWord memory addr (change (word memory addr))))

/-- `xmSetBit` and `xmClearBit`, by the change they make to the word. The limit is compared as an
unsigned number.
-/
def changeBit (bm bp maxBits : XmU32) (change : XmU32 → XmU32 → XmU32) (memory : Memory)
    : Accessing Memory :=
  let e := bp >>> XM_LOG2_WORD_SZ
  let b := bp &&& ((1 <<< XM_LOG2_WORD_SZ) - 1)
  if maxBits ≤ bp then
    pure memory
  else
    updateWord (bm + 4 * e) (fun word => change word ((1 : XmU32) <<< b)) memory

def xmSetBit (bm bp maxBits : XmU32) : Memory → Accessing Memory :=
  changeBit bm bp maxBits fun word mask => word ||| mask

def xmClearBit (bm bp maxBits : XmU32) : Memory → Accessing Memory :=
  changeBit bm bp maxBits fun word mask => word &&& ~~~mask

/-- The number of words that the loop of `xmClearBitmap` comes to. -/
def bitmapWords (maxBits : XmU32) : XmU32 :=
  if maxBits &&& ((1 <<< XM_LOG2_WORD_SZ) - 1) ≠ 0 then
    maxBits.sshiftRight XM_LOG2_WORD_SZ + 1
  else
    maxBits.sshiftRight XM_LOG2_WORD_SZ

/-- The loop of `xmClearBitmap` from the word `e` on. -/
def clearWords (bm : XmU32) : Nat → XmU32 → Memory → Accessing Memory
  | 0, _, memory => pure memory
  | left + 1, e, memory => do
      let memory ← updateWord (bm + 4 * e) (fun _ => 0) memory
      clearWords bm left (e + 1) memory

def xmClearBitmap (bm maxBits : XmU32) : Memory → Accessing Memory :=
  clearWords bm (bitmapWords maxBits).toNat 0

-----------------------------------------------------------------------------------------
-- Control tables

/-- What comes before the bitmap in a control table. -/
def headerSize (sizes : Sizes) (cfg : XmcPartition) : XmU32 :=
  sizes.partitionControlTable + sizes.xmPhysicalMemMap * cfg.noPhysicalMemoryAreas

/-- The control table that `CreatePartition` gives to a vCPU, of those at `pct`. -/
def partCtrlTab (sizes : Sizes) (cfg : XmcPartition) (pct vCpuId : XmU32) : XmU32 :=
  pct + pctSize sizes cfg * vCpuId

/-- Where `SetupPct` and the ports' operations have the bitmap. -/
def commPortBitmap (sizes : Sizes) (cfg : XmcPartition) (pct vCpuId : XmU32) : XmU32 :=
  partCtrlTab sizes cfg pct vCpuId + headerSize sizes cfg

/-- A word among the bytes that are allocated for the table of a vCPU. -/
structure InTable (sizes : Sizes) (cfg : XmcPartition) (pct vCpuId addr : XmU32) : Prop where
  after : (pctSize sizes cfg).toNat * vCpuId.toNat ≤ (addr - pct).toNat
  before : (addr - pct).toNat + 4 ≤ (pctSize sizes cfg).toNat * (vCpuId.toNat + 1)
  allocated : (pctSize sizes cfg).toNat * (vCpuId.toNat + 1)
    ≤ (pctSize sizes cfg * cfg.noVCpus).toNat

/-- Every word of a bitmap that its operations access is in the table of its vCPU. -/
structure BitmapFits (sizes : Sizes) (cfg : XmcPartition) (pct vCpuId : XmU32) : Prop where
  clearBitmap : ∀ memory,
    (xmClearBitmap (commPortBitmap sizes cfg pct vCpuId) cfg.noPorts memory).Within
      (InTable sizes cfg pct vCpuId)
  setBit : ∀ port memory,
    (xmSetBit (commPortBitmap sizes cfg pct vCpuId) port cfg.noPorts memory).Within
      (InTable sizes cfg pct vCpuId)
  clearBit : ∀ port memory,
    (xmClearBit (commPortBitmap sizes cfg pct vCpuId) port cfg.noPorts memory).Within
      (InTable sizes cfg pct vCpuId)

-----------------------------------------------------------------------------------------
-- Words accessed

theorem shiftPort_eq (bp : XmU32)
    : bp >>> XM_LOG2_WORD_SZ = BitVec.ofNat 32 (bp.toNat / 32) := by
  apply BitVec.eq_of_toNat_eq
  rw [BitVec.toNat_ushiftRight, Nat.shiftRight_eq_div_pow, BitVec.toNat_ofNat,
    Nat.mod_eq_of_lt (Nat.lt_of_le_of_lt (Nat.div_le_self _ _) bp.isLt)]
  rfl

section Within

variable {P : XmU32 → Prop} {bm maxBits : XmU32}

/-- Witness: induction on the words left. -/
theorem clearWords_within {left : Nat} {e : XmU32} {memory : Memory}
    : (clearWords bm left e memory).Within P
      ↔ ∀ k < left, P (bm + 4 * (e + BitVec.ofNat 32 k)) := by
  induction left generalizing e memory with
  | zero => simp [clearWords, within_pure]
  | succ left ih =>
      have next (k : Nat) : e + 1 + BitVec.ofNat 32 k = e + BitVec.ofNat 32 (k + 1) := by
        rw [BitVec.ofNat_add, BitVec.add_assoc, BitVec.add_comm 1]
        rfl
      rw [clearWords, within_bind, updateWord, within_access]
      constructor
      · rintro ⟨first, rest⟩ k small
        cases k with
        | zero => simpa using first
        | succ k =>
            have later := ih.mp (rest _ rfl) k (Nat.lt_of_succ_lt_succ small)
            rwa [next] at later
      · intro all
        refine ⟨by simpa using all 0 (Nat.succ_pos left), fun _ _ => ih.mpr ?_⟩
        intro k small
        rw [next]
        exact all (k + 1) (Nat.succ_lt_succ small)

theorem changeBit_within {change : XmU32 → XmU32 → XmU32} {bp : XmU32} {memory : Memory}
    : (changeBit bm bp maxBits change memory).Within P
      ↔ (bp < maxBits → P (bm + 4 * (bp >>> XM_LOG2_WORD_SZ))) := by
  unfold changeBit
  by_cases below : bp < maxBits
  · rw [if_neg (BitVec.not_le.mpr below), updateWord, within_access]
    simp [below]
  · rw [if_pos (BitVec.not_lt.mp below)]
    exact iff_of_true (within_pure _) fun here => absurd here below

end Within

-----------------------------------------------------------------------------------------
-- Sizes

section Sizes

variable {sizes : Sizes} {cfg : XmcPartition}

theorem shiftPorts_toNat {x : XmU32} (nonneg : 0 ≤ x.toInt)
    : (x.sshiftRight XM_LOG2_WORD_SZ).toNat = x.toNat / 32 := by
  have positive : x.msb = false := by
    rw [BitVec.msb_eq_toInt]
    simpa using nonneg
  rw [BitVec.sshiftRight_eq_of_msb_false positive, BitVec.toNat_ushiftRight,
    Nat.shiftRight_eq_div_pow]
  rfl

theorem partialWord_iff {x : XmU32}
    : x &&& ((1 <<< XM_LOG2_WORD_SZ) - 1) ≠ 0 ↔ x.toNat % 32 ≠ 0 := by
  have bits : (x &&& ((1 <<< XM_LOG2_WORD_SZ) - 1)).toNat = x.toNat % 32 := by
    rw [BitVec.toNat_and]
    exact Nat.and_two_pow_sub_one_eq_mod x.toNat 5
  rw [← bits, ne_eq, ne_eq, ← BitVec.toNat_inj]
  rfl

/-- The words that the bits need. -/
theorem bitmapWords_toNat {x : XmU32} (nonneg : 0 ≤ x.toInt)
    : (bitmapWords x).toNat = (x.toNat + 31) / 32 := by
  have whole := shiftPorts_toNat nonneg
  have size := x.isLt
  unfold bitmapWords
  split
  · next partialWord =>
      rw [partialWord_iff] at partialWord
      rw [BitVec.toNat_add, whole]
      simp only [BitVec.reduceToNat]
      omega
  · next aligned =>
      rw [partialWord_iff, not_not] at aligned
      rw [whole]
      omega

/-- The bytes that `CreatePartition` adds for the bits: one for every 32 of them, and four for the
rest.
-/
def bitmapBytes (noPorts : Nat) : Nat :=
  noPorts / 32 + if noPorts % 32 ≠ 0 then 4 else 0

theorem pctSize_toNat (nonneg : 0 ≤ cfg.noPorts.toInt)
    : (pctSize sizes cfg).toNat
      = ((headerSize sizes cfg).toNat + bitmapBytes cfg.noPorts.toNat) % 2 ^ 32 := by
  have whole : (cfg.noPorts.sshiftRight 5).toNat = cfg.noPorts.toNat / 32 := shiftPorts_toNat nonneg
  have partialWord : cfg.noPorts &&& ((1 <<< 5) - 1) ≠ 0 ↔ cfg.noPorts.toNat % 32 ≠ 0 :=
    partialWord_iff
  unfold pctSize bitmapBytes
  by_cases rest : cfg.noPorts.toNat % 32 ≠ 0
  · rw [if_pos rest]
    dsimp only
    rw [if_pos (partialWord.mpr rest), BitVec.toNat_add, BitVec.toNat_add, whole]
    have word : wordSize.toNat = 4 := rfl
    rw [word, headerSize]
    omega
  · rw [if_neg rest]
    dsimp only
    rw [if_neg (mt partialWord.mp rest), BitVec.toNat_add, whole]
    rfl

/-- Where a word of the bitmap is, from the first control table on. -/
theorem bitmapWord_offset (pct vCpuId e : XmU32)
    : (commPortBitmap sizes cfg pct vCpuId + 4 * e - pct).toNat
      = ((pctSize sizes cfg).toNat * vCpuId.toNat + (headerSize sizes cfg).toNat + 4 * e.toNat)
        % 2 ^ 32 := by
  have sum : commPortBitmap sizes cfg pct vCpuId + 4 * e - pct
      = pctSize sizes cfg * vCpuId + headerSize sizes cfg + 4 * e := by
    unfold commPortBitmap partCtrlTab
    rw [BitVec.add_assoc, BitVec.add_assoc, BitVec.add_assoc, add_sub_cancel_left]
  rw [sum, BitVec.toNat_add, BitVec.toNat_add, BitVec.toNat_mul, BitVec.toNat_mul]
  simp only [BitVec.reduceToNat]
  omega

/-- The words for the bits are those that clearing the bitmap comes to. -/
theorem bitmapFits_iff (nonneg : 0 ≤ cfg.noPorts.toInt) (pct vCpuId : XmU32)
    : BitmapFits sizes cfg pct vCpuId
      ↔ ∀ k < (cfg.noPorts.toNat + 31) / 32,
        InTable sizes cfg pct vCpuId
          (commPortBitmap sizes cfg pct vCpuId + 4 * BitVec.ofNat 32 k) := by
  have words := bitmapWords_toNat nonneg
  constructor
  · intro fits k small
    have cleared := clearWords_within.mp (fits.clearBitmap fun _ => 0) k (by rwa [words])
    rwa [zero_add] at cleared
  · intro inTable
    have word (port : XmU32) (below : port < cfg.noPorts)
        : InTable sizes cfg pct vCpuId
          (commPortBitmap sizes cfg pct vCpuId + 4 * (port >>> XM_LOG2_WORD_SZ)) := by
      rw [shiftPort_eq]
      refine inTable _ ?_
      have before := BitVec.lt_def.mp below
      omega
    exact
      { clearBitmap := by
          intro memory
          refine clearWords_within.mpr fun k small => ?_
          rw [words] at small
          rw [zero_add]
          exact inTable k small
        setBit := fun port _ => changeBit_within.mpr (word port)
        clearBit := fun port _ => changeBit_within.mpr (word port) }

end Sizes

-----------------------------------------------------------------------------------------
-- Which bitmaps fit

/-- Words that follow the header of a table, in addresses of 32 bits, do not fit into fewer bytes
than they have.
-/
theorem no_room {header bytes words : Nat} (fewer : bytes < 4 * words) (small : header < 2 ^ 32)
    (bounded : words ≤ 2 ^ 27)
    : ¬ ∀ k < words, (header + 4 * k) % 2 ^ 32 + 4 ≤ (header + bytes) % 2 ^ 32 := by
  intro fits
  by_cases wraps : 2 ^ 32 ≤ header + bytes
  · have first := fits 0 (by omega)
    omega
  · by_cases last : header + 4 * (words - 1) < 2 ^ 32
    · have reaches := fits (words - 1) (by omega)
      omega
    · -- the last word before the addresses start again is beyond the table already
      have reaches := fits ((2 ^ 32 - 1 - header) / 4) (by omega)
      omega

section Sizes

variable {sizes : Sizes} {cfg : XmcPartition} {pct : XmU32}

/-- Thirty-two ports and more do not fit even in the first table. -/
theorem many_ports (nonneg : 0 ≤ cfg.noPorts.toInt) (many : 32 ≤ cfg.noPorts.toNat)
    : ¬ BitmapFits sizes cfg pct 0 := by
  rw [bitmapFits_iff nonneg]
  intro inTable
  have size := cfg.noPorts.isLt
  have fewer : bitmapBytes cfg.noPorts.toNat < 4 * ((cfg.noPorts.toNat + 31) / 32) := by
    unfold bitmapBytes
    split <;> omega
  refine no_room fewer (headerSize sizes cfg).isLt (by omega) ?_
  intro k small
  have word := (inTable k small).before
  rw [bitmapWord_offset, pctSize_toNat nonneg, BitVec.toNat_ofNat,
    Nat.mod_eq_of_lt (by omega : k < 2 ^ 32)] at word
  simpa using word

theorem few_ports (nonneg : 0 ≤ cfg.noPorts.toInt) (some : cfg.noPorts ≠ 0)
    (few : cfg.noPorts.toNat < 32) {vCpus : Nat} (vCpus_eq : cfg.noVCpus.toNat = vCpus + 1)
    : (∀ vCpuId < cfg.noVCpus, BitmapFits sizes cfg pct vCpuId)
      ↔ ((headerSize sizes cfg).toNat + 4) * cfg.noVCpus.toNat < 2 ^ 32 := by
  have positive : cfg.noPorts.toNat ≠ 0 := by
    intro zero
    exact some (BitVec.eq_of_toNat_eq zero)
  have oneWord : (cfg.noPorts.toNat + 31) / 32 = 1 := by omega
  have header := (headerSize sizes cfg).isLt
  have size : (pctSize sizes cfg).toNat = ((headerSize sizes cfg).toNat + 4) % 2 ^ 32 := by
    have bytes : bitmapBytes cfg.noPorts.toNat = 4 := by
      unfold bitmapBytes
      rw [if_pos (by omega)]
      omega
    rw [pctSize_toNat nonneg, bytes]
  have total : (pctSize sizes cfg * cfg.noVCpus).toNat
      = (pctSize sizes cfg).toNat * cfg.noVCpus.toNat % 2 ^ 32 :=
    BitVec.toNat_mul _ _
  constructor
  · intro fits
    have first := (bitmapFits_iff nonneg pct 0).mp
      (fits 0 (BitVec.lt_def.mpr (by simp; omega))) 0 (by omega)
    have before := first.before
    rw [bitmapWord_offset] at before
    simp only [BitVec.ofNat_eq_ofNat, BitVec.toNat_ofNat] at before
    -- the table of the last vCPU ends where the allocation does
    have last := (bitmapFits_iff nonneg pct (BitVec.ofNat 32 vCpus)).mp
      (fits _ (BitVec.lt_def.mpr (by rw [BitVec.toNat_ofNat]; omega))) 0 (by omega)
    have allocated := last.allocated
    rw [total, vCpus_eq, BitVec.toNat_ofNat, Nat.mod_eq_of_lt (by omega : vCpus < 2 ^ 32)]
      at allocated
    rw [vCpus_eq, ← Nat.mod_eq_of_lt (by omega : (headerSize sizes cfg).toNat + 4 < 2 ^ 32), ← size]
    omega
  · intro small vCpuId below
    have before := BitVec.lt_def.mp below
    have one : (headerSize sizes cfg).toNat + 4
        ≤ ((headerSize sizes cfg).toNat + 4) * cfg.noVCpus.toNat :=
      Nat.le_mul_of_pos_right _ (by omega)
    rw [Nat.mod_eq_of_lt (Nat.lt_of_le_of_lt one small)] at size
    -- the tables up to this one are below the end of the allocation
    have upTo : (pctSize sizes cfg).toNat * (vCpuId.toNat + 1)
        ≤ (pctSize sizes cfg).toNat * cfg.noVCpus.toNat :=
      Nat.mul_le_mul_left _ before
    rw [← size] at small
    rw [Nat.mod_eq_of_lt small] at total
    refine (bitmapFits_iff nonneg pct vCpuId).mpr fun k first => ?_
    obtain rfl : k = 0 := by omega
    have offset : (commPortBitmap sizes cfg pct vCpuId + 4 * BitVec.ofNat 32 0 - pct).toNat
        = (pctSize sizes cfg).toNat * vCpuId.toNat + (headerSize sizes cfg).toNat := by
      rw [bitmapWord_offset]
      simp only [BitVec.toNat_ofNat]
      rw [Nat.mul_add] at upTo
      omega
    rw [Nat.mul_add] at upTo
    exact
      { after := by omega
        before := by
          rw [offset, Nat.mul_add]
          omega
        allocated := by
          rw [Nat.mul_add, total]
          omega }

/-- The bitmaps of a partition's vCPUs are in their control tables exactly when there are fewer than
thirty-two ports and the tables together are no larger than an address can tell, unless there is
nothing to put in them.
-/
theorem bitmaps_fit_iff (nonneg : 0 ≤ cfg.noPorts.toInt)
    : (∀ vCpuId < cfg.noVCpus, BitmapFits sizes cfg pct vCpuId)
      ↔ cfg.noPorts = 0 ∨ cfg.noVCpus = 0
        ∨ (cfg.noPorts.toNat < 32
          ∧ ((headerSize sizes cfg).toNat + 4) * cfg.noVCpus.toNat < 2 ^ 32) := by
  by_cases none : cfg.noPorts = 0
  · simp only [none, true_or, iff_true]
    intro vCpuId _
    refine (bitmapFits_iff nonneg pct vCpuId).mpr fun k small => ?_
    rw [none] at small
    simp at small
  · cases vCpus : cfg.noVCpus.toNat with
    | zero =>
        have noVCpus : cfg.noVCpus = 0 := BitVec.eq_of_toNat_eq vCpus
        simp only [noVCpus, true_or, or_true, iff_true]
        intro vCpuId below
        exact absurd (BitVec.lt_def.mp below) (Nat.not_lt_zero _)
    | succ n =>
        have someVCpus : cfg.noVCpus ≠ 0 := by
          intro zero
          rw [zero] at vCpus
          cases vCpus
        rw [or_iff_right none, or_iff_right someVCpus]
        by_cases few : cfg.noPorts.toNat < 32
        · rw [few_ports nonneg none few vCpus, vCpus]
          exact (and_iff_right few).symm
        · refine iff_of_false ?_ fun both => few both.1
          intro fits
          refine many_ports nonneg (Nat.le_of_not_lt few) (fits 0 (BitVec.lt_def.mpr ?_))
          rw [vCpus]
          exact Nat.succ_pos n

end Sizes

-----------------------------------------------------------------------------------------
-- The tables of a partition with two vCPUs

def tableSizes : Sizes :=
  { someSizes with partitionControlTable := 308, xmPhysicalMemMap := 32 }

/-- The control tables of a partition with a number of ports. -/
def portPartition (noPorts : XmU32) : XmcPartition where
  noVCpus := 2
  noPhysicalMemoryAreas := 1
  noPorts

/-- Thirty-three ports have two words and five bytes for them. -/
theorem second_word_outside
    : ¬ ∀ vCpuId < (portPartition 33).noVCpus,
      BitmapFits tableSizes (portPartition 33) 0x400000 vCpuId := by
  intro fits
  have inTable := changeBit_within.mp ((fits 0 (by decide)).setBit 32 fun _ => 0) (by decide)
  exact absurd inTable.before (by decide)

/-- The word for thirty-one ports is in the table of the last vCPU. -/
theorem one_word_inside
    : BitmapFits tableSizes (portPartition 31) 0x400000 1 := by
  have sizes : (portPartition 31).noPorts.toNat < 32
      ∧ ((headerSize tableSizes (portPartition 31)).toNat + 4) * (portPartition 31).noVCpus.toNat
        < 2 ^ 32 := by decide
  exact (bitmaps_fit_iff (by decide)).mpr (Or.inr (Or.inr sizes)) 1 (by decide)

end XtratuM.PortBitmaps
