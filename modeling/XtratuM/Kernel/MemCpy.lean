import XtratuM.Kernel.Base
import XtratuM.Library.RangeCopies

/-! The kernel's `memcpy`: stages of units of eight, four and two bytes, as long as both pointers
are aligned to them, and the rest byte by byte.
-/

namespace XtratuM

open RangeCopies

/-- An access of so many bytes. -/
structure Access where
  write : Bool
  addr : XmU32
  width : Nat

/-- The memory, and the accesses made so far. -/
structure Copying where
  memory : XmU32 → BitVec 8
  accesses : List Access

/-- The bytes of a unit, in the order of their addresses. -/
def load (memory : XmU32 → BitVec 8) (width : Nat) (addr : XmU32) : List (BitVec 8) :=
  (List.range width).map fun i => memory (addr + BitVec.ofNat 32 i)

def store (memory : XmU32 → BitVec 8) (addr : XmU32) (bytes : List (BitVec 8))
    : XmU32 → BitVec 8 := fun a =>
  bytes.getD (a - addr).toNat (memory a)

/-- `*d=*s`, for pointers to units of `width` bytes. -/
def copyUnit (width : Nat) (d s : XmU32) (c : Copying) : Copying :=
  { memory := store c.memory d (load c.memory width s)
    accesses := c.accesses ++ [⟨false, s, width⟩, ⟨true, d, width⟩] }

/-- `while (--count)`. -/
def copyLoop (width : Nat) : Nat → XmU32 → XmU32 → XmU32 → Copying → Except Stop Copying
  | 0, _, _, _, _ => .error .diverges
  | fuel + 1, d, s, count, c =>
      let count := count - 1
      if count = 0 then
        .ok c
      else
        copyLoop width fuel (d + BitVec.ofNat 32 width) (s + BitVec.ofNat 32 width) count
          (copyUnit width d s c)

/-- A function that copies to a pointer from another, and returns a pointer. -/
abbrev Copier : Type := XmU32 → XmU32 → XmU32 → Copying → Except Stop (XmU32 × Copying)

/-- `_MemCpy1` and those for wider units: the count is incremented before it is decremented. -/
def memCpyUnits (width : Nat) : Copier := fun dst src count c => do
  let c ← copyLoop width (count.toNat + 1) dst src (count + 1) c
  pure (dst, c)

def memCpy1 : Copier := memCpyUnits 1
def memCpy2 : Copier := memCpyUnits 2
def memCpy4 : Copier := memCpyUnits 4
def memCpy8 : Copier := memCpyUnits 8

/-- A stage of `memcpy`. The test is of the pointers that `memcpy` was given. -/
def stage (units : Copier) (mask : XmU32) (shift : Nat) (dst src : XmU32) (rest : Copier)
    : Copier := fun d s count c =>
  if (dst ||| src) &&& mask = 0 then do
    let r := count &&& mask
    let (_, c) ← units d s (count >>> shift) c
    if r = 0 then
      pure (dst, c)
    else
      rest (d + (count - r)) (s + (count - r)) r c
  else
    rest d s count c

/-- `memcpy`. Where bytes are left after the stages, it returns the place where they are copied to
and not `dst`.
-/
def memcpy (dst src count : XmU32) (memory : XmU32 → BitVec 8)
    : Except Stop (XmU32 × Copying) :=
  stage memCpy8 7 3 dst src
    (stage memCpy4 3 2 dst src (stage memCpy2 1 1 dst src memCpy1))
    dst src count { memory, accesses := [] }

-----------------------------------------------------------------------------------------
-- Alignment

/-- The test of a stage finds both pointers aligned. -/
theorem aligned_of_test {dst src : XmU32} {k : Nat} (small : k ≤ 32)
    (test : (dst ||| src) &&& BitVec.ofNat 32 (2 ^ k - 1) = 0)
    : 2 ^ k ∣ dst.toNat ∧ 2 ^ k ∣ src.toNat := by
  have bound : 2 ^ k - 1 < 2 ^ 32 := by
    have positive := Nat.two_pow_pos k
    have power : 2 ^ k ≤ 2 ^ 32 := Nat.pow_le_pow_right (by decide) small
    omega
  have low := congrArg BitVec.toNat test
  rw [BitVec.toNat_and, BitVec.toNat_or, BitVec.toNat_ofNat, Nat.mod_eq_of_lt bound,
    Nat.and_two_pow_sub_one_eq_mod, Nat.or_mod_two_pow] at low
  have both : dst.toNat % 2 ^ k = 0 ∧ src.toNat % 2 ^ k = 0 := Nat.or_eq_zero_iff.mp low
  exact ⟨Nat.dvd_of_mod_eq_zero both.1, Nat.dvd_of_mod_eq_zero both.2⟩

theorem remainder_toNat (count : XmU32) {k : Nat} (small : k ≤ 32)
    : (count &&& BitVec.ofNat 32 (2 ^ k - 1)).toNat = count.toNat % 2 ^ k := by
  have bound : 2 ^ k - 1 < 2 ^ 32 := by
    have positive := Nat.two_pow_pos k
    have power : 2 ^ k ≤ 2 ^ 32 := Nat.pow_le_pow_right (by decide) small
    omega
  rw [BitVec.toNat_and, BitVec.toNat_ofNat, Nat.mod_eq_of_lt bound,
    Nat.and_two_pow_sub_one_eq_mod]

-----------------------------------------------------------------------------------------
-- The units

/-- A unit that is loaded and stored is copied byte by byte. -/
theorem store_load (memory : XmU32 → BitVec 8) (width : Nat) (d s : XmU32)
    : store memory d (load memory width s) = copied memory d s width := by
  funext a
  have index : BitVec.ofNat 32 (a - d).toNat = a - d := by
    rw [BitVec.ofNat_toNat, BitVec.setWidth_eq]
  unfold store load copied
  rw [List.getD_eq_getElem?_getD, List.getElem?_map]
  by_cases inside : (a - d).toNat < width
  · rw [List.getElem?_range inside, if_pos inside, Option.map_some, Option.getD_some, index]
  · rw [List.getElem?_eq_none (by rw [List.length_range]; omega), if_neg inside]
    rfl

/-- An access is aligned, and it reads from the one range or writes to the other. -/
structure Access.Proper (dst src count : XmU32) (access : Access) : Prop where
  aligned : access.width ∣ access.addr.toNat
  inside : (if access.write then dst else src).toNat ≤ access.addr.toNat
    ∧ access.addr.toNat + access.width
      ≤ (if access.write then dst else src).toNat + count.toNat

/-- The first `done` bytes have been copied. -/
structure CopiedTo (dst src count : XmU32) (memory : XmU32 → BitVec 8) (done : Nat) (c : Copying)
    : Prop where
  memory : c.memory = copied memory dst src done
  proper : ∀ access ∈ c.accesses, access.Proper dst src count

/-- Two ranges of the address space, of `count` bytes each and without overlap. -/
structure Ranges (dst src count : XmU32) : Prop where
  dstFits : dst.toNat + count.toNat ≤ 2 ^ 32
  srcFits : src.toNat + count.toNat ≤ 2 ^ 32
  disjoint : dst.toNat + count.toNat ≤ src.toNat ∨ src.toNat + count.toNat ≤ dst.toNat

section Units

variable {dst src count : XmU32} (ranges : Ranges dst src count) {memory : XmU32 → BitVec 8}

theorem toNat_offset {base : XmU32} {offset : Nat} (fits : base.toNat + offset < 2 ^ 32)
    : (base + BitVec.ofNat 32 offset).toNat = base.toNat + offset := by
  rw [BitVec.toNat_add, BitVec.toNat_ofNat, Nat.add_mod_mod, Nat.mod_eq_of_lt fits]

include ranges

theorem CopiedTo.unit {width done : Nat} {c : Copying} (positive : 0 < width)
    (alignedDst : width ∣ dst.toNat) (alignedSrc : width ∣ src.toNat) (aligned : width ∣ done)
    (room : done + width ≤ count.toNat) (progress : CopiedTo dst src count memory done c)
    : CopiedTo dst src count memory (done + width)
        (copyUnit width (dst + BitVec.ofNat 32 done) (src + BitVec.ofNat 32 done) c) := by
  obtain ⟨dstFits, srcFits, disjoint⟩ := ranges
  have apart := apart_of_disjoint dstFits srcFits disjoint
  have written := toNat_offset (show dst.toNat + done < 2 ^ 32 by omega)
  have read := toNat_offset (show src.toNat + done < 2 ^ 32 by omega)
  constructor
  · rw [copyUnit, store_load, progress.memory]
    exact copied_append (by omega) (apart.mono room)
  · intro access member
    rcases List.mem_append.mp member with earlier | here
    · exact progress.proper access earlier
    · rcases List.mem_pair.mp here with rfl | rfl
      · refine ⟨?_, ?_, ?_⟩
        · rw [read]
          exact Nat.dvd_add alignedSrc aligned
        · simp only [Bool.false_eq_true, if_false, read]
          omega
        · simp only [Bool.false_eq_true, if_false, read]
          omega
      · refine ⟨?_, ?_, ?_⟩
        · rw [written]
          exact Nat.dvd_add alignedDst aligned
        · simp only [if_true, written]
          omega
        · simp only [if_true, written]
          omega

/-- The loop copies a unit for each time that the count goes down without reaching zero. -/
theorem copyLoop_copies {width fuel done : Nat} {n : XmU32} {c : Copying} (positive : 0 < width)
    (alignedDst : width ∣ dst.toNat) (alignedSrc : width ∣ src.toNat) (aligned : width ∣ done)
    (room : done + width * (n - 1).toNat ≤ count.toNat) (enough : (n - 1).toNat < fuel)
    (progress : CopiedTo dst src count memory done c)
    : ∃ c', copyLoop width fuel (dst + BitVec.ofNat 32 done) (src + BitVec.ofNat 32 done) n c
        = .ok c'
      ∧ CopiedTo dst src count memory (done + width * (n - 1).toNat) c' := by
  induction fuel generalizing n done c with
  | zero => omega
  | succ fuel ih =>
      unfold copyLoop
      dsimp only
      by_cases last : n - 1 = 0
      · rw [if_pos last, last]
        exact ⟨c, rfl, progress⟩
      · have more : (n - 1).toNat ≠ 0 := by
          intro zero
          exact last (BitVec.eq_of_toNat_eq zero)
        have fewer : (n - 1 - 1).toNat = (n - 1).toNat - 1 :=
          BitVec.toNat_sub_of_le (BitVec.le_def.mpr (Nat.one_le_iff_ne_zero.mpr more))
        have split : width * (n - 1).toNat = width + width * (n - 1 - 1).toNat := by
          rw [fewer]
          obtain ⟨left, same⟩ := Nat.exists_eq_succ_of_ne_zero more
          rw [same, Nat.succ_sub_one, Nat.mul_succ, Nat.add_comm]
        have further : ∀ base : XmU32, base + BitVec.ofNat 32 done + BitVec.ofNat 32 width
            = base + BitVec.ofNat 32 (done + width) := by
          intro base
          rw [BitVec.add_assoc, BitVec.ofNat_add]
        have next := progress.unit ranges positive alignedDst alignedSrc aligned (by omega)
        rw [if_neg last, further, further, split, ← Nat.add_assoc]
        exact ih (Nat.dvd_add aligned (Nat.dvd_refl width)) (by omega) (by omega) next

theorem memCpyUnits_copies {width done : Nat} {n : XmU32} {c : Copying} (positive : 0 < width)
    (alignedDst : width ∣ dst.toNat) (alignedSrc : width ∣ src.toNat) (aligned : width ∣ done)
    (room : done + width * n.toNat ≤ count.toNat)
    (progress : CopiedTo dst src count memory done c)
    : ∃ c', memCpyUnits width (dst + BitVec.ofNat 32 done) (src + BitVec.ofNat 32 done) n c
        = .ok (dst + BitVec.ofNat 32 done, c')
      ∧ CopiedTo dst src count memory (done + width * n.toNat) c' := by
  have counted : n + 1 - 1 = n := by ring
  obtain ⟨c', looped, copied⟩ := copyLoop_copies (n := n + 1) ranges
    positive alignedDst alignedSrc aligned (by rwa [counted])
    (show (n + 1 - 1).toNat < n.toNat + 1 by rw [counted]; omega) progress
  rw [counted] at copied
  refine ⟨c', ?_, copied⟩
  unfold memCpyUnits
  rw [looped]
  rfl

-----------------------------------------------------------------------------------------
-- The stages

/-- A function that goes on copying from the place that has been reached, where the bytes copied so
far are a number of units of `width` bytes.
-/
def Finishes (dst src count : XmU32) (memory : XmU32 → BitVec 8) (width : Nat) (rest : Copier)
    : Prop :=
  ∀ done (n : XmU32) c, width ∣ done → done + n.toNat = count.toNat →
    CopiedTo dst src count memory done c →
    ∃ result c', rest (dst + BitVec.ofNat 32 done) (src + BitVec.ofNat 32 done) n c
        = .ok (result, c')
      ∧ CopiedTo dst src count memory count.toNat c'

/-- A stage leaves a remainder smaller than its units to the rest, or all of it when the pointers
are not aligned.
-/
theorem stage_finishes {rest : Copier} {k : Nat} (small : k ≤ 32)
    (finishes : Finishes dst src count memory (2 ^ k) rest)
    : Finishes dst src count memory (2 ^ k)
        (stage (memCpyUnits (2 ^ k)) (BitVec.ofNat 32 (2 ^ k - 1)) k dst src rest) := by
  intro done n c aligned left progress
  unfold stage
  by_cases test : (dst ||| src) &&& BitVec.ofNat 32 (2 ^ k - 1) = 0
  · obtain ⟨alignedDst, alignedSrc⟩ := aligned_of_test small test
    have whole : (n >>> k).toNat = n.toNat / 2 ^ k := by
      rw [BitVec.toNat_ushiftRight, Nat.shiftRight_eq_div_pow]
    have remainder := remainder_toNat n small
    have division := Nat.div_add_mod n.toNat (2 ^ k)
    obtain ⟨c', copied, progress⟩ := memCpyUnits_copies (n := n >>> k) ranges
      (Nat.two_pow_pos k) alignedDst alignedSrc aligned (by rw [whole]; omega) progress
    rw [whole] at progress
    simp only [if_pos test, copied, ok_bind]
    by_cases noRest : n &&& BitVec.ofNat 32 (2 ^ k - 1) = 0
    · rw [noRest] at remainder
      have all : done + 2 ^ k * (n.toNat / 2 ^ k) = count.toNat := by
        change 0 = _ at remainder
        omega
      rw [all] at progress
      rw [if_pos noRest]
      exact ⟨_, c', rfl, progress⟩
    · have further : ∀ base : XmU32,
          base + BitVec.ofNat 32 done + (n - (n &&& BitVec.ofNat 32 (2 ^ k - 1)))
            = base + BitVec.ofNat 32 (done + 2 ^ k * (n.toNat / 2 ^ k)) := by
        intro base
        have bytes : n - (n &&& BitVec.ofNat 32 (2 ^ k - 1))
            = BitVec.ofNat 32 (2 ^ k * (n.toNat / 2 ^ k)) := by
          have bound := n.isLt
          have fits : 2 ^ k * (n.toNat / 2 ^ k) < 2 ^ 32 := by omega
          have smaller : n &&& BitVec.ofNat 32 (2 ^ k - 1) ≤ n := by
            rw [BitVec.le_def, remainder]
            exact Nat.mod_le _ _
          apply BitVec.eq_of_toNat_eq
          rw [BitVec.toNat_sub_of_le smaller, remainder, BitVec.toNat_ofNat,
            Nat.mod_eq_of_lt fits]
          omega
        rw [bytes, BitVec.add_assoc, BitVec.ofNat_add]
      rw [if_neg noRest, further, further]
      refine finishes _ _ c' ?_ (by omega) progress
      exact Nat.dvd_add aligned (Nat.dvd_mul_right _ _)
  · rw [if_neg test]
    exact finishes done n c aligned left progress

omit ranges in
theorem Finishes.coarser {width coarse : Nat} {rest : Copier} (divides : width ∣ coarse)
    (finishes : Finishes dst src count memory width rest)
    : Finishes dst src count memory coarse rest :=
  fun done n c aligned => finishes done n c (divides.trans aligned)

theorem memCpy1_finishes : Finishes dst src count memory 1 memCpy1 := by
  intro done n c aligned left progress
  obtain ⟨c', copied, progress⟩ := memCpyUnits_copies (n := n) ranges Nat.one_pos
    (Nat.one_dvd _) (Nat.one_dvd _) aligned (by omega) progress
  rw [Nat.one_mul, left] at progress
  exact ⟨_, c', copied, progress⟩

end Units

/-- The bytes of the source are those of the destination, and nothing else has changed; what has
been written is in the destination, what has been read in the source, by aligned accesses.
-/
structure ExactCopy (dst src count : XmU32) (memory : XmU32 → BitVec 8) (c : Copying) : Prop where
  copied : ∀ i < count.toNat,
    c.memory (dst + BitVec.ofNat 32 i) = c.memory (src + BitVec.ofNat 32 i)
  source : ∀ i < count.toNat,
    c.memory (src + BitVec.ofNat 32 i) = memory (src + BitVec.ofNat 32 i)
  kept : ∀ a, (∀ i < count.toNat, a ≠ dst + BitVec.ofNat 32 i) → c.memory a = memory a
  written : ∀ access ∈ c.accesses, access.write = true →
    dst.toNat ≤ access.addr.toNat
      ∧ access.addr.toNat + access.width ≤ dst.toNat + count.toNat
  read : ∀ access ∈ c.accesses, access.write = false →
    src.toNat ≤ access.addr.toNat
      ∧ access.addr.toNat + access.width ≤ src.toNat + count.toNat
  aligned : ∀ access ∈ c.accesses, access.addr.toNat % access.width = 0

/-- `memcpy` returns with an exact copy. -/
theorem memcpy_exact {dst src count : XmU32} (ranges : Ranges dst src count)
    (memory : XmU32 → BitVec 8)
    : ∃ result c, memcpy dst src count memory = .ok (result, c)
      ∧ ExactCopy dst src count memory c := by
  have bytes : Finishes dst src count memory (2 ^ 1) memCpy1 :=
    (memCpy1_finishes ranges).coarser (Nat.one_dvd _)
  have twos := stage_finishes ranges (k := 1) (by decide) bytes
  have fours := stage_finishes ranges (k := 2) (by decide) (twos.coarser (by decide))
  have eights := stage_finishes ranges (k := 3) (by decide) (fours.coarser (by decide))
  have nothing : CopiedTo dst src count memory 0 { memory, accesses := [] } :=
    ⟨(copied_zero memory dst src).symm, by simp⟩
  obtain ⟨result, c, returned, done⟩ := eights 0 count _ (Nat.dvd_zero _) (Nat.zero_add _) nothing
  simp only [BitVec.add_zero] at returned
  have fits : count.toNat ≤ 2 ^ 32 := count.isLt.le
  have apart := apart_of_disjoint ranges.dstFits ranges.srcFits ranges.disjoint
  refine ⟨result, c, returned, ?_⟩
  constructor
  · intro i inside
    rw [done.memory, copied_inside fits inside, copied_source apart inside]
  · intro i inside
    rw [done.memory, copied_source apart inside]
  · intro a outside
    rw [done.memory, copied_outside outside]
  · intro access member write
    have inside := (done.proper access member).inside
    rwa [if_pos write] at inside
  · intro access member read
    have inside := (done.proper access member).inside
    rwa [read] at inside
  · intro access member
    exact Nat.mod_eq_zero_of_dvd (done.proper access member).aligned

/-- Fifteen bytes between aligned pointers: a unit of each width. -/
theorem memcpy_exact_fifteen
    : ∃ result c, memcpy 0x1000 0x2000 15 (fun a => a.setWidth 8) = .ok (result, c)
      ∧ ExactCopy 0x1000 0x2000 15 (fun a => a.setWidth 8) c :=
  memcpy_exact ⟨by decide, by decide, by decide⟩ _

end XtratuM
