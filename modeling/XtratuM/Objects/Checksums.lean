import Mathlib.Algebra.BigOperators.Group.List.Basic
import Mathlib.Tactic.IntervalCases
import Mathlib.Tactic.Ring
import XtratuM.Kernel.Base

/-! The checksum of a log record: a half-word of the record that makes all its half-words add up to
`0xffff`, in 16 bits.
-/

namespace XtratuM.Objects

abbrev XmU16 := BitVec 16

/-- `sum+=word` and the carry, which `sum` has no bits for. -/
def addHalf (sum word : XmU16) : XmU16 :=
  let sum := sum + word
  if sum.setWidth 32 &&& 0xffff0000 ≠ 0 then (sum &&& 0xffff) + 1 else sum

/-- The loop over the `n` half-words from `buffer` on. -/
def sumHalves : List XmU16 → Nat → XmU16 → Except Stop XmU16
  | _, 0, sum => .ok sum
  | [], _ + 1, _ => .error .badAccess
  | word :: buffer, n + 1, sum => sumHalves buffer n (addHalf sum word)

/-- `CalcCheckSum`. -/
def calcCheckSum (buffer : List XmU16) (size : Nat) : Except Stop XmU16 := do
  assert (size % 2 = 0)
  let sum ← sumHalves buffer (size / 2) 0
  pure (~~~(sum &&& 0xffff))

/-- `IsValidCheckSum`. -/
def isValidCheckSum (buffer : List XmU16) (size : Nat) : Except Stop Int := do
  assert (size % 2 = 0)
  let sum ← sumHalves buffer (size / 2) 0
  pure (if sum = 0xffff then 1 else 0)

/-- `checksum=0`, and then `checksum=CalcCheckSum(buffer, size)`, for a checksum that is the
half-word at position `position`.
-/
def sealRecord (buffer : List XmU16) (size position : Nat) : Except Stop (List XmU16) := do
  let cleared := buffer.set position 0
  let checksum ← calcCheckSum cleared size
  pure (cleared.set position checksum)

/-- Two records of one length that are different in one half-word. -/
structure OneApart (record other : List XmU16) : Prop where
  length : other.length = record.length
  apart : ∃ j : Nat, other[j]? ≠ record[j]? ∧ ∀ k, k ≠ j → other[k]? = record[k]?

-----------------------------------------------------------------------------------------
-- Sums

/-- A half-word has no bits above the sixteenth. -/
theorem setWidth_and_high (half : XmU16) : half.setWidth 32 &&& 0xffff0000 = 0 := by
  apply BitVec.eq_of_getLsbD_eq
  intro i inside
  have mask : (0xffff0000 : XmU32).getLsbD i = decide (16 ≤ i) := by
    interval_cases i <;> rfl
  rw [BitVec.getLsbD_and, BitVec.getLsbD_setWidth, mask]
  by_cases high : 16 ≤ i
  · simp [BitVec.getLsbD_of_ge half i high]
  · simp [high]

/-- The carry is never taken: sums are sums modulo `2 ^ 16`. -/
theorem addHalf_eq (sum word : XmU16) : addHalf sum word = sum + word :=
  if_neg (not_not_intro (setWidth_and_high (sum + word)))

theorem sumHalves_eq (buffer : List XmU16) (sum : XmU16)
    : sumHalves buffer buffer.length sum = .ok (sum + buffer.sum) := by
  induction buffer generalizing sum with
  | nil => simp [sumHalves]
  | cons word buffer ih =>
      rw [List.length_cons, sumHalves, ih, addHalf_eq, List.sum_cons, add_assoc]

/-- Of a whole record both functions see the sum. -/
theorem sumHalves_whole {buffer : List XmU16} {size : Nat} (whole : size = 2 * buffer.length)
    : size % 2 = 0 ∧ sumHalves buffer (size / 2) 0 = .ok buffer.sum := by
  have half : size / 2 = buffer.length := by omega
  refine ⟨by omega, ?_⟩
  rw [half, sumHalves_eq, zero_add]

theorem calcCheckSum_eq {buffer : List XmU16} {size : Nat} (whole : size = 2 * buffer.length)
    : calcCheckSum buffer size = .ok (0xffff - buffer.sum) := by
  obtain ⟨even, summed⟩ := sumHalves_whole whole
  have ones : (0xffff : XmU16) = BitVec.allOnes 16 := rfl
  have inverted : ~~~(buffer.sum &&& 0xffff) = 0xffff - buffer.sum := by
    rw [ones, BitVec.and_allOnes, BitVec.allOnes_sub_eq_not]
  simp only [calcCheckSum, assert_of even, summed, ok_bind, inverted]
  rfl

theorem isValidCheckSum_eq {buffer : List XmU16} {size : Nat} (whole : size = 2 * buffer.length)
    : isValidCheckSum buffer size = .ok (if buffer.sum = 0xffff then 1 else 0) := by
  obtain ⟨even, summed⟩ := sumHalves_whole whole
  simp only [isValidCheckSum, assert_of even, summed, ok_bind]
  rfl

/-- Another half-word in one place changes the sum by as much. -/
theorem sum_set (record : List XmU16) {j : Nat} (inside : j < record.length) (word : XmU16)
    : (record.set j word).sum = record.sum - record[j] + word := by
  rw [List.sum_set', dif_pos inside, sub_eq_add_neg, add_assoc]

-----------------------------------------------------------------------------------------
-- Sealed records

theorem OneApart.set {record other : List XmU16} (different : OneApart record other)
    : ∃ j, ∃ inside : j < record.length, ∃ word, other = record.set j word
      ∧ word ≠ record[j] := by
  obtain ⟨length, j, here, elsewhere⟩ := different
  have inside : j < record.length := by
    by_contra beyond
    rw [List.getElem?_eq_none (by omega), List.getElem?_eq_none (by omega)] at here
    exact here rfl
  refine ⟨j, inside, other[j], ?_, ?_⟩
  · apply List.ext_getElem?
    intro k
    by_cases same : k = j
    · subst same
      rw [List.getElem?_set_self inside, List.getElem?_eq_getElem]
    · rw [elsewhere k same, List.getElem?_set_ne (Ne.symm same)]
  · intro same
    rw [List.getElem?_eq_getElem (by omega), List.getElem?_eq_getElem inside, same] at here
    exact here rfl

/-- A sealed record adds up. -/
theorem sealRecord_sum {record : List XmU16} {size position : Nat}
    (whole : size = 2 * record.length) (inside : position < record.length)
    : ∃ sealed, sealRecord record size position = .ok sealed ∧ sealed.length = record.length
      ∧ sealed.sum = 0xffff ∧ ∀ k, k ≠ position → sealed[k]? = record[k]? := by
  have length : (record.set position 0).length = record.length := List.length_set
  have cleared : size = 2 * (record.set position 0).length := by omega
  refine ⟨(record.set position 0).set position (0xffff - (record.set position 0).sum),
    ?_, ?_, ?_, ?_⟩
  · rw [sealRecord, calcCheckSum_eq cleared]
    rfl
  · rw [List.length_set, length]
  · rw [sum_set _ (by omega), List.getElem_set_self]
    ring
  · intro k other
    rw [List.getElem?_set_ne (Ne.symm other), List.getElem?_set_ne (Ne.symm other)]

/-- What adds up is accepted, and nothing is that is different from it in one half-word. -/
theorem checks_of_sum {record : List XmU16} {size : Nat} (whole : size = 2 * record.length)
    (sum : record.sum = 0xffff)
    : isValidCheckSum record size = .ok 1
      ∧ ∀ other, OneApart record other → isValidCheckSum other size = .ok 0 := by
  constructor
  · rw [isValidCheckSum_eq whole, sum, if_pos rfl]
  · intro other different
    have whole' : size = 2 * other.length := by rw [different.length, whole]
    obtain ⟨j, within, word, rfl, changed⟩ := different.set
    have wrong : (record.set j word).sum ≠ 0xffff := by
      rw [sum_set _ within, sum]
      intro same
      have unchanged : word - record[j] = 0 := by
        rw [← sub_eq_zero] at same
        rw [← same]
        ring
      exact changed (sub_eq_zero.mp unchanged)
    rw [isValidCheckSum_eq whole', if_neg wrong]

/-- Sealing a record changes its checksum only. `IsValidCheckSum` accepts a record of any even size
that was sealed, wherever its checksum is, and no record that is different from it in one half-word.
-/
theorem sealed_record_checks {record : List XmU16} {size position : Nat}
    (whole : size = 2 * record.length) (inside : position < record.length)
    : ∃ sealed, sealRecord record size position = .ok sealed
      ∧ sealed.length = record.length ∧ (∀ k, k ≠ position → sealed[k]? = record[k]?)
      ∧ isValidCheckSum sealed size = .ok 1
      ∧ ∀ other, OneApart sealed other → isValidCheckSum other size = .ok 0 := by
  obtain ⟨sealed, returned, length, sum, rest⟩ := sealRecord_sum whole inside
  exact ⟨sealed, returned, length, rest, checks_of_sum (by rw [length, whole]) sum⟩

/-- A record of six half-words, with its checksum in the second. -/
theorem sealed_record_checks_six
    : ∃ sealed, sealRecord [0xfecf, 0x1234, 0xffff, 0xffff, 0x8000, 0x8000] 12 1 = .ok sealed
      ∧ sealed.length = 6
      ∧ (∀ k, k ≠ 1 →
        sealed[k]? = ([0xfecf, 0x1234, 0xffff, 0xffff, 0x8000, 0x8000] : List XmU16)[k]?)
      ∧ isValidCheckSum sealed 12 = .ok 1
      ∧ ∀ other, OneApart sealed other → isValidCheckSum other 12 = .ok 0 :=
  sealed_record_checks (by decide) (by decide)

-----------------------------------------------------------------------------------------
-- The records of the log streams

def halves (word : XmU32) : List XmU16 :=
  [word.extractLsb' 0 16, word.extractLsb' 16 16]

/-- `struct xmTraceEvent` and `struct xmHmLog`, which have one layout; the payload by its bytes. -/
structure LogRecord where
  signature : XmU16
  checksum : XmU16
  opCodeH : XmU32
  opCodeL : XmU32
  timestamp : BitVec 64
  payload : Fin 16 → BitVec 8
  deriving DecidableEq

abbrev XmTraceEvent := LogRecord
abbrev XmHmLog := LogRecord

def sizeofLogRecord : Nat := 36

def LogRecord.halfWords (record : LogRecord) : List XmU16 :=
  [record.signature, record.checksum] ++ halves record.opCodeH ++ halves record.opCodeL
    ++ [record.timestamp.extractLsb' 0 16, record.timestamp.extractLsb' 16 16,
      record.timestamp.extractLsb' 32 16, record.timestamp.extractLsb' 48 16]
    ++ (List.finRange 8).map fun (i : Fin 8) =>
      record.payload ⟨2 * i + 1, by omega⟩ ++ record.payload ⟨2 * i, by omega⟩

/-- `checksum=0` and `checksum=CalcCheckSum(record, sizeof(*record))`. -/
def LogRecord.sealed (record : LogRecord) : Except Stop LogRecord :=
  (calcCheckSum { record with checksum := 0 }.halfWords sizeofLogRecord).map
    fun checksum => { record with checksum }

/-- The checksum of the records is their second half-word. -/
theorem LogRecord.sealed_halfWords (record : LogRecord)
    : ∃ sealed, record.sealed = .ok sealed ∧ { sealed with checksum := record.checksum } = record
      ∧ sealRecord record.halfWords sizeofLogRecord 1 = .ok sealed.halfWords := by
  have whole : sizeofLogRecord = 2 * { record with checksum := 0 }.halfWords.length := rfl
  have checksum := calcCheckSum_eq whole
  generalize { record with checksum := 0 }.halfWords.sum = sum at checksum
  refine ⟨{ record with checksum := 0xffff - sum }, ?_, rfl, ?_⟩
  · rw [LogRecord.sealed, checksum]
    rfl
  · have cleared : record.halfWords.set 1 0 = { record with checksum := 0 }.halfWords := rfl
    rw [sealRecord, cleared, checksum]
    rfl

/-- A record that was sealed checks itself. -/
theorem LogRecord.sealed_checks {record sealed : LogRecord} (returned : record.sealed = .ok sealed)
    : isValidCheckSum sealed.halfWords sizeofLogRecord = .ok 1
      ∧ ∀ other : LogRecord, OneApart sealed.halfWords other.halfWords →
        isValidCheckSum other.halfWords sizeofLogRecord = .ok 0 := by
  obtain ⟨_, here, -, written⟩ := record.sealed_halfWords
  cases here.symm.trans returned
  have whole : sizeofLogRecord = 2 * record.halfWords.length := rfl
  have inside : 1 < record.halfWords.length := Nat.one_lt_succ_succ _
  obtain ⟨_, sealing, -, sum, -⟩ := sealRecord_sum whole inside
  cases sealing.symm.trans written
  have whole' : sizeofLogRecord = 2 * sealed.halfWords.length := rfl
  obtain ⟨valid, rejects⟩ := checks_of_sum whole' sum
  exact ⟨valid, fun other different => rejects other.halfWords different⟩

end XtratuM.Objects
