import XtratuM.Kernel.Base
import XtratuM.Library.TruncatedQuotients

/-! Ticks of a hardware clock as microseconds and back, in the signed 64 bits of `hwTime_t` and
`xmTime_t`.
-/

namespace XtratuM

open TruncatedQuotients

def USECS_PER_SEC : Int := 1000000

/-- The values of `xm_s64_t`. -/
def InS64 (value : Int) : Prop :=
  -(2 ^ 63) ≤ value ∧ value < 2 ^ 63

instance (value : Int) : Decidable (InS64 value) :=
  inferInstanceAs (Decidable (_ ∧ _))

/-- A 64-bit count, read from a clock, as an `hwTime_t`. -/
def hwTime (count : Nat) : Int :=
  Int.bmod count (2 ^ 64)

/-- The value of an `xm_s64_t` expression, if it has one. -/
def s64 (value : Int) : Option Int :=
  if InS64 value then some value else none

def s64Div (a b : Int) : Option Int :=
  if b = 0 then none else s64 (a.tdiv b)

/-- `s*c+((t-s*n)*c)/n` with `s=t/n`. -/
def scaleByParts (t c n : Int) : Option Int := do
  let s ← s64Div t n
  let whole ← s64 (s * c)
  let back ← s64 (s * n)
  let remainder ← s64 (t - back)
  let scaled ← s64 (remainder * c)
  let fraction ← s64Div scaled n
  s64 (whole + fraction)

/-- `HwTime2Duration`. -/
def hwTime2Duration (t hz : Int) : Option Int :=
  scaleByParts t USECS_PER_SEC hz

/-- `Duration2HwTime`. -/
def duration2HwTime (d hz : Int) : Option Int :=
  scaleByParts d hz USECS_PER_SEC

theorem s64_of {value : Int} (fits : InS64 value) : s64 value = some value :=
  if_pos fits

/-- What lies between zero and a value that fits does fit. -/
theorem InS64.between {a b : Int} (fits : InS64 b) (between : Between a b) : InS64 a := by
  unfold InS64 Between at *
  omega

/-- The product of the remainder stays in 64 bits with a divisor and a factor that are not too
large, so the whole is exact where it fits.
-/
theorem scaleByParts_eq {t c n : Int} (positive : 0 < n) (nonneg : 0 ≤ c)
    (bounded : n * c ≤ 2 ^ 63) (tick : InS64 t) (fits : InS64 ((t * c).tdiv n))
    : scaleByParts t c n = some ((t * c).tdiv n) := by
  have divide : ∀ a, InS64 a → s64Div a n = some (a.tdiv n) := by
    intro a inside
    rw [s64Div, if_neg positive.ne', s64_of (inside.between (tdiv_between positive a))]
  have whole : InS64 (t.tdiv n * c) := fits.between (quotient_mul_between positive nonneg t)
  have back : InS64 (t.tdiv n * n) := tick.between (tdiv_mul_between positive t)
  have small := remainder_lt positive t
  have remainder : InS64 (t - t.tdiv n * n) := by
    have bound := back.1
    unfold InS64 at *
    rcases tdiv_mul_between positive t with above | below <;> omega
  have scaled : InS64 ((t - t.tdiv n * n) * c) := by
    rcases nonneg.lt_or_eq with nonneg | zero
    · have high := Int.mul_lt_mul_of_pos_right small.2 nonneg
      have low := Int.mul_lt_mul_of_pos_right small.1 nonneg
      rw [Int.neg_mul] at low
      unfold InS64
      omega
    · rw [← zero, Int.mul_zero]
      decide
  simp only [scaleByParts, divide t tick, s64_of whole, s64_of back, s64_of remainder,
    s64_of scaled, divide _ scaled, Option.bind_eq_bind, Option.bind_some,
    tdiv_mul_split positive nonneg t, s64_of fits]

theorem s64_some {value result : Int} (returned : s64 value = some result)
    : value = result := by
  unfold s64 at returned
  split at returned
  · exact Option.some.inj returned
  · cases returned

theorem s64Div_some {a b result : Int} (returned : s64Div a b = some result)
    : a.tdiv b = result := by
  unfold s64Div at returned
  split at returned
  · cases returned
  · exact s64_some returned

/-- Where there is a value it is the quotient. -/
theorem scaleByParts_some {t c n result : Int} (positive : 0 < n) (nonneg : 0 ≤ c)
    (returned : scaleByParts t c n = some result)
    : result = (t * c).tdiv n := by
  obtain ⟨s, quotient, returned⟩ := Option.bind_eq_some_iff.mp returned
  obtain ⟨whole, product, returned⟩ := Option.bind_eq_some_iff.mp returned
  obtain ⟨back, covered, returned⟩ := Option.bind_eq_some_iff.mp returned
  obtain ⟨remainder, difference, returned⟩ := Option.bind_eq_some_iff.mp returned
  obtain ⟨scaled, scaling, returned⟩ := Option.bind_eq_some_iff.mp returned
  obtain ⟨fraction, division, returned⟩ := Option.bind_eq_some_iff.mp returned
  rw [← s64_some returned, ← s64Div_some division, ← s64_some scaling, ← s64_some difference,
    ← s64_some covered, ← s64_some product, ← s64Div_some quotient]
  exact tdiv_mul_split positive nonneg t

theorem scaleByParts_mono {t t' c n result result' : Int} (positive : 0 < n) (nonneg : 0 ≤ c)
    (ordered : t ≤ t') (first : scaleByParts t c n = some result)
    (second : scaleByParts t' c n = some result')
    : result ≤ result' := by
  rw [scaleByParts_some positive nonneg first, scaleByParts_some positive nonneg second]
  exact tdiv_mul_mono positive nonneg ordered

/-- For a value from zero on, the quotient is rounded down. -/
theorem scaleByParts_floor {t c n : Int} (positive : 0 < n) (nonneg : 0 ≤ c)
    (bounded : n * c ≤ 2 ^ 63) (count : 0 ≤ t) (tick : InS64 t) (fits : InS64 (t * c / n))
    : scaleByParts t c n = some (t * c / n) := by
  rw [← Int.tdiv_eq_ediv_of_nonneg (Int.mul_nonneg count nonneg)] at fits ⊢
  exact scaleByParts_eq positive nonneg bounded tick fits

-----------------------------------------------------------------------------------------
-- The conversions

/-- The conversions between ticks at a frequency and microseconds. A value is one for which no
operation on the way to it leaves 64 bits.
-/
structure TicksConvert (hz : Int) : Prop where
  truncated : ∀ t, InS64 t → InS64 ((t * USECS_PER_SEC).tdiv hz) →
    hwTime2Duration t hz = some ((t * USECS_PER_SEC).tdiv hz)
  floor : ∀ t, 0 ≤ t → InS64 t → InS64 (t * USECS_PER_SEC / hz) →
    hwTime2Duration t hz = some (t * USECS_PER_SEC / hz)
  monotone : ∀ t t' d d', t ≤ t' → hwTime2Duration t hz = some d →
    hwTime2Duration t' hz = some d' → d ≤ d'
  ticks : ∀ d, 0 ≤ d → InS64 d → InS64 (d * hz / USECS_PER_SEC) →
    duration2HwTime d hz = some (d * hz / USECS_PER_SEC)
  back : ∀ t, 0 ≤ t → InS64 t → InS64 (t * USECS_PER_SEC / hz) →
    ∃ d t', hwTime2Duration t hz = some d ∧ duration2HwTime d hz = some t' ∧ t' ≤ t

/-- Ticks are converted exactly at every frequency below `2 ^ 43`, for the counts that are not
negative as an `hwTime_t`.
-/
theorem ticks_convert {hz : Int} (positive : 0 < hz) (bounded : hz < 2 ^ 43)
    : TicksConvert hz := by
  have second : 0 < USECS_PER_SEC := by decide
  have product : hz * USECS_PER_SEC ≤ 2 ^ 63 := by
    unfold USECS_PER_SEC
    omega
  refine { truncated := ?_, floor := ?_, monotone := ?_, ticks := ?_, back := ?_ }
  · intro t tick fits
    exact scaleByParts_eq positive second.le product tick fits
  · intro t count tick fits
    exact scaleByParts_floor positive second.le product count tick fits
  · intro t t' d d' ordered first later
    exact scaleByParts_mono positive second.le ordered first later
  · intro d count duration fits
    rw [Int.mul_comm] at product
    exact scaleByParts_floor second positive.le product count duration fits
  · intro t count tick fits
    have duration := scaleByParts_floor positive second.le product count tick fits
    have nonneg : 0 ≤ t * USECS_PER_SEC / hz :=
      Int.ediv_nonneg (Int.mul_nonneg count second.le) positive.le
    have low : 0 ≤ t * USECS_PER_SEC / hz * hz / USECS_PER_SEC :=
      Int.ediv_nonneg (Int.mul_nonneg nonneg positive.le) second.le
    have high : t * USECS_PER_SEC / hz * hz / USECS_PER_SEC ≤ t :=
      ediv_mul_ediv_le positive second t
    refine ⟨_, _, duration, ?_, high⟩
    rw [Int.mul_comm] at product
    refine scaleByParts_floor second positive.le product nonneg fits ?_
    unfold InS64 at *
    omega

theorem ticks_convert_threeGigahertz : TicksConvert 3000000000 :=
  ticks_convert (by decide) (by decide)

/-- A count whose top bit is set is negative as an `hwTime_t`: its duration fits, and it is neither
that of the count nor that of the negative number rounded down.
-/
theorem top_count_misread
    : InS64 (((2 ^ 64 - 1 : Nat) : Int) * USECS_PER_SEC / 3000000000)
      ∧ hwTime2Duration (hwTime (2 ^ 64 - 1)) 3000000000 = some 0
      ∧ ((2 ^ 64 - 1 : Nat) : Int) * USECS_PER_SEC / 3000000000 = 6148914691236517
      ∧ hwTime (2 ^ 64 - 1) * USECS_PER_SEC / 3000000000 = -1 := by
  decide +kernel

end XtratuM
