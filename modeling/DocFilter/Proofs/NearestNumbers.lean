import DocFilter.Number.Nearest
import Mathlib.Algebra.Order.Field.Power
import Mathlib.Data.Rat.Cast.Order
import Mathlib.Tactic.FieldSimp
import Mathlib.Tactic.Linarith
import Mathlib.Tactic.Positivity
import Mathlib.Tactic.Ring

/-!
# Decimals near a number

The decimals that are written for a number lie in an interval around it, and
decimals are read as the nearest number.  Both compute on natural numbers.
Here they are compared as rationals: a decimal has a `value`, and an interval
`Contains` some of them.

Every decimal in the interval of a number is read as this number
(`ofDecimal_of_contains`).  What decides is the exponent that the reader finds:
it is that of the number, but for a decimal below a number whose fraction is
zero, which is rounded with the exponent before.
-/

namespace DocFilter
namespace Number

section Powers

variable {n d : Nat}

/-- An integer power is the quotient of two natural powers. -/
theorem cast_pow_toNat {b : Nat} (hb : b ≠ 0) (k : Int) :
    ((Nat.pow b k.toNat : Nat) : ℚ) = (b : ℚ) ^ k * (Nat.pow b (-k).toNat : Nat) := by
  have hb' : (b : ℚ) ≠ 0 := by exact_mod_cast hb
  have hsum : (k.toNat : Int) = k + ((-k).toNat : Int) := by omega
  rw [Nat.pow_eq, Nat.pow_eq, Nat.cast_pow, Nat.cast_pow, ← zpow_natCast, ← zpow_natCast, hsum,
    zpow_add₀ hb']

/-- Numbers scaled by natural powers of two compare as a quotient with an integer power. -/
theorem pow_mul_le_iff (hd : 0 < d) (k : Int) :
    d * Nat.pow 2 k.toNat ≤ n * Nat.pow 2 (-k).toNat ↔ (2 : ℚ) ^ k ≤ n / d := by
  have hd' : (0 : ℚ) < d := by exact_mod_cast hd
  have hpow : (0 : ℚ) < (Nat.pow 2 (-k).toNat : Nat) := by
    exact_mod_cast Nat.two_pow_pos _
  rw [← Nat.cast_le (α := ℚ), Nat.cast_mul, Nat.cast_mul, cast_pow_toNat (by decide), ← mul_assoc,
    mul_le_mul_iff_left₀ hpow, le_div_iff₀ hd', mul_comm]
  rfl

end Powers

namespace Nearest

section Rounding

variable {n d m : Nat}

/-- A quotient is rounded to a number that is at most half away.  If it is odd, it has to be less
than half away. -/
theorem roundQuotient_eq (hd : 0 < d) (hlow : 2 * (d * m) ≤ 2 * n + d)
    (hhigh : 2 * n ≤ 2 * (d * m) + d)
    (hodd : m % 2 = 1 → 2 * (d * m) < 2 * n + d ∧ 2 * n < 2 * (d * m) + d) :
    roundQuotient n d = m := by
  have hsplit := Nat.div_add_mod n d
  have hr := Nat.mod_lt n hd
  simp only [roundQuotient]
  generalize n / d = q at hsplit ⊢
  generalize n % d = r at hsplit hr ⊢
  obtain hlt | rfl | rfl | hgt : m < q ∨ m = q ∨ m = q + 1 ∨ q + 2 ≤ m := by omega
  · have hmul : d * (m + 1) ≤ d * q := Nat.mul_le_mul_left d hlt
    rw [Nat.mul_add] at hmul
    omega
  · rw [if_neg (by omega)]
  · rw [Nat.mul_add] at hlow hhigh hodd
    rw [if_pos (by omega)]
  · have hmul : d * (q + 2) ≤ d * m := Nat.mul_le_mul_left d hgt
    rw [Nat.mul_add] at hmul
    omega

/-- The same for a quotient of numbers that are scaled by a power of two. -/
theorem roundQuotient_scaled (hd : 0 < d) (k : Int) (hlow : (2 * m - 1) * (2 : ℚ) ^ k ≤ 2 * (n / d))
    (hhigh : 2 * (n / d) ≤ (2 * m + 1) * (2 : ℚ) ^ k)
    (hodd : m % 2 = 1 → (2 * m - 1) * (2 : ℚ) ^ k < 2 * (n / d) ∧
      2 * (n / d) < (2 * m + 1) * (2 : ℚ) ^ k) :
    roundQuotient (n * Nat.pow 2 (-k).toNat) (d * Nat.pow 2 k.toNat) = m := by
  have hd' : (0 : ℚ) < d := by exact_mod_cast hd
  have hscale := cast_pow_toNat (show 2 ≠ 0 by decide) k
  have hpos : 0 < Nat.pow 2 (-k).toNat := Nat.two_pow_pos _
  have hpos' : 0 < Nat.pow 2 k.toNat := Nat.two_pow_pos _
  generalize Nat.pow 2 (-k).toNat = low at hscale hpos ⊢
  generalize Nat.pow 2 k.toNat = high at hscale hpos' ⊢
  have hlow' : (0 : ℚ) < d * low := by exact_mod_cast Nat.mul_pos hd hpos
  -- both sides of all four conditions are multiplied by the same number
  have hleft : ∀ c : ℚ, c * 2 ^ k * (d * low) = c * (d * high) := by
    intro c
    rw [hscale]
    push_cast
    ring
  have hright : 2 * (n / d : ℚ) * (d * low) = 2 * (n * low) := by
    field_simp
  have hbelow := mul_le_mul_of_nonneg_right hlow hlow'.le
  have habove := mul_le_mul_of_nonneg_right hhigh hlow'.le
  rw [hleft, hright] at hbelow habove
  refine roundQuotient_eq (Nat.mul_pos hd hpos') ?_ ?_ fun hm => ?_
  · have h : (2 * (d * high * m) : ℚ) ≤ 2 * (n * low) + d * high := by linarith
    exact_mod_cast h
  · have h : (2 * (n * low) : ℚ) ≤ 2 * (d * high * m) + d * high := by linarith
    exact_mod_cast h
  · have hbelow' := mul_lt_mul_of_pos_right (hodd hm).1 hlow'
    have habove' := mul_lt_mul_of_pos_right (hodd hm).2 hlow'
    rw [hleft, hright] at hbelow' habove'
    constructor
    · have h : (2 * (d * high * m) : ℚ) < 2 * (n * low) + d * high := by linarith
      exact_mod_cast h
    · have h : (2 * (n * low) : ℚ) < 2 * (d * high * m) + d * high := by linarith
      exact_mod_cast h

end Rounding

section Exponents

variable {n d : Nat}

/-- The binary exponent of a quotient is that of the largest power of two in it. -/
theorem binaryExponent_spec (hn : 0 < n) (hd : 0 < d) :
    (2 : ℚ) ^ binaryExponent n d ≤ n / d ∧ (n / d : ℚ) < 2 ^ (binaryExponent n d + 1) := by
  have hd' : (0 : ℚ) < d := by exact_mod_cast hd
  have hn₁ : (2 : ℚ) ^ (Nat.log2 n : Int) ≤ n := by
    exact_mod_cast Nat.log2_self_le hn.ne'
  have hn₂ : (n : ℚ) < 2 ^ ((Nat.log2 n : Int) + 1) := by
    exact_mod_cast Nat.lt_log2_self (n := n)
  have hd₁ : (2 : ℚ) ^ (Nat.log2 d : Int) ≤ d := by
    exact_mod_cast Nat.log2_self_le hd.ne'
  have hd₂ : (d : ℚ) < 2 ^ ((Nat.log2 d : Int) + 1) := by
    exact_mod_cast Nat.lt_log2_self (n := d)
  simp only [binaryExponent, pow_mul_le_iff hd]
  generalize (Nat.log2 n : Int) = a at hn₁ hn₂ ⊢
  generalize (Nat.log2 d : Int) = b at hd₁ hd₂ ⊢
  have hbelow : (2 : ℚ) ^ (a - b - 1) ≤ n / d := by
    rw [le_div_iff₀ hd']
    calc
      (2 : ℚ) ^ (a - b - 1) * d ≤ 2 ^ (a - b - 1) * 2 ^ (b + 1) := by gcongr
      _ = 2 ^ a := by rw [← zpow_add₀ (by norm_num)]; congr 1; ring
      _ ≤ n := hn₁
  have habove : (n / d : ℚ) < 2 ^ (a - b + 1) := by
    rw [div_lt_iff₀ hd']
    calc
      (n : ℚ) < 2 ^ (a + 1) := hn₂
      _ = 2 ^ (a - b + 1) * 2 ^ b := by rw [← zpow_add₀ (by norm_num)]; congr 1; ring
      _ ≤ 2 ^ (a - b + 1) * d := by gcongr
  split
  · rename_i hle
    exact ⟨hle, habove⟩
  · rename_i hlt
    rw [sub_add_cancel]
    exact ⟨hbelow, not_le.1 hlt⟩

end Exponents

end Nearest

section Intervals

/-- The number that a decimal stands for. -/
def Decimal.value (d : Decimal) : ℚ :=
  d.digits * 10 ^ d.exponent

/-- The number lies in the interval. -/
def Shortest.Interval.Contains (i : Shortest.Interval) (v : ℚ) : Prop :=
  if i.closed then i.low * 2 ^ i.exponent ≤ v ∧ v ≤ i.high * 2 ^ i.exponent
  else i.low * 2 ^ i.exponent < v ∧ v < i.high * 2 ^ i.exponent

variable {x : Binary64} {v : ℚ}

namespace Binary64

/-- The bits below the sign. -/
def belowSign (x : Binary64) : Nat :=
  x.biasedExponent * fractionCount + x.fraction

theorem coefficient_lt (x : Binary64) : x.coefficient < 2 * fractionCount := by
  have hfraction : x.fraction < fractionCount := Nat.mod_lt _ (by decide)
  unfold coefficient
  split <;> omega

theorem le_exponent (x : Binary64) : -1074 ≤ x.exponent := by
  unfold exponent
  split <;> omega

theorem exponent_le (h : x.isFinite = true) : x.exponent ≤ 971 := by
  have hbiased : x.biasedExponent < 2048 := Nat.mod_lt _ (by decide)
  have hnotFull : x.biasedExponent ≠ 2047 := by simpa [isFinite] using h
  unfold exponent
  split <;> omega

theorem cast_fractionCount : (fractionCount : ℚ) = 2 ^ (52 : Int) := by
  norm_num [fractionCount]

/-- All numbers but those of the least exponent have a coefficient with its highest bit set. -/
theorem fractionCount_le_coefficient (h : -1074 < x.exponent) :
    fractionCount ≤ x.coefficient := by
  unfold exponent at h
  unfold coefficient
  split at h
  · omega
  · rename_i hbiased
    rw [if_neg hbiased]
    omega

/-- The number below is nearer only where the coefficient has no other bit set. -/
theorem gapBelowIsHalf_iff : x.gapBelowIsHalf = true ↔
    x.coefficient = fractionCount ∧ -1074 < x.exponent := by
  have hfraction : x.fraction < fractionCount := Nat.mod_lt _ (by decide)
  simp only [gapBelowIsHalf, coefficient, exponent, Bool.and_eq_true, beq_iff_eq,
    decide_eq_true_eq]
  split <;> omega

/-- The bits below the sign count the coefficients from zero on. -/
theorem belowSign_eq (x : Binary64) :
    x.belowSign = (x.exponent + 1074).toNat * fractionCount + x.coefficient := by
  unfold belowSign exponent coefficient
  split
  · rename_i hbiased
    simp [hbiased]
  · rename_i hbiased
    obtain ⟨e, he⟩ := Nat.exists_eq_succ_of_ne_zero hbiased
    have hexponent : ((x.biasedExponent : Int) - 1075 + 1074).toNat = e := by omega
    rw [hexponent, he, Nat.succ_mul, Nat.add_assoc]

end Binary64

namespace Shortest

open Binary64

/-- What is in the interval lies between its ends, counted in quarter units. -/
theorem Interval.Contains.le {i : Interval} (h : i.Contains v) :
    i.low * (2 : ℚ) ^ i.exponent ≤ v ∧ v ≤ i.high * (2 : ℚ) ^ i.exponent := by
  unfold Contains at h
  split at h
  · exact h
  · exact ⟨h.1.le, h.2.le⟩

/-- A quarter unit of the interval is a quarter of the unit of the number. -/
theorem four_mul_interval (x : Binary64) (c : ℚ) :
    4 * (c * 2 ^ (interval x).exponent) = c * 2 ^ x.exponent := by
  have hunit : (2 : ℚ) ^ (interval x).exponent = 2 ^ x.exponent / 4 := by
    rw [interval, zpow_sub₀ (by norm_num)]
    norm_num
  rw [hunit]
  ring

theorem low_add_two_le (x : Binary64) : (4 * x.coefficient : ℚ) ≤ (interval x).low + 2 := by
  have h : 4 * x.coefficient ≤ (interval x).low + 2 := by
    simp only [interval]
    split <;> omega
  exact_mod_cast h

theorem low_add_one_le (hgap : x.gapBelowIsHalf = true) :
    (4 * x.coefficient : ℚ) ≤ (interval x).low + 1 := by
  have h : 4 * x.coefficient ≤ (interval x).low + 1 := by
    simp only [interval, hgap, if_true]
    omega
  exact_mod_cast h

theorem high_eq (x : Binary64) : ((interval x).high : ℚ) = 4 * x.coefficient + 2 := by
  simp [interval]

/-- The interval of a number goes half a unit below and above it. -/
theorem le_of_contains (h : (interval x).Contains v) :
    (4 * x.coefficient - 2) * (2 : ℚ) ^ x.exponent ≤ 4 * v ∧
      4 * v ≤ (4 * x.coefficient + 2) * (2 : ℚ) ^ x.exponent := by
  have hpow : (0 : ℚ) < 2 ^ x.exponent := by positivity
  obtain ⟨hlow, hhigh⟩ := h.le
  have hlow' := four_mul_interval x (interval x).low
  have hhigh' := four_mul_interval x (interval x).high
  have hend := mul_le_mul_of_nonneg_right (low_add_two_le x) hpow.le
  rw [high_eq] at hhigh hhigh'
  constructor <;> linarith

/-- The ends themselves belong to even coefficients only. -/
theorem lt_of_contains (h : (interval x).Contains v) (hodd : x.coefficient % 2 = 1) :
    (4 * x.coefficient - 2) * (2 : ℚ) ^ x.exponent < 4 * v ∧
      4 * v < (4 * x.coefficient + 2) * (2 : ℚ) ^ x.exponent := by
  have hpow : (0 : ℚ) < 2 ^ x.exponent := by positivity
  have hopen : (interval x).closed = false := by simp [interval, hodd]
  rw [Interval.Contains, hopen] at h
  obtain ⟨hlow, hhigh⟩ := h
  have hlow' := four_mul_interval x (interval x).low
  have hhigh' := four_mul_interval x (interval x).high
  have hend := mul_le_mul_of_nonneg_right (low_add_two_le x) hpow.le
  rw [high_eq] at hhigh hhigh'
  constructor <;> linarith

/-- Where the gap below is half as wide, the interval goes a quarter of a unit below. -/
theorem le_of_contains_of_gap (h : (interval x).Contains v) (hgap : x.gapBelowIsHalf = true) :
    (4 * x.coefficient - 1) * (2 : ℚ) ^ x.exponent ≤ 4 * v := by
  have hpow : (0 : ℚ) < 2 ^ x.exponent := by positivity
  have hlow := h.le.1
  have hlow' := four_mul_interval x (interval x).low
  have hend := mul_le_mul_of_nonneg_right (low_add_one_le hgap) hpow.le
  linarith

/-- The coefficient has 53 bits, which half a unit does not exceed. -/
theorem lt_two_zpow_of_contains (h : (interval x).Contains v) : v < 2 ^ (x.exponent + 53) := by
  have hpow : (0 : ℚ) < 2 ^ x.exponent := by positivity
  have hupper := (le_of_contains h).2
  have hcoefficient : (x.coefficient : ℚ) + 1 ≤ 2 * fractionCount := by
    exact_mod_cast x.coefficient_lt
  have hscaled := mul_le_mul_of_nonneg_right hcoefficient hpow.le
  have htop : (2 : ℚ) ^ (x.exponent + 53) = 2 * fractionCount * 2 ^ x.exponent := by
    rw [cast_fractionCount, zpow_add₀ (by norm_num)]
    norm_num
    ring
  rw [htop]
  linarith

end Shortest

end Intervals

namespace Nearest

open Binary64 Shortest

section Magnitudes

variable {x : Binary64} {n d : Nat}

/-- The binary exponent lies between those of two powers around the quotient. -/
theorem binaryExponent_lt {k : Int} (hn : 0 < n) (hd : 0 < d) (h : (n / d : ℚ) < 2 ^ k) :
    binaryExponent n d < k :=
  (zpow_lt_zpow_iff_right₀ (by norm_num)).1 ((binaryExponent_spec hn hd).1.trans_lt h)

theorem le_binaryExponent {k : Int} (hn : 0 < n) (hd : 0 < d) (h : (2 : ℚ) ^ k ≤ n / d) :
    k ≤ binaryExponent n d :=
  Int.le_of_lt_add_one
    ((zpow_lt_zpow_iff_right₀ (by norm_num)).1 (h.trans_lt (binaryExponent_spec hn hd).2))

/-- No quotient in the interval needs a larger exponent than the number. -/
theorem binaryExponent_le (hn : 0 < n) (hd : 0 < d) (h : (interval x).Contains (n / d)) :
    binaryExponent n d - 52 ≤ x.exponent := by
  have hlt := binaryExponent_lt hn hd (lt_two_zpow_of_contains h)
  omega

/-- A quotient that fills the coefficient is rounded with the exponent of the number. -/
theorem max_binaryExponent_eq (hn : 0 < n) (hd : 0 < d) (h : (interval x).Contains (n / d))
    (hfull : -1074 < x.exponent → (fractionCount : ℚ) * 2 ^ x.exponent ≤ n / d) :
    max (binaryExponent n d - 52) (-1074) = x.exponent := by
  have hupper := binaryExponent_le hn hd h
  obtain hleast | hexponent := (le_exponent x).eq_or_lt
  · omega
  · have hfull' := hfull hexponent
    rw [cast_fractionCount, ← zpow_add₀ (by norm_num)] at hfull'
    have hlower := le_binaryExponent hn hd hfull'
    omega

/-- A quotient below a number whose gap is half as wide is rounded with the exponent before. -/
theorem max_binaryExponent_of_gap (hn : 0 < n) (hd : 0 < d) (h : (interval x).Contains (n / d))
    (hgap : x.gapBelowIsHalf = true) (hbelow : (n / d : ℚ) < x.coefficient * 2 ^ x.exponent) :
    max (binaryExponent n d - 52) (-1074) = x.exponent - 1 := by
  obtain ⟨hcoefficient, hexponent⟩ := gapBelowIsHalf_iff.1 hgap
  have hpow : (0 : ℚ) < 2 ^ x.exponent := by positivity
  have hlower := le_of_contains_of_gap h hgap
  rw [hcoefficient, cast_fractionCount] at hlower hbelow
  rw [← zpow_add₀ (by norm_num)] at hbelow
  have hhalf : (2 : ℚ) ^ (51 + x.exponent) ≤ n / d := by
    have hsplit : (2 : ℚ) ^ (51 + x.exponent) = 2 ^ (51 : Int) * 2 ^ x.exponent :=
      zpow_add₀ (by norm_num) _ _
    norm_num at hsplit hlower
    linarith
  have habove := binaryExponent_lt hn hd hbelow
  have hbelow' := le_binaryExponent hn hd hhalf
  omega

/-- The bits of a finite number are below those of infinity, so they are not cut off. -/
theorem belowSign_le_infinity (hfinite : x.isFinite = true) : x.belowSign ≤ infinity := by
  have hbiased : x.biasedExponent < 2048 := Nat.mod_lt _ (by decide)
  have hnotFull : x.biasedExponent ≠ 2047 := by simpa [isFinite] using hfinite
  have hfraction : x.fraction < fractionCount := Nat.mod_lt _ (by decide)
  have hmul : (x.biasedExponent + 1) * fractionCount ≤ 2047 * fractionCount :=
    Nat.mul_le_mul_right _ (by omega)
  rw [Nat.succ_mul] at hmul
  rw [belowSign, infinity]
  omega

/-- Below a number whose gap is half as wide the coefficient is rounded to twice its value, which
carries into the exponent before. -/
theorem magnitude_of_below (hn : 0 < n) (hd : 0 < d) (hfinite : x.isFinite = true)
    (h : (interval x).Contains (n / d)) (hgap : x.gapBelowIsHalf = true)
    (hbelow : (n / d : ℚ) < x.coefficient * 2 ^ x.exponent) : magnitude n d = x.belowSign := by
  obtain ⟨hcoefficient, hexponent⟩ := gapBelowIsHalf_iff.1 hgap
  have hpow : (0 : ℚ) < 2 ^ x.exponent := by positivity
  have hquarter := le_of_contains_of_gap h hgap
  have hhalf : (2 : ℚ) ^ (x.exponent - 1) = 2 ^ x.exponent / 2 := by
    rw [zpow_sub₀ (by norm_num), zpow_one]
  have hround : roundQuotient (n * Nat.pow 2 (-(x.exponent - 1)).toNat)
      (d * Nat.pow 2 (x.exponent - 1).toNat) = 2 * x.coefficient := by
    refine roundQuotient_scaled hd _ ?_ ?_ fun hodd => ?_
    · rw [hhalf]
      push_cast
      linarith
    · rw [hhalf]
      push_cast
      linarith
    · omega
  have hbits : (x.exponent - 1 + 1074).toNat * fractionCount + 2 * x.coefficient =
      x.belowSign := by
    have hsucc : (x.exponent + 1074).toNat = (x.exponent - 1 + 1074).toNat + 1 := by omega
    rw [belowSign_eq, hsucc, Nat.succ_mul (x.exponent - 1 + 1074).toNat, hcoefficient]
    omega
  simp only [magnitude, max_binaryExponent_of_gap hn hd h hgap hbelow, hround, hbits,
    if_neg (not_lt.2 (belowSign_le_infinity hfinite))]

/-- Otherwise the highest bit of the coefficient is needed, if the exponent is not the least. -/
theorem fractionCount_mul_le {v : ℚ} (h : (interval x).Contains v)
    (habove : x.gapBelowIsHalf = true → (x.coefficient : ℚ) * 2 ^ x.exponent ≤ v)
    (hexponent : -1074 < x.exponent) : (fractionCount : ℚ) * 2 ^ x.exponent ≤ v := by
  have hpow : (0 : ℚ) < 2 ^ x.exponent := by positivity
  obtain heq | hgt := (fractionCount_le_coefficient hexponent).eq_or_lt
  · rw [heq]
    exact habove (gapBelowIsHalf_iff.2 ⟨heq.symm, hexponent⟩)
  · have hgt' : (fractionCount + 1 : ℚ) ≤ x.coefficient := by exact_mod_cast hgt
    have hscaled := mul_le_mul_of_nonneg_right hgt' hpow.le
    have hlow := (le_of_contains h).1
    linarith

/-- What lies in the interval of a finite number is rounded to the bits of this number. -/
theorem magnitude_of_contains (hn : 0 < n) (hd : 0 < d) (hfinite : x.isFinite = true)
    (h : (interval x).Contains (n / d)) : magnitude n d = x.belowSign := by
  by_cases hbelow : x.gapBelowIsHalf = true ∧ (n / d : ℚ) < x.coefficient * 2 ^ x.exponent
  · exact magnitude_of_below hn hd hfinite h hbelow.1 hbelow.2
  · have hfull := fractionCount_mul_le h fun hgap => not_lt.1 fun hlt => hbelow ⟨hgap, hlt⟩
    have hround : roundQuotient (n * Nat.pow 2 (-x.exponent).toNat)
        (d * Nat.pow 2 x.exponent.toNat) = x.coefficient := by
      obtain ⟨hlow, hhigh⟩ := le_of_contains h
      refine roundQuotient_scaled hd _ (by linarith) (by linarith) fun hodd => ?_
      obtain ⟨hlow', hhigh'⟩ := lt_of_contains h hodd
      constructor <;> linarith
    simp only [magnitude, max_binaryExponent_eq hn hd h hfull, hround, ← belowSign_eq,
      if_neg (not_lt.2 (belowSign_le_infinity hfinite))]

end Magnitudes

end Nearest

section Reading

open Binary64 Shortest

variable {x : Binary64} {d : Decimal} {v : ℚ}

/-- A number is put together again from its sign and the bits below it. -/
theorem Binary64.ofParts_belowSign (x : Binary64) : ofParts x.negative x.belowSign = x := by
  obtain ⟨bits⟩ := x
  have hlt := bits.toNat_lt
  have hbits : (if (⟨bits⟩ : Binary64).negative then Nat.pow 2 63 else 0) +
      (⟨bits⟩ : Binary64).belowSign = bits.toNat := by
    simp only [negative, belowSign, biasedExponent, fraction, fractionCount, beq_iff_eq,
      Nat.pow_eq, Nat.reducePow]
    split <;> omega
  rw [ofParts, hbits, UInt64.ofNat_toNat]

/-- A decimal is the quotient that the reader rounds. -/
theorem Decimal.value_eq_div (d : Decimal) :
    d.value = ((d.digits * Nat.pow 10 d.exponent.toNat : Nat) : ℚ) /
      (Nat.pow 10 (-d.exponent).toNat : Nat) := by
  have hpos : 0 < Nat.pow 10 (-d.exponent).toNat := Nat.pow_pos (by decide)
  have hne : ((Nat.pow 10 (-d.exponent).toNat : Nat) : ℚ) ≠ 0 := by exact_mod_cast hpos.ne'
  rw [eq_div_iff hne, Nat.cast_mul, cast_pow_toNat (by decide) d.exponent, value, mul_assoc]
  rfl

/-- The number of digits and the exponent bound a decimal. -/
theorem Decimal.value_bounds (h : d.digits ≠ 0) :
    (10 : ℚ) ^ ((Nat.toDigits 10 d.digits).length + d.exponent - 1) ≤ d.value ∧
      d.value < 10 ^ ((Nat.toDigits 10 d.digits).length + d.exponent) := by
  have hpow : (0 : ℚ) < 10 ^ d.exponent := by positivity
  have hpos : 0 < (Nat.toDigits 10 d.digits).length := Nat.length_toDigits_pos
  have hupper : d.digits < 10 ^ (Nat.toDigits 10 d.digits).length :=
    (Nat.length_toDigits_le_iff (by decide) hpos).1 le_rfl
  obtain ⟨k, hk⟩ := Nat.exists_eq_succ_of_ne_zero hpos.ne'
  have hlower : 10 ^ k ≤ d.digits := by
    cases k with
    | zero =>
        exact Nat.one_le_iff_ne_zero.2 h
    | succ k =>
        refine not_lt.1 fun hlt => ?_
        have hle := (Nat.length_toDigits_le_iff (by decide) k.succ_pos).2 hlt
        omega
  rw [hk] at hupper ⊢
  have hupper' : (d.digits : ℚ) < 10 ^ ((k.succ : Nat) : Int) := by exact_mod_cast hupper
  have hlower' : (10 : ℚ) ^ (k : Int) ≤ d.digits := by exact_mod_cast hlower
  have hsucc : ((k.succ : Nat) : Int) + d.exponent - 1 = k + d.exponent := by
    push_cast
    ring
  rw [hsucc, zpow_add₀ (by norm_num), zpow_add₀ (by norm_num), Decimal.value]
  exact ⟨mul_le_mul_of_nonneg_right hlower' hpow.le, mul_lt_mul_of_pos_right hupper' hpow⟩

/-- Ten is more than the third power of two. -/
theorem two_zpow_le_ten_zpow {k : Int} (hk : 0 ≤ k) : (2 : ℚ) ^ (3 * k) ≤ 10 ^ k := by
  rw [zpow_mul]
  exact zpow_le_zpow_left₀ hk (by norm_num) (by norm_num)

/-- Only zero has numbers in its interval that are so small. -/
theorem belowSign_eq_zero (h : (interval x).Contains v) (hsmall : v < 10 ^ (-400 : Int)) :
    x.belowSign = 0 := by
  have hpow : (2 : ℚ) ^ (-1074 : Int) ≤ 2 ^ x.exponent :=
    zpow_le_zpow_right₀ (by norm_num) x.le_exponent
  have htiny : (10 : ℚ) ^ (-400 : Int) ≤ 2 ^ (-1200 : Int) := by
    rw [zpow_neg, zpow_neg]
    exact inv_anti₀ (by positivity) (two_zpow_le_ten_zpow (by norm_num))
  have hbelow : (2 : ℚ) ^ (-1200 : Int) ≤ 2 ^ (-1075 : Int) :=
    zpow_le_zpow_right₀ (by norm_num) (by norm_num)
  have hcoefficient : x.coefficient = 0 := by
    by_contra hne
    have hone : (1 : ℚ) ≤ x.coefficient := by exact_mod_cast Nat.one_le_iff_ne_zero.2 hne
    have hlower := (le_of_contains h).1
    have hscaled := mul_le_mul_of_nonneg_right hone (hpow.trans' (by positivity))
    have hdouble : (2 : ℚ) ^ (-1074 : Int) = 2 * 2 ^ (-1075 : Int) := by
      rw [show (-1074 : Int) = 1 + -1075 by rfl, zpow_add₀ (by norm_num), zpow_one]
    linarith
  have hexponent : x.exponent = -1074 := by
    refine le_antisymm (not_lt.1 fun hlt => ?_) x.le_exponent
    have hfull := fractionCount_le_coefficient hlt
    rw [hcoefficient] at hfull
    exact absurd hfull (by decide)
  rw [belowSign_eq, hexponent, hcoefficient]
  simp

/-- No number has others in its interval that are so large. -/
theorem lt_ten_zpow_of_contains (h : (interval x).Contains v) : v < 10 ^ (400 : Int) := by
  have hexponent : x.exponent + 53 ≤ 1200 := by
    have hbiased : x.biasedExponent < 2048 := Nat.mod_lt _ (by decide)
    unfold exponent
    split <;> omega
  calc
    v < 2 ^ (x.exponent + 53) := lt_two_zpow_of_contains h
    _ ≤ 2 ^ (3 * 400 : Int) := zpow_le_zpow_right₀ (by norm_num) hexponent
    _ ≤ 10 ^ (400 : Int) := two_zpow_le_ten_zpow (by norm_num)

/-- **Decimals near a number are read as this number.** -/
theorem ofDecimal_of_contains (hfinite : x.isFinite = true) (h : (interval x).Contains d.value) :
    ofDecimal x.negative d = x := by
  unfold ofDecimal
  refine (congrArg (ofParts x.negative) ?_).trans (ofParts_belowSign x)
  by_cases hzero : d.digits = 0
  · rw [if_pos (.inl hzero)]
    refine (belowSign_eq_zero h ?_).symm
    rw [Decimal.value, hzero, Nat.cast_zero, zero_mul]
    positivity
  · obtain ⟨hlower, hupper⟩ := Decimal.value_bounds hzero
    by_cases hsmall : ((Nat.toDigits 10 d.digits).length : Int) + d.exponent < -400
    · rw [if_pos (.inr hsmall)]
      refine (belowSign_eq_zero h (hupper.trans_le ?_)).symm
      exact zpow_le_zpow_right₀ (by norm_num) hsmall.le
    · have hlarge : ¬ 400 < ((Nat.toDigits 10 d.digits).length : Int) + d.exponent := by
        have hlt := (zpow_lt_zpow_iff_right₀ (by norm_num)).1
          (hlower.trans_lt (lt_ten_zpow_of_contains h))
        omega
      rw [if_neg (not_or.2 ⟨hzero, hsmall⟩), if_neg hlarge]
      rw [Decimal.value_eq_div] at h
      exact Nearest.magnitude_of_contains
        (Nat.mul_pos (Nat.pos_of_ne_zero hzero) (Nat.pow_pos (by decide)))
        (Nat.pow_pos (by decide)) hfinite h

end Reading

end Number
end DocFilter
