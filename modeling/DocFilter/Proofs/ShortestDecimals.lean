import DocFilter.Proofs.NearestNumbers

/-!
# Shortest decimals are read back

The decimal of a number is searched on ever finer grids, and the first grid with
a point in the interval around the number ends the search.  Whatever the search
finds is in the interval (`contains_gridPoint`), and it finds something, since
the grids become finer than the interval is wide (`exists_gridPoint`) before it
gives up.

So a finite number is read back from the decimal that is written for it
(`ofDecimal_shortestDecimal`).
-/

namespace DocFilter
namespace Number

namespace Shortest

section Grids

variable {i : Interval} {k : Int} {n : Nat}

/-- A grid step and a quarter unit of the interval are counted in one common unit. -/
theorem exists_scale (q k : Int) : ∃ c : ℚ, 0 < c ∧
    ((scales q k).1 : ℚ) = 10 ^ k * c ∧ ((scales q k).2 : ℚ) = 2 ^ q * c := by
  have hten : 0 < Nat.pow 10 (-k).toNat := Nat.pow_pos (by decide)
  have htwo : 0 < Nat.pow 2 (-q).toNat := Nat.two_pow_pos _
  refine ⟨(Nat.pow 10 (-k).toNat : Nat) * (Nat.pow 2 (-q).toNat : Nat), ?_, ?_, ?_⟩
  · exact_mod_cast Nat.mul_pos hten htwo
  · rw [scales, Nat.cast_mul, cast_pow_toNat (show 10 ≠ 0 by decide) k, mul_assoc]
    rfl
  · rw [scales, Nat.cast_mul, cast_pow_toNat (show 2 ≠ 0 by decide) q, mul_left_comm]
    rfl

/-- Points of the grid compare with quarter units as natural numbers. -/
theorem mul_unit_le_iff (q k : Int) (a b : Nat) :
    a * (scales q k).2 ≤ b * (scales q k).1 ↔ (a : ℚ) * 2 ^ q ≤ b * 10 ^ k := by
  obtain ⟨c, hc, hstep, hunit⟩ := exists_scale q k
  rw [← Nat.cast_le (α := ℚ), Nat.cast_mul, Nat.cast_mul, hstep, hunit, ← mul_assoc, ← mul_assoc,
    mul_le_mul_iff_left₀ hc]

theorem mul_step_le_iff (q k : Int) (a b : Nat) :
    b * (scales q k).1 ≤ a * (scales q k).2 ↔ (b : ℚ) * 10 ^ k ≤ a * 2 ^ q := by
  obtain ⟨c, hc, hstep, hunit⟩ := exists_scale q k
  rw [← Nat.cast_le (α := ℚ), Nat.cast_mul, Nat.cast_mul, hstep, hunit, ← mul_assoc, ← mul_assoc,
    mul_le_mul_iff_left₀ hc]

theorem contains_grid_iff : i.Contains (n * 10 ^ k) ↔
    (if i.closed then i.low * (scales i.exponent k).2 ≤ n * (scales i.exponent k).1
      else i.low * (scales i.exponent k).2 < n * (scales i.exponent k).1) ∧
    (if i.closed then n * (scales i.exponent k).1 ≤ i.high * (scales i.exponent k).2
      else n * (scales i.exponent k).1 < i.high * (scales i.exponent k).2) := by
  unfold Interval.Contains
  cases i.closed with
  | true =>
      simp only [if_true, mul_unit_le_iff, mul_step_le_iff]
  | false =>
      simp only [Bool.false_eq_true, if_false, ← not_le, mul_unit_le_iff, mul_step_le_iff]

theorem scales_pos (q k : Int) : 0 < (scales q k).1 ∧ 0 < (scales q k).2 :=
  ⟨Nat.mul_pos (Nat.pow_pos (by decide)) (Nat.two_pow_pos _),
    Nat.mul_pos (Nat.pow_pos (by decide)) (Nat.two_pow_pos _)⟩

/-- The two grid points next to the middle. -/
theorem div_mul_bounds {step : Nat} (hstep : 0 < step) (m : Nat) :
    m / step * step ≤ m ∧ m < (m / step + 1) * step :=
  ⟨Nat.div_mul_le_self m step, Nat.lt_mul_of_div_lt (Nat.lt_succ_self _) hstep⟩

/-- The point that is found on a grid lies in the interval. -/
theorem contains_gridPoint (hlow : i.low ≤ i.middle) (hhigh : i.middle < i.high)
    (h : gridPoint i k = some n) : i.Contains (n * 10 ^ k) := by
  obtain ⟨hstep, hunit⟩ := scales_pos i.exponent k
  have hmiddle := Nat.mul_le_mul_right (scales i.exponent k).2 hlow
  have hmiddle' := Nat.mul_lt_mul_of_pos_right hhigh hunit
  obtain ⟨hbelow, habove⟩ := div_mul_bounds hstep (i.middle * (scales i.exponent k).2)
  rw [contains_grid_iff]
  simp only [gridPoint] at h
  generalize i.middle * (scales i.exponent k).2 / (scales i.exponent k).1 = below at *
  cases hclosed : i.closed with
  | true =>
      simp only [hclosed, if_true] at h ⊢
      split_ifs at h <;> cases h <;> omega
  | false =>
      simp only [hclosed, Bool.false_eq_true, if_false] at h ⊢
      split_ifs at h <;> cases h <;> omega

/-- A grid with steps of at most a quarter unit has a point in the interval. -/
theorem exists_gridPoint (hlow : i.low < i.middle)
    (hfine : (10 : ℚ) ^ k ≤ 2 ^ i.exponent) : ∃ n, gridPoint i k = some n := by
  obtain ⟨hstep, hunit⟩ := scales_pos i.exponent k
  have hle : 1 * (scales i.exponent k).1 ≤ 1 * (scales i.exponent k).2 :=
    (mul_step_le_iff _ _ 1 1).2 (by simpa using hfine)
  have hmiddle := Nat.mul_le_mul_right (scales i.exponent k).2 hlow
  rw [Nat.succ_mul] at hmiddle
  obtain ⟨hbelow, habove⟩ := div_mul_bounds hstep (i.middle * (scales i.exponent k).2)
  rw [Nat.succ_mul] at habove
  simp only [gridPoint]
  generalize i.middle * (scales i.exponent k).2 / (scales i.exponent k).1 = below at *
  cases hclosed : i.closed with
  | true =>
      simp only [if_true]
      rw [if_pos (by omega)]
      split <;> exact ⟨_, rfl⟩
  | false =>
      simp only [Bool.false_eq_true, if_false]
      rw [if_pos (by omega)]
      split <;> exact ⟨_, rfl⟩

end Grids

section Search

variable {i : Interval} {k : Int} {tries : Nat}

/-- If all grids from some exponent down have a point in the interval, the search ends in it, unless
it gives up before that exponent. -/
theorem contains_search (fine : Int) (hlow : i.low ≤ i.middle) (hhigh : i.middle < i.high)
    (hfine : ∀ j ≤ fine, ∃ n, gridPoint i j = some n) (hpos : 0 < tries) (h : k < fine + tries) :
    i.Contains (search i tries k).value := by
  induction tries generalizing k with
  | zero =>
      omega
  | succ tries ih =>
      rw [search]
      cases hgrid : gridPoint i k with
      | some n =>
          exact contains_gridPoint hlow hhigh hgrid
      | none =>
          have hcoarse : fine < k := by
            refine not_le.1 fun hle => ?_
            obtain ⟨n, hn⟩ := hfine k hle
            rw [hgrid] at hn
            cases hn
          exact ih (by omega) (by omega)

/-- Nine decimal places are at least 29 binary ones and at most 30. -/
theorem ten_zpow_le_two_zpow (k : Int) :
    (10 : ℚ) ^ k ≤ 2 ^ (29 * (k / 9) + max (k / 9) 0 + 4 * (k % 9)) := by
  have hsplit : (10 : ℚ) ^ k = (10 ^ (9 : Int)) ^ (k / 9) * 10 ^ (k % 9) := by
    rw [← zpow_mul, ← zpow_add₀ (by norm_num), Int.mul_ediv_add_emod]
  have hplaces : ((10 : ℚ) ^ (9 : Int)) ^ (k / 9) ≤ 2 ^ (29 * (k / 9) + max (k / 9) 0) := by
    obtain hneg | hpos := le_total (k / 9) 0
    · have hinv : ((2 : ℚ) ^ (29 : Int)) ^ (-(k / 9)) ≤ (10 ^ (9 : Int)) ^ (-(k / 9)) :=
        zpow_le_zpow_left₀ (by omega) (by positivity) (by norm_num)
      have hle := inv_anti₀ (by positivity) hinv
      rw [← zpow_neg, ← zpow_neg, neg_neg, ← zpow_mul 2] at hle
      rwa [max_eq_right hneg, add_zero]
    · have hle : ((10 : ℚ) ^ (9 : Int)) ^ (k / 9) ≤ (2 ^ (30 : Int)) ^ (k / 9) :=
        zpow_le_zpow_left₀ hpos (by positivity) (by norm_num)
      rw [← zpow_mul 2] at hle
      rwa [max_eq_left hpos, ← add_one_mul]
  have hrest : (10 : ℚ) ^ (k % 9) ≤ 2 ^ (4 * (k % 9)) := by
    rw [zpow_mul]
    exact zpow_le_zpow_left₀ (by omega) (by norm_num) (by norm_num)
  rw [hsplit, zpow_add₀ (by norm_num)]
  gcongr

/-- Dropping zeros does not change the value of a decimal. -/
theorem value_stripZeros (fuel : Nat) (d : Decimal) : (stripZeros fuel d).value = d.value := by
  induction fuel generalizing d with
  | zero =>
      rfl
  | succ fuel ih =>
      rw [stripZeros]
      split
      · rename_i hzero
        have hdigits : (d.digits : ℚ) = (d.digits / 10 : Nat) * 10 := by
          exact_mod_cast (Nat.div_mul_cancel (Nat.dvd_of_mod_eq_zero hzero.2)).symm
        rw [ih, Decimal.value, Decimal.value, hdigits, zpow_add₀ (by norm_num), zpow_one]
        ring
      · rfl

end Search

end Shortest

section RoundTrip

open Shortest

variable {x : Binary64}

/-- Forty grids reach one that is finer than a quarter unit of the interval. -/
theorem fine_grid (hfinite : x.isFinite = true) :
    (10 : ℚ) ^ (coarsest (interval x) - 39) ≤ 2 ^ (interval x).exponent := by
  have hexponent : (interval x).exponent = x.exponent - 2 := rfl
  have hleast := x.le_exponent
  have hlargest := x.exponent_le hfinite
  have hlog : Nat.log2 (interval x).high ≤ 54 := by
    have hcoefficient : x.coefficient < 2 * Nat.pow 2 52 := x.coefficient_lt
    refine Nat.lt_succ_iff.1 ((Nat.log2_lt (by simp [interval])).2 ?_)
    simp only [interval]
    rw [Nat.pow_eq] at hcoefficient
    omega
  refine (ten_zpow_le_two_zpow _).trans (zpow_le_zpow_right₀ (by norm_num) ?_)
  simp only [coarsest]
  omega

/-- The decimal of a finite number lies in its interval. -/
theorem contains_shortestDecimal (hfinite : x.isFinite = true) :
    (interval x).Contains (shortestDecimal x).value := by
  rw [shortestDecimal]
  split
  · rename_i hzero
    have hlow : (interval x).low = 0 := by simp [interval, hzero]
    have hclosed : (interval x).closed = true := by simp [interval, hzero]
    rw [Interval.Contains, if_pos hclosed, hlow, Decimal.value, Nat.cast_zero, zero_mul, zero_mul]
    exact ⟨le_rfl, by positivity⟩
  · rename_i hne
    have hlow : (interval x).low < (interval x).middle := by
      simp only [interval]
      split <;> omega
    have hhigh : (interval x).middle < (interval x).high := by
      simp only [interval]
      omega
    rw [value_stripZeros]
    refine contains_search (coarsest (interval x) - 39) hlow.le hhigh (fun j hj => ?_) (by decide)
      (by omega)
    refine exists_gridPoint hlow (le_trans ?_ (fine_grid hfinite))
    exact zpow_le_zpow_right₀ (by norm_num) hj

/-- **Finite numbers are read back from their shortest decimals.** -/
theorem ofDecimal_shortestDecimal (hfinite : x.isFinite = true) :
    Binary64.ofDecimal x.negative (shortestDecimal x) = x :=
  ofDecimal_of_contains hfinite (contains_shortestDecimal hfinite)

end RoundTrip

end Number
end DocFilter
