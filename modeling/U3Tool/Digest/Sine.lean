import Mathlib.Tactic
import Mathlib.Analysis.Complex.Exponential
import Mathlib.Analysis.Complex.Trigonometric

/-!
# The sines of the natural numbers, to 32 binary places

Hash functions take their constants from well-known irrational numbers, here from the integer part
of `2 ^ 32 * |sin n|`. The point `cos 1 + i sin 1` of the unit circle is cut to 64 binary places
(`unit`), which `norm_exp_I_sub_unit_le` bounds by its Taylor polynomial; its powers are computed
exactly, as pairs of integers (`unitPow`), and stay near the multiples of the angle because neither
point has a norm above one. `floor_sin` then reads an integer part off the integers.
-/

set_option autoImplicit false
set_option relaxedAutoImplicit false

namespace Digest

open Complex

/-! ### The angle one -/

/-- The real part of `exp i`, cut to 64 binary places and scaled to an integer. -/
def unitRe : ℤ := 9966818358784711825

/-- The imaginary part of `exp i`, cut to 64 binary places and scaled to an integer. -/
def unitIm : ℤ := 15522399902203605024

/-- The point of the plane these denote. -/
noncomputable def unit : ℂ := ⟨unitRe / (2 ^ 64 : ℤ), unitIm / (2 ^ 64 : ℤ)⟩

/-- The powers of the point, scaled to integers. -/
def unitPow : ℕ → ℤ × ℤ
  | 0 => (1, 0)
  | n + 1 =>
    ((unitPow n).1 * unitRe - (unitPow n).2 * unitIm,
      (unitPow n).1 * unitIm + (unitPow n).2 * unitRe)

theorem norm_unit_le : ‖unit‖ ≤ 1 := by
  rw [← abs_of_nonneg (norm_nonneg unit), ← sq_le_one_iff_abs_le_one, Complex.sq_norm,
    Complex.normSq_apply]
  simp only [unit, unitRe, unitIm]
  norm_num

/-- The Taylor polynomial of `exp` at `i`. -/
theorem sum_range_exp_I : ∑ m ∈ Finset.range 22, I ^ m / (m.factorial : ℂ) =
    ⟨∑ m ∈ Finset.range 11, (-1) ^ m / ((2 * m).factorial : ℝ),
      ∑ m ∈ Finset.range 11, (-1) ^ m / ((2 * m + 1).factorial : ℝ)⟩ := by
  have hpair (count : ℕ) : ∑ m ∈ Finset.range (2 * count), I ^ m / (m.factorial : ℂ) =
      ⟨∑ m ∈ Finset.range count, (-1) ^ m / ((2 * m).factorial : ℝ),
        ∑ m ∈ Finset.range count, (-1) ^ m / ((2 * m + 1).factorial : ℝ)⟩ := by
    induction count with
    | zero => rfl
    | succ count ih =>
      have heven : I ^ (2 * count) = ((-1) ^ count : ℝ) := by
        rw [pow_mul, I_sq]
        norm_num
      have hodd : I ^ (2 * count + 1) = ((-1) ^ count : ℝ) * I := by
        rw [pow_succ, heven]
      rw [Nat.mul_succ, Finset.sum_range_succ, Finset.sum_range_succ, ih, heven, hodd,
        Finset.sum_range_succ, Finset.sum_range_succ]
      generalize ((-1) ^ count : ℝ) = sign
      apply Complex.ext
      · simp
      · simp
  exact hpair 11

/-- The cut point is near the point of the unit circle. -/
theorem norm_exp_I_sub_unit_le : ‖exp I - unit‖ ≤ 2 / 2 ^ 64 := by
  have htaylor : ‖exp I - ∑ m ∈ Finset.range 22, I ^ m / (m.factorial : ℂ)‖ ≤ 1 / 10 / 2 ^ 64 := by
    refine (exp_bound (by simp) (by norm_num)).trans ?_
    rw [norm_I]
    norm_num [Nat.factorial]
  have hcut : ‖∑ m ∈ Finset.range 22, I ^ m / (m.factorial : ℂ) - unit‖ ≤ 19 / 10 / 2 ^ 64 := by
    refine (norm_le_abs_re_add_abs_im _).trans ?_
    rw [sum_range_exp_I]
    simp only [sub_re, sub_im, unit, unitRe, unitIm, Finset.sum_range_succ, Finset.sum_range_zero,
      Nat.factorial]
    norm_num [abs_le, abs_of_nonneg, abs_of_neg, abs_of_pos]
  calc ‖exp I - unit‖
      ≤ ‖exp I - ∑ m ∈ Finset.range 22, I ^ m / (m.factorial : ℂ)‖ +
          ‖∑ m ∈ Finset.range 22, I ^ m / (m.factorial : ℂ) - unit‖ :=
        norm_sub_le_norm_sub_add_norm_sub _ _ _
    _ ≤ 1 / 10 / 2 ^ 64 + 19 / 10 / 2 ^ 64 := add_le_add htaylor hcut
    _ = 2 / 2 ^ 64 := by norm_num

/-! ### Its multiples -/

/-- Powers of points in the unit disc differ by no more than their exponent times the points do. -/
theorem norm_pow_sub_pow_le {first second : ℂ} (hfirst : ‖first‖ ≤ 1) (hsecond : ‖second‖ ≤ 1)
    (n : ℕ) : ‖first ^ n - second ^ n‖ ≤ n * ‖first - second‖ := by
  induction n with
  | zero => simp
  | succ n ih =>
    have hsplit : first ^ (n + 1) - second ^ (n + 1) =
        first * (first ^ n - second ^ n) + (first - second) * second ^ n := by ring
    have hleft : ‖first * (first ^ n - second ^ n)‖ ≤ n * ‖first - second‖ := by
      rw [norm_mul]
      exact (mul_le_of_le_one_left (norm_nonneg _) hfirst).trans ih
    have hright : ‖(first - second) * second ^ n‖ ≤ ‖first - second‖ := by
      rw [norm_mul, norm_pow]
      exact mul_le_of_le_one_right (norm_nonneg _) (pow_le_one₀ (norm_nonneg _) hsecond)
    rw [hsplit]
    refine (norm_add_le _ _).trans ((add_le_add hleft hright).trans_eq ?_)
    push_cast
    ring

/-- The integer pairs are the powers of the cut point. -/
theorem unit_pow_eq (n : ℕ) :
    unit ^ n = ⟨(unitPow n).1 / (2 ^ 64) ^ n, (unitPow n).2 / (2 ^ 64) ^ n⟩ := by
  induction n with
  | zero => apply Complex.ext <;> simp [unitPow]
  | succ n ih =>
    rw [pow_succ, ih]
    apply Complex.ext
    · simp only [unitPow, unit, mul_re, Int.cast_sub, Int.cast_mul]
      ring
    · simp only [unitPow, unit, mul_im, Int.cast_add, Int.cast_mul]
      ring

/-- The sine of a natural number is near the scaled integer. -/
theorem abs_sin_sub_le (n : ℕ) :
    |Real.sin n - (unitPow n).2 / (2 ^ 64 : ℝ) ^ n| ≤ n * (2 / 2 ^ 64) := by
  have hsin : Real.sin n = (exp I ^ n).im := by
    rw [← exp_nat_mul, ← Complex.ofReal_natCast, exp_ofReal_mul_I_im]
  have hunit : (unitPow n).2 / (2 ^ 64 : ℝ) ^ n = (unit ^ n).im := by rw [unit_pow_eq]
  have hnorm : ‖exp I‖ ≤ 1 := by
    rw [← one_mul I, ← Complex.ofReal_one, norm_exp_ofReal_mul_I]
  rw [hsin, hunit, ← sub_im]
  refine (abs_im_le_norm _).trans ((norm_pow_sub_pow_le hnorm norm_unit_le n).trans ?_)
  exact mul_le_mul_of_nonneg_left norm_exp_I_sub_unit_le n.cast_nonneg

/-! ### Integer parts -/

/-- The scaled integer lies between a word and the next, one hundredth away from both. -/
def SineWord (n word : ℕ) : Prop :=
  (100 * word + 1) * (2 ^ 64) ^ n ≤ 100 * 2 ^ 32 * (unitPow n).2.natAbs ∧
    100 * 2 ^ 32 * (unitPow n).2.natAbs + (2 ^ 64) ^ n < 100 * (word + 1) * (2 ^ 64) ^ n

instance (n word : ℕ) : Decidable (SineWord n word) := inferInstanceAs (Decidable (_ ∧ _))

/-- The integer part of the scaled sine, for the first 64 numbers. -/
theorem floor_sin {n word : ℕ} (hn : n ≤ 64) (hword : SineWord n word) :
    ⌊2 ^ 32 * |Real.sin n|⌋₊ = word := by
  have hscale : (0 : ℝ) < (2 ^ 64) ^ n := by positivity
  have hnear : |2 ^ 32 * |Real.sin n| - 2 ^ 32 * ((unitPow n).2.natAbs / (2 ^ 64) ^ n)| ≤
      1 / 100 := by
    have hcast : (unitPow n).2.natAbs / (2 ^ 64 : ℝ) ^ n = |(unitPow n).2 / (2 ^ 64 : ℝ) ^ n| := by
      rw [abs_div, abs_of_pos hscale, Nat.cast_natAbs, Int.cast_abs]
    have hbound : (n : ℝ) * (2 / 2 ^ 64) ≤ 64 * (2 / 2 ^ 64) := by
      gcongr
      exact_mod_cast hn
    rw [hcast, ← mul_sub, abs_mul, abs_of_pos (by positivity : (0 : ℝ) < 2 ^ 32)]
    have hsines := (abs_abs_sub_abs_le _ _).trans (abs_sin_sub_le n)
    calc 2 ^ 32 * |(|Real.sin n| - |(unitPow n).2 / (2 ^ 64 : ℝ) ^ n|)|
        ≤ 2 ^ 32 * (64 * (2 / 2 ^ 64)) := by gcongr; exact hsines.trans hbound
      _ ≤ 1 / 100 := by norm_num
  have hlower : (100 * word + 1) * (2 ^ 64) ^ n ≤ 100 * 2 ^ 32 * ((unitPow n).2.natAbs : ℝ) := by
    exact_mod_cast hword.1
  have hupper : 100 * 2 ^ 32 * ((unitPow n).2.natAbs : ℝ) + (2 ^ 64) ^ n <
      100 * (word + 1) * (2 ^ 64) ^ n := by
    exact_mod_cast hword.2
  rw [← le_div_iff₀ hscale, mul_div_assoc] at hlower
  have hupper' : 100 * 2 ^ 32 * ((unitPow n).2.natAbs / (2 ^ 64) ^ n : ℝ) + 1 <
      100 * (word + 1) := by
    rw [← mul_div_assoc, div_add_one hscale.ne', div_lt_iff₀ hscale]
    exact hupper
  obtain ⟨hbelow, habove⟩ := abs_le.mp hnear
  rw [Nat.floor_eq_iff (by positivity)]
  constructor
  · linarith
  · linarith

end Digest
