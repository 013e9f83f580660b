import Mathlib.Data.Int.Log
import Mathlib.Data.Rat.Floor
import Mathlib.Algebra.Order.Field.Power
import Mathlib.Algebra.Ring.Int.Parity
import Mathlib.Tactic.Linarith
import Mathlib.Tactic.Ring

/-! Binary floating-point formats: the rationals a format represents, and
rounding to the nearest of them, ties to even. -/
namespace Floating

/-- The nearest integer, the even one of two. -/
def roundEven (x : ℚ) : ℤ :=
  if Int.fract x < 1 / 2 ∨ Int.fract x = 1 / 2 ∧ Even ⌊x⌋ then ⌊x⌋ else ⌊x⌋ + 1

/-- Two integers this near to one number are the same. -/
private theorem near_unique {x : ℚ} {m n : ℤ}
    (hm : |x - m| < 1 / 2 ∨ |x - m| = 1 / 2 ∧ Even m)
    (hn : |x - n| < 1 / 2 ∨ |x - n| = 1 / 2 ∧ Even n) (h : m < n) : False := by
  have step : (m : ℚ) + 1 ≤ n := by exact_mod_cast h
  have below := neg_abs_le (x - n)
  have above := le_abs_self (x - m)
  have halfM : |x - m| ≤ 1 / 2 := hm.elim le_of_lt fun tie => le_of_eq tie.1
  have halfN : |x - n| ≤ 1 / 2 := hn.elim le_of_lt fun tie => le_of_eq tie.1
  have evenM : Even m := by
    rcases hm with hm | hm
    · linarith
    · exact hm.2
  have evenN : Even n := by
    rcases hn with hn | hn
    · linarith
    · exact hn.2
  have apart : n = m + 1 := by
    have : (n : ℚ) = ((m + 1 : ℤ) : ℚ) := by
      push_cast
      linarith
    exact_mod_cast this
  rw [apart] at evenN
  exact Int.not_even_iff_odd.mpr evenM.add_one evenN

/-- Rounding to an integer is to be nearest to it, and at half to be even. -/
theorem roundEven_eq_iff {x : ℚ} {n : ℤ} :
    roundEven x = n ↔ |x - n| < 1 / 2 ∨ |x - n| = 1 / 2 ∧ Even n := by
  have near : |x - roundEven x| < 1 / 2 ∨ |x - roundEven x| = 1 / 2 ∧ Even (roundEven x) := by
    have split := Int.self_sub_floor x
    have start := Int.fract_nonneg x
    have stop := Int.fract_lt_one x
    rw [roundEven]
    by_cases down : Int.fract x < 1 / 2 ∨ Int.fract x = 1 / 2 ∧ Even ⌊x⌋
    · rw [if_pos down, split, abs_of_nonneg start]
      exact down
    · rw [if_neg down]
      rw [not_or, not_and, not_lt] at down
      have dist : |x - ((⌊x⌋ + 1 : ℤ) : ℚ)| = 1 - Int.fract x := by
        push_cast
        rw [abs_of_nonpos (by linarith)]
        linarith
      rw [dist]
      rcases down.1.lt_or_eq with high | tie
      · left
        linarith
      · right
        have odd := Int.not_even_iff_odd.mp (down.2 tie.symm)
        exact ⟨by linarith, odd.add_one⟩
  constructor
  · intro h
    rw [h] at near
    exact near
  · intro h
    rcases lt_trichotomy (roundEven x) n with less | same | more
    · exact (near_unique near h less).elim
    · exact same
    · exact (near_unique h near more).elim

/-- The error is at most one half. -/
theorem abs_sub_roundEven (x : ℚ) : |x - roundEven x| ≤ 1 / 2 :=
  (roundEven_eq_iff.mp (Eq.refl (roundEven x))).elim le_of_lt fun tie => le_of_eq tie.1

/-- Integers are rounded to themselves. -/
@[simp] theorem roundEven_intCast (n : ℤ) : roundEven n = n := by
  rw [roundEven_eq_iff]
  left
  simp

/-- Rounding is the same on both sides of zero. -/
theorem roundEven_neg (x : ℚ) : roundEven (-x) = -roundEven x := by
  rw [roundEven_eq_iff]
  have mirrored : |-x - ((-roundEven x : ℤ) : ℚ)| = |x - roundEven x| := by
    push_cast
    rw [← abs_neg]
    congr 1
    ring
  rw [mirrored, even_neg]
  exact roundEven_eq_iff.mp rfl

/-- Rounding keeps the order. -/
theorem roundEven_mono {x y : ℚ} (h : x ≤ y) : roundEven x ≤ roundEven y := by
  by_contra hlt
  have step : (roundEven y : ℚ) + 1 ≤ roundEven x := by exact_mod_cast not_le.mp hlt
  have below := (abs_le.mp (abs_sub_roundEven x)).1
  have above := (abs_le.mp (abs_sub_roundEven y)).2
  have same : x = y := by linarith
  rw [same] at hlt
  exact hlt le_rfl

/-- What is above an integer is not rounded below it. -/
theorem le_roundEven {x : ℚ} {n : ℤ} (h : (n : ℚ) ≤ x) : n ≤ roundEven x := by
  simpa using roundEven_mono h

/-- What is below an integer is not rounded above it. -/
theorem roundEven_le {x : ℚ} {n : ℤ} (h : x ≤ n) : roundEven x ≤ n := by
  simpa using roundEven_mono h

/-- The shape of a format: how many digits its values have, and the exponents
of the last digit of the smallest and of the largest ones. -/
structure Format where
  precision : ℕ
  least : ℤ
  greatest : ℤ
  positive : 0 < precision

namespace Format

variable (f : Format)

/-- The exponent of the last digit of the values around `x`. -/
def exponent (x : ℚ) : ℤ := max f.least (Int.log 2 |x| + 1 - f.precision)

/-- The distance of the values around `x`. -/
def ulp (x : ℚ) : ℚ := 2 ^ f.exponent x

/-- The value nearest to `x`, of two the one with an even last digit. The
exponents have no upper end here. -/
def nearest (x : ℚ) : ℚ := roundEven (x / f.ulp x) * f.ulp x

def Representable (x : ℚ) : Prop :=
  ∃ m e : ℤ, f.least ≤ e ∧ |m| < 2 ^ f.precision ∧ x = m * 2 ^ e

variable {f}

theorem ulp_pos (x : ℚ) : 0 < f.ulp x := zpow_pos two_pos _

theorem least_le_exponent (x : ℚ) : f.least ≤ f.exponent x := le_max_left _ _

/-- The exponent does not see the sign. -/
@[simp] theorem exponent_neg (x : ℚ) : f.exponent (-x) = f.exponent x := by
  rw [exponent, exponent, abs_neg]

/-- The unit in the last place does not see the sign. -/
@[simp] theorem ulp_neg (x : ℚ) : f.ulp (-x) = f.ulp x := by
  rw [ulp, ulp, exponent_neg]

/-- The exponent of a number leaves room for it. -/
theorem abs_lt_exponent (x : ℚ) : |x| < 2 ^ (f.precision + f.exponent x) := by
  have bound := Int.lt_zpow_succ_log_self (R := ℚ) one_lt_two |x|
  rw [Nat.cast_two] at bound
  apply lt_of_lt_of_le bound
  apply zpow_le_zpow_right₀ one_le_two
  have := le_max_right f.least (Int.log 2 |x| + 1 - f.precision)
  rw [exponent]
  omega

/-- An exponent is at least that of a number exactly when it leaves room for the number. -/
theorem exponent_le_iff {x : ℚ} (h : x ≠ 0) {e : ℤ} (least : f.least ≤ e) :
    f.exponent x ≤ e ↔ |x| < 2 ^ (f.precision + e) := by
  have digits := Int.lt_zpow_iff_log_lt one_lt_two (x := f.precision + e) (abs_pos.mpr h)
  rw [Nat.cast_two] at digits
  rw [digits, exponent, max_le_iff]
  omega

/-- The larger number has the larger exponent. -/
theorem exponent_mono {x y : ℚ} (hx : x ≠ 0) (h : |x| ≤ |y|) : f.exponent x ≤ f.exponent y :=
  (exponent_le_iff hx (least_le_exponent y)).mpr (lt_of_le_of_lt h (abs_lt_exponent y))

/-- Above the smallest exponent a number fills all its digits. -/
theorem le_abs_exponent {x : ℚ} (h : x ≠ 0) {e : ℤ} (least : f.least ≤ e)
    (above : e < f.exponent x) : 2 ^ (f.precision + e) ≤ |x| := by
  by_contra hlt
  have := (exponent_le_iff h least).mpr (not_le.mp hlt)
  omega

@[simp] theorem nearest_zero : f.nearest 0 = 0 := by
  rw [nearest, zero_div, ← Int.cast_zero, roundEven_intCast, Int.cast_zero, zero_mul]

/-- The nearest number is the same on both sides of zero. -/
theorem nearest_neg (x : ℚ) : f.nearest (-x) = -f.nearest x := by
  rw [nearest, nearest, ulp_neg, neg_div, roundEven_neg]
  push_cast
  ring

/-- A multiple of the distance around `x` that is close enough is the nearest
value. -/
theorem nearest_eq {x : ℚ} {n : ℤ}
    (h : |x - n * f.ulp x| < f.ulp x / 2 ∨ |x - n * f.ulp x| = f.ulp x / 2 ∧ Even n) :
    f.nearest x = n * f.ulp x := by
  have positive : 0 < f.ulp x := ulp_pos x
  have scaled : |x / f.ulp x - n| = |x - n * f.ulp x| / f.ulp x := by
    rw [← abs_of_pos positive, ← abs_div, abs_of_pos positive, sub_div,
      mul_div_cancel_right₀ _ positive.ne']
  have half : f.ulp x / 2 / f.ulp x = 1 / 2 := by
    rw [div_right_comm, div_self positive.ne']
  rw [nearest]
  congr 2
  rw [roundEven_eq_iff, scaled, ← half]
  rcases h with closer | tie
  · left
    exact div_lt_div_of_pos_right closer positive
  · right
    exact ⟨by rw [tie.1], tie.2⟩

/-- Rounding moves a number by half a distance at most. -/
theorem abs_sub_nearest (x : ℚ) : |x - f.nearest x| ≤ f.ulp x / 2 := by
  have positive : 0 < f.ulp x := ulp_pos x
  have scaled : x - f.nearest x = (x / f.ulp x - roundEven (x / f.ulp x)) * f.ulp x := by
    rw [sub_mul, div_mul_cancel₀ _ positive.ne', nearest]
  rw [scaled, abs_mul, abs_of_pos positive]
  have := mul_le_mul_of_nonneg_right (abs_sub_roundEven (x / f.ulp x)) positive.le
  linarith

/-- A power of two is a whole number of any smaller one. -/
theorem zpow_eq_mul_zpow {e e' : ℤ} (h : e ≤ e') :
    (2 : ℚ) ^ e' = ((2 ^ (e' - e).toNat : ℤ) : ℚ) * 2 ^ e := by
  push_cast
  rw [← zpow_natCast, ← zpow_add₀ two_ne_zero]
  congr 1
  omega

/-- An integer of few digits is small against its exponent. -/
private theorem abs_mul_zpow_lt {m e : ℤ} (digits : |m| < 2 ^ f.precision) :
    |(m : ℚ) * 2 ^ e| < 2 ^ (f.precision + e) := by
  have grid : (0 : ℚ) < 2 ^ e := zpow_pos two_pos e
  rw [zpow_add₀ two_ne_zero, zpow_natCast, abs_mul, abs_of_pos grid]
  apply mul_lt_mul_of_pos_right _ grid
  exact_mod_cast digits

/-- A number of the format is its own nearest. -/
theorem nearest_of_representable {x : ℚ} (h : f.Representable x) : f.nearest x = x := by
  obtain ⟨m, e, least, digits, rfl⟩ := h
  by_cases zero : (m : ℚ) * 2 ^ e = 0
  · rw [zero, nearest_zero]
  have coarser := (exponent_le_iff zero least).mpr (abs_mul_zpow_lt digits)
  have whole : (m : ℚ) * 2 ^ e =
      ((m * 2 ^ (e - f.exponent (m * 2 ^ e)).toNat : ℤ) : ℚ) * f.ulp (m * 2 ^ e) := by
    conv_lhs => rw [zpow_eq_mul_zpow coarser]
    rw [ulp]
    push_cast
    ring
  conv_rhs => rw [whole]
  apply nearest_eq
  left
  rw [← whole, sub_self, abs_zero]
  exact half_pos (ulp_pos _)

/-- One digit too many is none if the last one is 0. -/
theorem representable_of_abs_le {m e : ℤ} (least : f.least ≤ e) (h : |m| ≤ 2 ^ f.precision) :
    f.Representable (m * 2 ^ e) := by
  rcases h.lt_or_eq with digits | full
  · exact ⟨m, e, least, digits, rfl⟩
  · have split : (2 : ℤ) ^ f.precision = 2 ^ (f.precision - 1) * 2 := by
      rw [← pow_succ, Nat.sub_add_cancel f.positive]
    have fewer : |(2 : ℤ) ^ (f.precision - 1)| < 2 ^ f.precision := by
      rw [abs_of_pos (by positivity)]
      exact pow_lt_pow_right₀ one_lt_two (Nat.sub_lt f.positive one_pos)
    rcases eq_or_eq_neg_of_abs_eq full with rfl | rfl
    · refine ⟨2 ^ (f.precision - 1), e + 1, by omega, fewer, ?_⟩
      rw [split, zpow_add_one₀ two_ne_zero]
      push_cast
      ring
    · refine ⟨-2 ^ (f.precision - 1), e + 1, by omega, by rwa [abs_neg], ?_⟩
      rw [split, zpow_add_one₀ two_ne_zero]
      push_cast
      ring

/-- The nearest number is one of the format. -/
theorem representable_nearest (x : ℚ) : f.Representable (f.nearest x) := by
  have positive : 0 < f.ulp x := ulp_pos x
  have scaled : |x / f.ulp x| ≤ ((2 ^ f.precision : ℤ) : ℚ) := by
    rw [abs_div, abs_of_pos positive, div_le_iff₀ positive, ulp]
    push_cast
    rw [← zpow_natCast, ← zpow_add₀ two_ne_zero]
    exact (abs_lt_exponent x).le
  have low : -2 ^ f.precision ≤ roundEven (x / f.ulp x) := by
    apply le_roundEven
    have := (abs_le.mp scaled).1
    push_cast at this ⊢
    exact this
  have high := roundEven_le (abs_le.mp scaled).2
  exact representable_of_abs_le (least_le_exponent x) (abs_le.mpr ⟨low, high⟩)

/-- What is not negative is not rounded below zero. -/
theorem nearest_nonneg {x : ℚ} (h : 0 ≤ x) : 0 ≤ f.nearest x := by
  have whole : (0 : ℤ) ≤ roundEven (x / f.ulp x) := by
    apply le_roundEven
    rw [Int.cast_zero]
    exact div_nonneg h (ulp_pos x).le
  exact mul_nonneg (by exact_mod_cast whole) (ulp_pos x).le

/-- The nearest numbers keep the order of what is positive. -/
private theorem nearest_mono_of_pos {x y : ℚ} (hx : 0 < x) (h : x ≤ y) :
    f.nearest x ≤ f.nearest y := by
  have hy : 0 < y := lt_of_lt_of_le hx h
  have finer : f.exponent x ≤ f.exponent y := by
    apply exponent_mono hx.ne'
    rwa [abs_of_pos hx, abs_of_pos hy]
  rcases finer.lt_or_eq with finer | same
  -- The power of two where the distance grows lies between the two results.
  · have lower := lt_of_lt_of_le (abs_lt_exponent (f := f) x)
      (zpow_le_zpow_right₀ one_le_two (by omega : f.precision + f.exponent x ≤
        f.precision + (f.exponent y - 1)))
    have upper : (2 : ℚ) ^ (f.precision + (f.exponent y - 1)) ≤ |y| := by
      apply le_abs_exponent hy.ne'
      · have := least_le_exponent (f := f) x
        omega
      · omega
    rw [abs_of_pos hx] at lower
    rw [abs_of_pos hy] at upper
    have boundary : ∀ z : ℚ, f.exponent z ≤ f.precision + (f.exponent y - 1) →
        ∃ n : ℤ, (2 : ℚ) ^ (f.precision + (f.exponent y - 1)) = n * f.ulp z :=
      fun z hz => ⟨_, zpow_eq_mul_zpow hz⟩
    have positive := f.positive
    obtain ⟨m, hm⟩ := boundary x (by omega)
    obtain ⟨n, hn⟩ := boundary y (by omega)
    have left : f.nearest x ≤ m * f.ulp x := by
      apply mul_le_mul_of_nonneg_right _ (ulp_pos x).le
      have : x / f.ulp x ≤ m := by
        rw [div_le_iff₀ (ulp_pos x), ← hm]
        exact lower.le
      exact_mod_cast roundEven_le this
    have right : n * f.ulp y ≤ f.nearest y := by
      apply mul_le_mul_of_nonneg_right _ (ulp_pos y).le
      have : (n : ℚ) ≤ y / f.ulp y := by
        rw [le_div_iff₀ (ulp_pos y), ← hn]
        exact upper
      exact_mod_cast le_roundEven this
    linarith
  · have ulps : f.ulp x = f.ulp y := by rw [ulp, ulp, same]
    rw [nearest, nearest, ulps]
    apply mul_le_mul_of_nonneg_right _ (ulp_pos y).le
    exact_mod_cast roundEven_mono (div_le_div_of_nonneg_right h (ulp_pos y).le)

/-- The nearest numbers keep the order of all. -/
theorem nearest_mono {x y : ℚ} (h : x ≤ y) : f.nearest x ≤ f.nearest y := by
  have nonpos : ∀ {z : ℚ}, z ≤ 0 → f.nearest z ≤ 0 := by
    intro z hz
    have := nearest_nonneg (f := f) (neg_nonneg.mpr hz)
    rw [nearest_neg] at this
    linarith
  rcases lt_or_ge 0 x with hx | hx
  · exact nearest_mono_of_pos hx h
  · rcases lt_or_ge y 0 with hy | hy
    · have := nearest_mono_of_pos (f := f) (neg_pos.mpr hy) (neg_le_neg h)
      rw [nearest_neg, nearest_neg] at this
      linarith
    · exact (nonpos hx).trans (nearest_nonneg hy)

/-- What is above a number of the format is not rounded below it. -/
theorem le_nearest {x y : ℚ} (hx : f.Representable x) (h : x ≤ y) : x ≤ f.nearest y := by
  rw [← nearest_of_representable hx]
  exact nearest_mono h

/-- What is below one is not rounded above it. -/
theorem nearest_le {x y : ℚ} (hy : f.Representable y) (h : x ≤ y) : f.nearest x ≤ y := by
  rw [← nearest_of_representable hy]
  exact nearest_mono h

/-- The format has each number with both signs. -/
theorem Representable.neg {x : ℚ} (h : f.Representable x) : f.Representable (-x) := by
  rw [← nearest_of_representable h, ← nearest_neg]
  exact representable_nearest _

/-- Every integer of so few digits is a value of the format. -/
theorem representable_intCast (least : f.least ≤ 0) {n : ℤ} (h : |n| ≤ 2 ^ f.precision) :
    f.Representable n := by
  have := representable_of_abs_le least h
  rwa [zpow_zero, mul_one] at this

/-- A value that fills its digits has none after the last. -/
theorem Representable.granular {x : ℚ} (h : f.Representable x) {k : ℤ}
    (large : (2 : ℚ) ^ (k + f.precision - 1) ≤ |x|) : ∃ n : ℤ, x = n * 2 ^ k := by
  obtain ⟨m, e, _, digits, rfl⟩ := h
  have coarse : k ≤ e := by
    have := (zpow_lt_zpow_iff_right₀ one_lt_two).mp (lt_of_le_of_lt large (abs_mul_zpow_lt digits))
    omega
  refine ⟨m * 2 ^ (e - k).toNat, ?_⟩
  rw [zpow_eq_mul_zpow coarse]
  push_cast
  ring

/-- Every number of the format is a multiple of the least unit. -/
theorem Representable.exists_mul_least {x : ℚ} (h : f.Representable x) :
    ∃ n : ℤ, x = n * 2 ^ f.least := by
  obtain ⟨m, e, least, _, rfl⟩ := h
  refine ⟨m * 2 ^ (e - f.least).toNat, ?_⟩
  rw [zpow_eq_mul_zpow least]
  push_cast
  ring

/-- The difference of two values is never rounded to nothing. -/
theorem nearest_sub_pos {x y : ℚ} (hx : f.Representable x) (hy : f.Representable y) (h : x < y) :
    0 < f.nearest (y - x) := by
  have grid : (0 : ℚ) < 2 ^ f.least := zpow_pos two_pos _
  obtain ⟨m, rfl⟩ := hx.exists_mul_least
  obtain ⟨n, rfl⟩ := hy.exists_mul_least
  have apart : m + 1 ≤ n := by
    have less := (mul_lt_mul_iff_left₀ grid).mp h
    exact_mod_cast less
  have step : (2 : ℚ) ^ f.least ≤ n * 2 ^ f.least - m * 2 ^ f.least := by
    have apart' : ((m : ℚ) + 1) * 2 ^ f.least ≤ n * 2 ^ f.least := by
      apply mul_le_mul_of_nonneg_right _ grid.le
      exact_mod_cast apart
    linarith
  have smallest : f.Representable (2 ^ f.least) := by
    have one := representable_of_abs_le (f := f) (m := 1) (le_refl f.least) (by
      rw [abs_one]
      exact one_le_pow₀ one_le_two)
    rwa [Int.cast_one, one_mul] at one
  exact grid.trans_le (le_nearest smallest step)

end Format

end Floating
