import Copresence.Lib.Binary64

/-! Products, quotients, minima, maxima and floors of the numbers of a format, and
a product with a factor below one: rounding never takes it up to the other factor. -/
namespace Floating

namespace Number

variable {f : Format}

/-- The product, rounded. -/
def mul : Number f → Number f → Number f
  | nan, _ | _, nan => nan
  | infinity negative, infinity other => infinity (negative != other)
  | infinity negative, finite x | finite x, infinity negative =>
    if x.value = 0 then nan else infinity (negative != decide (x.value < 0))
  | finite x, finite y => ofRat (x.value * y.value)

/-- The quotient, rounded. Nothing here divides by zero, whose sign the numbers do
not have: it is taken for positive. -/
def div : Number f → Number f → Number f
  | nan, _ | _, nan => nan
  | infinity _, infinity _ => nan
  | infinity negative, finite y => infinity (negative != decide (y.value < 0))
  | finite _, infinity _ => ofRat 0
  | finite x, finite y =>
    if y.value = 0 then
      if x.value = 0 then nan else infinity (decide (x.value < 0))
    else ofRat (x.value / y.value)

instance : Mul (Number f) := ⟨mul⟩
instance : Div (Number f) := ⟨div⟩

/-- The smaller of two numbers, none if either is none. -/
protected def min : Number f → Number f → Number f
  | nan, _ | _, nan => nan
  | x, y => if lt y x then y else x

protected def max : Number f → Number f → Number f
  | nan, _ | _, nan => nan
  | x, y => if lt x y then y else x

def isFinite : Number f → Bool
  | finite _ => true
  | nan | infinity _ => false

/-- The largest integer that is no larger. -/
def floor : Number f → Number f
  | finite x => ofRat ⌊x.value⌋
  | x => x

theorem finite_mul (x y : f.Finite) : finite x * finite y = ofRat (x.value * y.value) := rfl

theorem finite_div (x y : f.Finite) (h : y.value ≠ 0) :
    finite x / finite y = ofRat (x.value / y.value) :=
  if_neg h

theorem min_finite (x y : f.Finite) :
    Number.min (finite x) (finite y) = if y.value < x.value then finite y else finite x := by
  simp [Number.min]

theorem max_finite (x y : f.Finite) :
    Number.max (finite x) (finite y) = if x.value < y.value then finite y else finite x := by
  simp [Number.max]

theorem min_of_not_lt {x : Number f} {y : f.Finite} (some : x ≠ nan)
    (notLess : lt x (finite y) = false) : Number.min (finite y) x = finite y := by
  cases x with
  | nan => exact absurd rfl some
  | infinity | finite => simp [Number.min, notLess]

theorem ofRat_ne_nan (x : ℚ) : (ofRat x : Number f) ≠ nan := by
  rw [ofRat]
  split <;> simp

/-- Rounding takes nothing below a value. -/
theorem not_ofRat_lt_finite {x : ℚ} {y : f.Finite} (nonneg : 0 ≤ x) (above : y.value ≤ x) :
    lt (ofRat x) (finite y) = false := by
  by_cases bounded : |f.nearest x| ≤ f.largest
  · rw [ofRat_eq_finite bounded, lt_finite]
    exact decide_eq_false (not_lt.mpr (Format.le_nearest y.representable above))
  · rw [ofRat, dif_neg bounded]
    exact decide_eq_false (not_lt.mpr nonneg)

theorem largest_nonneg : 0 ≤ f.largest := by
  rw [Format.largest]
  apply mul_nonneg
  · have := one_le_pow₀ (one_le_two (α := ℚ)) (n := f.precision)
    linarith
  · exact (zpow_pos two_pos _).le

theorem infinity_le {x : Number f} (h : x ≠ nan) : le (infinity true) x = true := by
  cases x with
  | nan => exact absurd rfl h
  | infinity | finite => rfl

theorem le_infinity {x : Number f} (h : x ≠ nan) : le x (infinity false) = true := by
  cases x with
  | nan => exact absurd rfl h
  | infinity | finite => simp [le]

theorem ofRat_of_large {x : ℚ} (h : f.largest < f.nearest x) : ofRat x = infinity (f := f) false := by
  have nonneg := largest_nonneg (f := f)
  have natural : ¬ x < 0 := by
    intro negative
    have := Format.nearest_le (f := f) representable_zero negative.le
    linarith
  rw [ofRat, dif_neg (not_le.mpr (lt_of_lt_of_le h (le_abs_self _))), decide_eq_false natural]

theorem ofRat_of_small {x : ℚ} (h : f.nearest x < -f.largest) :
    ofRat x = infinity (f := f) true := by
  have nonneg := largest_nonneg (f := f)
  have negative : x < 0 := by
    by_contra natural
    have := Format.nearest_nonneg (f := f) (not_lt.mp natural)
    linarith
  have outside : f.largest < |f.nearest x| := by
    have := neg_abs_le (f.nearest x)
    linarith
  rw [ofRat, dif_neg (not_le.mpr outside), decide_eq_true negative]

/-- Rounding keeps order, infinities included. -/
theorem ofRat_le_ofRat {x y : ℚ} (h : x ≤ y) : le (ofRat x : Number f) (ofRat y) = true := by
  have rounded := Format.nearest_mono (f := f) h
  rcases lt_or_ge (f.nearest x) (-f.largest) with small | low
  · rw [ofRat_of_small small]
    exact infinity_le (ofRat_ne_nan y)
  · rcases lt_or_ge f.largest (f.nearest y) with large | high
    · rw [ofRat_of_large large]
      exact le_infinity (ofRat_ne_nan x)
    · rw [ofRat_eq_finite (abs_le.mpr ⟨low, by linarith⟩),
        ofRat_eq_finite (abs_le.mpr ⟨by linarith, high⟩), le_finite]
      exact decide_eq_true rounded

/-- A quotient by a positive number keeps order. -/
theorem div_le_div {x y : Number f} {z : f.Finite} (positive : 0 < z.value)
    (h : le x y = true) : le (x / finite z) (y / finite z) = true := by
  have sign : decide (z.value < 0) = false := decide_eq_false (not_lt.mpr positive.le)
  have infinite : ∀ negative : Bool,
      (infinity negative : Number f) / finite z = infinity negative := by
    intro negative
    show infinity (negative != decide (z.value < 0)) = _
    rw [sign, Bool.bne_false]
  have finite_ne : ∀ w : f.Finite, finite w / finite z ≠ nan := by
    intro w
    rw [finite_div w z positive.ne']
    exact ofRat_ne_nan _
  cases x with
  | nan => cases h
  | infinity negative =>
      cases y with
      | nan => cases h
      | infinity other => rwa [infinite, infinite]
      | finite y =>
          rw [infinite, show negative = true from h]
          exact infinity_le (finite_ne y)
  | finite x =>
      cases y with
      | nan => cases h
      | infinity negative =>
          have top : negative = false := by simpa [le] using h
          rw [infinite, top]
          exact le_infinity (finite_ne x)
      | finite y =>
          rw [finite_div x z positive.ne', finite_div y z positive.ne']
          apply ofRat_le_ofRat
          exact div_le_div_of_nonneg_right (of_decide_eq_true h) positive.le

/-- What rounds from below a value is not infinite. -/
theorem exists_ofRat_of_le {x : ℚ} (y : f.Finite) (nonneg : 0 ≤ x) (below : x ≤ y.value) :
    ∃ z : f.Finite, ofRat x = finite z ∧ z.value = f.nearest x := by
  have bounded : |f.nearest x| ≤ f.largest := by
    rw [abs_of_nonneg (Format.nearest_nonneg nonneg)]
    exact (Format.nearest_le y.representable below).trans (abs_le.mp y.bounded).2
  exact ⟨_, ofRat_eq_finite bounded, rfl⟩

end Number

namespace Format

variable {f : Format}

/-- Below one there is a last value. -/
theorem Representable.le_of_lt_one {r : ℚ} (h : f.Representable r) (below : r < 1) :
    r ≤ 1 - 2 ^ (-f.precision : ℤ) := by
  have grid : (0 : ℚ) < 2 ^ (-f.precision : ℤ) := zpow_pos two_pos _
  have unit : (1 : ℚ) = ((2 ^ f.precision : ℤ) : ℚ) * 2 ^ (-f.precision : ℤ) := by
    push_cast
    rw [← zpow_natCast, ← zpow_add₀ two_ne_zero, add_neg_cancel, zpow_zero]
  have half : (2 : ℚ) ^ (-f.precision + f.precision - 1 : ℤ) = 1 / 2 := by
    rw [neg_add_cancel, zero_sub, zpow_neg_one, one_div]
  rcases le_or_gt ((2 : ℚ) ^ (-f.precision + f.precision - 1 : ℤ)) |r| with large | small
  · obtain ⟨n, hn⟩ := h.granular large
    have fewer : n + 1 ≤ 2 ^ f.precision := by
      have less : (n : ℚ) * 2 ^ (-f.precision : ℤ) <
          ((2 ^ f.precision : ℤ) : ℚ) * 2 ^ (-f.precision : ℤ) := by
        rw [← unit, ← hn]
        exact below
      exact_mod_cast lt_of_mul_lt_mul_right less grid.le
    have step : ((n : ℚ) + 1) * 2 ^ (-f.precision : ℤ) ≤ 1 := by
      apply le_of_le_of_eq _ unit.symm
      apply mul_le_mul_of_nonneg_right _ grid.le
      exact_mod_cast fewer
    rw [hn]
    linarith
  · rw [half] at small
    have digit : (2 : ℚ) ^ (-f.precision : ℤ) ≤ 1 / 2 := by
      have first : (2 : ℚ) ^ (-f.precision : ℤ) ≤ 2 ^ (-1 : ℤ) := by
        apply zpow_le_zpow_right₀ one_le_two
        have := f.positive
        omega
      rwa [zpow_neg_one, ← one_div] at first
    have := (abs_lt.mp small).2
    linarith

/-- Half the distance of the values around a number is small against the number. -/
theorem half_ulp_le {y : ℚ} (positive : 0 < y) (h : f.least < f.exponent y) :
    f.ulp y / 2 ≤ y * 2 ^ (-f.precision : ℤ) := by
  have filled := le_abs_exponent (f := f) positive.ne' (e := f.exponent y - 1) (by omega) (by omega)
  rw [abs_of_pos positive] at filled
  have grid : (0 : ℚ) < 2 ^ (-f.precision : ℤ) := zpow_pos two_pos _
  calc f.ulp y / 2 = 2 ^ (f.precision + (f.exponent y - 1)) * 2 ^ (-f.precision : ℤ) := by
        rw [← zpow_add₀ two_ne_zero, ulp, div_eq_mul_inv, ← zpow_neg_one, ← zpow_add₀ two_ne_zero]
        congr 1
        ring
    _ ≤ y * 2 ^ (-f.precision : ℤ) := mul_le_mul_of_nonneg_right filled grid.le

/-- A value below one takes a part of a number that is not rounded to the whole. -/
theorem nearest_mul_lt {r e : ℚ} (fine : f.least ≤ -f.precision) (hr : f.Representable r)
    (nonneg : 0 ≤ r) (below : r < 1) (large : 1 ≤ e) : f.nearest (r * e) < e := by
  have grid : (0 : ℚ) < 2 ^ (-f.precision : ℤ) := zpow_pos two_pos _
  have whole : 0 < e := by linarith
  rcases nonneg.eq_or_lt with rfl | positive
  · rw [zero_mul, nearest_zero]
    exact whole
  have part : r * e < e := by
    have := mul_lt_mul_of_pos_right below whole
    rwa [one_mul] at this
  by_contra reached
  have missing : e * 2 ^ (-f.precision : ℤ) ≤ e - r * e := by
    have last := mul_le_mul_of_nonneg_right (hr.le_of_lt_one below) whole.le
    linarith
  have near := (abs_le.mp (abs_sub_nearest (f := f) (r * e))).1
  rcases (least_le_exponent (f := f) (r * e)).eq_or_lt with shallow | deep
  · have distance : f.ulp (r * e) ≤ 2 ^ (-f.precision : ℤ) := by
      rw [ulp, ← shallow]
      exact zpow_le_zpow_right₀ one_le_two fine
    have unit := mul_le_mul_of_nonneg_right large grid.le
    linarith
  · have distance := half_ulp_le (mul_pos positive whole) deep
    have less := mul_lt_mul_of_pos_right part grid
    linarith

end Format

/-- So few digits are exact. -/
theorem exists_ofRat_natCast {n : ℕ} (h : n ≤ 2 ^ 53) :
    ∃ x : binary64.Finite, (Number.ofRat n : Number binary64) = .finite x ∧ x.value = n := by
  have within : |(n : ℤ)| ≤ 2 ^ 53 := by
    rw [abs_of_nonneg (Int.natCast_nonneg n)]
    exact_mod_cast h
  exact ⟨integer n within, ofRat_intCast within, rfl⟩

end Floating
