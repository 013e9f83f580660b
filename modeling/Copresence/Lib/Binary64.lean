import Mathlib.Tactic.NormNum
import Copresence.Lib.Floating

/-! The numbers of a binary floating-point format with their infinities and
the one that is none, and counting by ones in the format of 64 bits. The two
zeros are one number: no sum or comparison of the others tells them apart. -/
namespace Floating

/-- The largest value of the format. -/
def Format.largest (f : Format) : ℚ := (2 ^ f.precision - 1) * 2 ^ f.greatest

/-- A finite value of the format. -/
structure Format.Finite (f : Format) where
  value : ℚ
  representable : f.Representable value
  bounded : |value| ≤ f.largest
deriving DecidableEq

inductive Number (f : Format) where
  | nan
  | infinity (negative : Bool)
  | finite (x : f.Finite)
deriving DecidableEq

namespace Number

variable {f : Format}

/-- A rational rounded to the format, infinite where it is too large for it. -/
def ofRat (x : ℚ) : Number f :=
  if h : |f.nearest x| ≤ f.largest then finite ⟨f.nearest x, Format.representable_nearest x, h⟩
  else infinity (decide (x < 0))

def neg : Number f → Number f
  | nan => nan
  | infinity negative => infinity (!negative)
  | finite x => finite ⟨-x.value, x.representable.neg, by rw [abs_neg]; exact x.bounded⟩

/-- The sum, rounded. -/
def add : Number f → Number f → Number f
  | nan, _ | _, nan => nan
  | infinity negative, infinity other => if negative = other then infinity negative else nan
  | infinity negative, finite _ | finite _, infinity negative => infinity negative
  | finite x, finite y => ofRat (x.value + y.value)

instance : Add (Number f) := ⟨add⟩
instance : Sub (Number f) := ⟨fun x y => add x (neg y)⟩

/-- Whether one number is less than another; nothing compares to `nan`. -/
def lt : Number f → Number f → Bool
  | nan, _ | _, nan => false
  | infinity negative, infinity other => negative && !other
  | infinity negative, finite _ => negative
  | finite _, infinity negative => !negative
  | finite x, finite y => decide (x.value < y.value)

def le : Number f → Number f → Bool
  | nan, _ | _, nan => false
  | infinity negative, infinity other => negative || !other
  | infinity negative, finite _ => negative
  | finite _, infinity negative => !negative
  | finite x, finite y => decide (x.value ≤ y.value)

@[simp] theorem lt_finite (x y : f.Finite) :
    lt (finite x) (finite y) = decide (x.value < y.value) := rfl

@[simp] theorem le_finite (x y : f.Finite) :
    le (finite x) (finite y) = decide (x.value ≤ y.value) := rfl

theorem finite_add (x y : f.Finite) : finite x + finite y = ofRat (x.value + y.value) := rfl

theorem finite_sub (x y : f.Finite) : finite x - finite y = ofRat (x.value - y.value) := by
  rw [sub_eq_add_neg]
  rfl

/-- A rational that rounds into the range is a finite number. -/
theorem ofRat_eq_finite {x : ℚ} (h : |f.nearest x| ≤ f.largest) :
    ofRat x = finite ⟨f.nearest x, Format.representable_nearest x, h⟩ :=
  dif_pos h

/-- A value of the format is its own rounding. -/
theorem ofRat_value (x : f.Finite) : ofRat x.value = finite x := by
  have same : f.nearest x.value = x.value := Format.nearest_of_representable x.representable
  rw [ofRat_eq_finite (by rw [same]; exact x.bounded)]
  congr 2

/-- A rounded number is compared by its rounding also where that is infinite. -/
theorem ofRat_le_finite {x : ℚ} (h : 0 ≤ x) (y : f.Finite) :
    le (ofRat x) (finite y) = true ↔ f.nearest x ≤ y.value := by
  by_cases bounded : |f.nearest x| ≤ f.largest
  · rw [ofRat_eq_finite bounded]
    simp
  · have large := not_le.mp bounded
    rw [abs_of_nonneg (Format.nearest_nonneg h)] at large
    have top := (abs_le.mp y.bounded).2
    rw [ofRat, dif_neg bounded]
    simp only [le, decide_eq_true_eq]
    constructor
    · intro negative
      linarith
    · intro
      linarith

theorem representable_zero : f.Representable 0 := by
  rw [← Format.nearest_zero (f := f)]
  exact Format.representable_nearest 0

/-- A format with any value has zero. -/
theorem exists_ofRat_zero (x : f.Finite) :
    ∃ zero : f.Finite, zero.value = 0 ∧ ofRat 0 = finite zero := by
  have bounded : |(0 : ℚ)| ≤ f.largest := by
    rw [abs_zero]
    exact (abs_nonneg x.value).trans x.bounded
  let zero : f.Finite := ⟨0, representable_zero, bounded⟩
  exact ⟨zero, rfl, ofRat_value zero⟩

/-- Being below zero is being below it as a rational. -/
theorem lt_zero_iff (x : f.Finite) : lt (finite x) (ofRat 0) = true ↔ x.value < 0 := by
  obtain ⟨zero, isZero, same⟩ := exists_ofRat_zero x
  rw [same, lt_finite, isZero, decide_eq_true_iff]

/-- The sign of a rounded difference is that of the difference. -/
theorem sub_le_zero_iff (x y : f.Finite) :
    le (finite x - finite y) (ofRat 0) = true ↔ x.value ≤ y.value := by
  obtain ⟨zero, isZero, same⟩ := exists_ofRat_zero x
  rw [finite_sub, same]
  constructor
  · intro le
    by_contra more
    have less := not_le.mp more
    rw [ofRat_le_finite (sub_nonneg.mpr less.le), isZero] at le
    have positive := Format.nearest_sub_pos y.representable x.representable less
    exact absurd le (not_le.mpr positive)
  · intro h
    have below : f.nearest (x.value - y.value) ≤ 0 :=
      Format.nearest_le representable_zero (sub_nonpos.mpr h)
    by_cases bounded : |f.nearest (x.value - y.value)| ≤ f.largest
    · rw [ofRat_eq_finite bounded, le_finite, isZero]
      exact decide_eq_true below
    · have negative : x.value - y.value < 0 := by
        apply lt_of_le_of_ne (sub_nonpos.mpr h)
        intro none
        rw [none, Format.nearest_zero] at bounded
        exact bounded (by rw [abs_zero]; exact (abs_nonneg x.value).trans x.bounded)
      rw [ofRat, dif_neg bounded]
      exact decide_eq_true negative

end Number

/-- The format of 64 bits. -/
def binary64 : Format := ⟨53, -1074, 971, by decide⟩

section Counting

variable {c : ℚ}

/-- Integers up to two to the 53rd are represented. -/
theorem representable_int {n : ℤ} (h : |n| ≤ 2 ^ 53) : binary64.Representable n :=
  Format.representable_intCast (f := binary64) (by decide) h

/-- From here on every value is even. -/
theorem even_of_large (h : binary64.Representable c) (large : 2 ^ 53 ≤ |c|) :
    ∃ n : ℤ, c = 2 * n := by
  obtain ⟨n, hn⟩ := h.granular (k := 1) (by
    norm_num [binary64]
    norm_num at large
    exact large)
  exact ⟨n, by rw [hn, zpow_one, mul_comm]⟩

/-- There a multiple of four is a whole number of the distances around the number
after it, which are even. -/
private theorem exists_mul_ulp_of_four {k : ℤ} (h : binary64.Representable (4 * k))
    (large : 2 ^ 53 ≤ |(4 * k + 1 : ℚ)|) :
    ∃ (d : ℕ) (n : ℤ), binary64.ulp (4 * k + 1) = 2 * 2 ^ d ∧
      (4 * k : ℚ) = n * binary64.ulp (4 * k + 1) := by
  have nonzero : (4 * k + 1 : ℚ) ≠ 0 := by
    intro zero
    norm_num [zero] at large
  obtain ⟨d, hd⟩ : ∃ d : ℕ, binary64.exponent (4 * k + 1) = d + 1 := by
    have units : ¬binary64.exponent (4 * k + 1) ≤ 0 := by
      rw [Format.exponent_le_iff nonzero (by decide), not_lt]
      norm_num [binary64]
      norm_num at large
      exact large
    exact ⟨(binary64.exponent (4 * k + 1) - 1).toNat, by omega⟩
  have size : (2 : ℤ) ^ (53 + d) ≤ |4 * k + 1| := by
    have filled := Format.le_abs_exponent (f := binary64) nonzero (e := d) (by
      simp [binary64]) (by omega)
    have size : (2 : ℚ) ^ (53 + d) ≤ |(4 * k + 1 : ℚ)| := by
      rw [← zpow_natCast]
      exact_mod_cast filled
    exact_mod_cast size
  -- The value without the one is just as large.
  have size' : (2 : ℤ) ^ (53 + d) ≤ |4 * k| := by
    have fourfold : (2 : ℤ) ^ (53 + d) = 2 ^ (51 + d) * 4 := by ring
    rw [fourfold] at size ⊢
    generalize (2 : ℤ) ^ (51 + d) = power at size ⊢
    rcases le_or_gt 0 k with natural | negative
    · rw [abs_of_nonneg (by omega)] at size ⊢
      omega
    · rw [abs_of_neg (by omega)] at size ⊢
      omega
  obtain ⟨n, hn⟩ := h.granular (k := d + 1) (by
    have exponents : (d : ℤ) + 1 + binary64.precision - 1 = (53 + d : ℕ) := by
      simp [binary64]
      ring
    rw [exponents, zpow_natCast]
    exact_mod_cast size')
  refine ⟨d, n, ?_, ?_⟩
  · rw [Format.ulp, hd, zpow_add_one₀ two_ne_zero, zpow_natCast, mul_comm]
  · rw [Format.ulp, hd]
    exact hn

/-- There adding one to a multiple of four is lost. -/
theorem nearest_add_one_of_four {k : ℤ} (h : binary64.Representable (4 * k))
    (large : 2 ^ 53 ≤ |(4 * k + 1 : ℚ)|) : binary64.nearest (4 * k + 1) = 4 * k := by
  obtain ⟨d, n, place, whole⟩ := exists_mul_ulp_of_four h large
  have dist : |(4 * k + 1 : ℚ) - n * binary64.ulp (4 * k + 1)| = 1 := by
    rw [← whole, add_sub_cancel_left, abs_one]
  have rounded := Format.nearest_eq (f := binary64) (x := 4 * k + 1) (n := n) (by
    rw [dist, place, mul_div_cancel_left₀ _ two_ne_zero]
    cases d with
    | zero =>
        right
        have even : k * 4 = n * 2 := by
          rw [place, pow_zero, mul_one] at whole
          have : (k : ℚ) * 4 = n * 2 := by linarith
          exact_mod_cast this
        exact ⟨by rw [pow_zero], ⟨k, by omega⟩⟩
    | succ d =>
        left
        exact one_lt_pow₀ one_lt_two (Nat.succ_ne_zero d))
  rw [rounded, ← whole]

example : binary64.nearest (2 ^ 53 + 1) = 2 ^ 53 ∧ binary64.nearest (2 ^ 53 + 3) = 2 ^ 53 + 4 := by
  decide +kernel

/-- The numbers from which on a step by one is lost, upwards and downwards. -/
private theorem large_add {d : ℚ} (large : 2 ^ 53 < c ∨ c < -2 ^ 53 - 2) (low : 0 ≤ d)
    (high : d ≤ 2) : 2 ^ 53 ≤ |c + d| := by
  rw [le_abs]
  rcases large with above | below
  · left
    linarith
  · right
    linarith

/-- A value that four does not divide is no further out than 2 ^ 54. -/
private theorem abs_lt_of_odd_half {k : ℤ}
    (h : binary64.Representable (2 * ((2 * k + 1 : ℤ) : ℚ))) : |2 * k + 1| < 2 ^ 53 := by
  by_contra beyond
  obtain ⟨j, hj⟩ := h.granular (k := 2) (by
    have : (2 ^ 53 : ℚ) ≤ |((2 * k + 1 : ℤ) : ℚ)| := by exact_mod_cast not_lt.mp beyond
    rw [abs_mul]
    norm_num [binary64] at this ⊢
    linarith)
  norm_num at hj
  have : 2 * (2 * k + 1) = j * 4 := by exact_mod_cast hj
  omega

/-- Twice an odd integer, plus two, is represented. -/
private theorem representable_add_two {k : ℤ} (inside : |2 * k + 1| < 2 ^ 53) :
    binary64.Representable (2 * ((2 * k + 1 : ℤ) : ℚ) + 2) := by
  have bound : |2 * k + 2| ≤ 2 ^ 53 := by
    rw [abs_lt] at inside
    rw [abs_le]
    omega
  have value := Format.representable_of_abs_le (f := binary64) (m := 2 * k + 2) (e := 1)
    (by decide) bound
  convert value using 1
  rw [zpow_one]
  push_cast
  ring

/-- A step from a value that four does not divide is lost, or ends at the next
one, which it does divide. -/
private theorem nearest_add_one_of_odd_half {k : ℤ}
    (h : binary64.Representable (2 * ((2 * k + 1 : ℤ) : ℚ)))
    (large : 2 ^ 53 < 2 * ((2 * k + 1 : ℤ) : ℚ) ∨ 2 * ((2 * k + 1 : ℤ) : ℚ) < -2 ^ 53 - 2) :
    binary64.nearest (2 * ((2 * k + 1 : ℤ) : ℚ) + 1) = 2 * ((2 * k + 1 : ℤ) : ℚ) ∨
      binary64.nearest (2 * ((2 * k + 1 : ℤ) : ℚ) + 1) = 4 * ((k + 1 : ℤ) : ℚ) := by
  have next := representable_add_two (abs_lt_of_odd_half h)
  have low := Format.le_nearest h (y := 2 * ((2 * k + 1 : ℤ) : ℚ) + 1) (by linarith)
  have high := Format.nearest_le next (x := 2 * ((2 * k + 1 : ℤ) : ℚ) + 1) (by linarith)
  have value := Format.representable_nearest (f := binary64) (2 * ((2 * k + 1 : ℤ) : ℚ) + 1)
  obtain ⟨j, hj⟩ := even_of_large value (by
    have far := large_add large (sub_nonneg.mpr low) (by linarith)
    rwa [add_sub_cancel] at far)
  rw [hj] at low high ⊢
  have lower : 2 * k + 1 ≤ j := by
    have : ((2 * k + 1 : ℤ) : ℚ) ≤ j := by linarith
    exact_mod_cast this
  have upper : j ≤ 2 * k + 2 := by
    have : (j : ℚ) ≤ ((2 * k + 2 : ℤ) : ℚ) := by
      push_cast at high ⊢
      linarith
    exact_mod_cast this
  rcases lower.eq_or_lt with same | above
  · left
    rw [same]
  · right
    obtain rfl : j = 2 * (k + 1) := by omega
    push_cast
    ring

/-- From there on adding one a second time is lost. -/
theorem nearest_add_one_twice (h : binary64.Representable c)
    (large : 2 ^ 53 < c ∨ c < -2 ^ 53 - 2) :
    binary64.nearest (binary64.nearest (c + 1) + 1) = binary64.nearest (c + 1) := by
  have outside : 2 ^ 53 ≤ |c| := by simpa using large_add large le_rfl zero_le_two
  obtain ⟨n, rfl⟩ := even_of_large h outside
  rcases Int.even_or_odd' n with ⟨k, rfl | rfl⟩
  · have four : (2 * (2 * k : ℤ) : ℚ) = 4 * k := by
      push_cast
      ring
    rw [four] at h large ⊢
    have lost := nearest_add_one_of_four h (large_add large zero_le_one one_le_two)
    rw [lost, lost]
  -- Halfway between two values, the one divisible by four is taken.
  · rcases nearest_add_one_of_odd_half h large with lost | taken
    · rw [lost, lost]
    · have value := Format.representable_nearest (f := binary64) (2 * ((2 * k + 1 : ℤ) : ℚ) + 1)
      rw [taken] at value ⊢
      apply nearest_add_one_of_four value
      have whole : 2 ^ 53 < 2 * (2 * k + 1) ∨ 2 * (2 * k + 1) < -2 ^ 53 - 2 := by
        exact_mod_cast large
      have far : 2 ^ 53 ≤ |4 * (k + 1) + 1| := by
        rw [le_abs]
        omega
      exact_mod_cast far

/-- Up to there adding one goes past the next integer. -/
theorem succ_le_nearest_add_one {n : ℤ} (within : |n + 1| ≤ 2 ^ 53) (h : (n : ℚ) ≤ c) :
    (n : ℚ) + 1 ≤ binary64.nearest (c + 1) := by
  have := Format.le_nearest (representable_int within) (y := c + 1) (by
    push_cast
    linarith)
  push_cast at this
  exact this

/-- One more than two to the 53rd is rounded back. -/
private theorem nearest_two_pow_add_one :
    binary64.nearest (((2 ^ 53 : ℤ) : ℚ) + 1) = ((2 ^ 53 : ℤ) : ℚ) := by
  have four : ((2 ^ 53 : ℤ) : ℚ) = 4 * ((2 ^ 51 : ℤ) : ℚ) := by norm_num
  have value := representable_int (n := 2 ^ 53) (by rw [abs_of_pos (by positivity)])
  rw [four] at value ⊢
  exact nearest_add_one_of_four value (by norm_num)

/-- No count by ones goes past it. -/
theorem nearest_add_one_le (h : c ≤ 2 ^ 53) : binary64.nearest (c + 1) ≤ 2 ^ 53 := by
  have bound : ((2 ^ 53 : ℤ) : ℚ) = 2 ^ 53 := by norm_num
  rw [← bound] at h ⊢
  calc binary64.nearest (c + 1) ≤ binary64.nearest (((2 ^ 53 : ℤ) : ℚ) + 1) := by
        apply Format.nearest_mono
        linarith
    _ = ((2 ^ 53 : ℤ) : ℚ) := nearest_two_pow_add_one

/-- Between the two ends a step goes past the next integer. -/
theorem floor_add_one_le (bottom : -2 ^ 53 - 2 ≤ c) (top : c < 2 ^ 53) :
    ((⌊c⌋ + 1 : ℤ) : ℚ) ≤ binary64.nearest (c + 1) := by
  have floorLe := Int.floor_le c
  have high : ⌊c⌋ + 1 ≤ 2 ^ 53 := by
    have : ⌊c⌋ < 2 ^ 53 := by
      apply Int.floor_lt.mpr
      push_cast
      exact top
    omega
  by_cases low : -2 ^ 53 ≤ ⌊c⌋ + 1
  · push_cast
    exact succ_le_nearest_add_one (abs_le.mpr ⟨low, high⟩) floorLe
  -- Halfway between the first two values that are two apart.
  · have least : -(((2 ^ 53 : ℤ) : ℚ) + 1) ≤ c + 1 := by
      push_cast
      linarith
    have stepped := Format.nearest_mono (f := binary64) least
    rw [Format.nearest_neg, nearest_two_pow_add_one] at stepped
    apply le_trans _ stepped
    exact_mod_cast (not_le.mp low).le

/-- Of two multiples of one distance the larger is so by the distance. -/
private theorem add_le_of_multiples {g : ℚ} (positive : 0 < g) {i j : ℤ} (h : i * g < j * g) :
    i * g + g ≤ j * g := by
  have step : (i : ℚ) + 1 ≤ j := by exact_mod_cast lt_of_mul_lt_mul_right h positive.le
  calc i * g + g = (i + 1) * g := by ring
    _ ≤ j * g := mul_le_mul_of_nonneg_right step positive.le

/-- What rounds to no more than an integer exceeds it by no more than half the
distance of the values there. -/
theorem le_add_of_nearest_le {d : ℚ} {span k : ℕ} (below : 2 ^ k ≤ span) (above : span < 2 ^ (k + 1))
    (places : k < 53) (near : binary64.nearest d ≤ span) : d ≤ span + 2 ^ ((k : ℤ) - 53) := by
  have below' : (2 : ℚ) ^ k ≤ span := by exact_mod_cast below
  have above' : (span : ℚ) < 2 ^ (k + 1) := by exact_mod_cast above
  have positive : (0 : ℚ) < 2 ^ k := by positivity
  have grid : (0 : ℚ) < 2 ^ ((k : ℤ) - 53) := by positivity
  by_contra far
  have large : 0 < d := by linarith
  have short : d < 2 ^ (k + 1) := by
    by_contra long
    have power := representable_int (n := 2 ^ (k + 1)) (by
      rw [abs_of_pos (by positivity)]
      exact pow_le_pow_right₀ one_le_two places)
    push_cast at power
    have := Format.le_nearest power (not_lt.mp long)
    linarith
  have fine : binary64.ulp d ≤ 2 ^ ((k : ℤ) - 53) * 2 := by
    rw [← zpow_add_one₀ two_ne_zero]
    apply zpow_le_zpow_right₀ one_le_two
    rw [Format.exponent_le_iff large.ne' (by
      simp [binary64]
      omega), abs_of_pos large]
    have exponents : (binary64.precision : ℤ) + (k - 53 + 1) = (k + 1 : ℕ) := by
      simp [binary64]
      omega
    rw [exponents, zpow_natCast]
    exact short
  have error := (abs_le.mp (Format.abs_sub_nearest (f := binary64) d)).2
  linarith

/-- Two values no further apart than an integer, up to rounding, have no more
integers between them. -/
theorem le_floor_add_span {a b : ℚ} (ha : binary64.Representable a)
    (hb : binary64.Representable b) {span : ℕ} (positive : 0 < span) (small : span < 2 ^ 53)
    (near : binary64.nearest (b - a) ≤ span) : b ≤ ⌊a⌋ + span + 1 := by
  by_contra far
  have ltFloor := Int.lt_floor_add_one a
  rw [not_le] at far
  obtain ⟨k, below, above⟩ : ∃ k : ℕ, 2 ^ k ≤ span ∧ span < 2 ^ (k + 1) :=
    ⟨Nat.log 2 span, Nat.pow_log_le_self 2 positive.ne', Nat.lt_pow_succ_log_self one_lt_two span⟩
  have places : k < 53 := (Nat.pow_lt_pow_iff_right one_lt_two).mp (lt_of_le_of_lt below small)
  have within := le_add_of_nearest_le below above places near
  have below' : (2 : ℚ) ^ k ≤ span := by exact_mod_cast below
  -- Both differ from the bound by less than the distance `g` of the values
  -- where one of them lies, and integers are multiples of it.
  obtain ⟨g, hg⟩ : ∃ g : ℚ, g = 2 ^ ((k : ℤ) - 53) := ⟨_, rfl⟩
  rw [← hg] at within
  have grid : 0 < g := by
    rw [hg]
    positivity
  have half : (2 : ℚ) ^ ((k : ℤ) - 53 + binary64.precision - 1) * 2 = 2 ^ k := by
    rw [← zpow_add_one₀ two_ne_zero, ← zpow_natCast]
    congr 1
    simp [binary64]
  have multiple : ∀ n : ℤ, ∃ i : ℤ, (n : ℚ) = i * g := by
    intro n
    have unit := Format.zpow_eq_mul_zpow (show (k : ℤ) - 53 ≤ 0 by omega)
    refine ⟨n * 2 ^ (0 - ((k : ℤ) - 53)).toNat, ?_⟩
    rw [hg, Int.cast_mul, mul_assoc, ← unit, zpow_zero, mul_one]
  by_cases large : (2 : ℚ) ^ ((k : ℤ) - 53 + binary64.precision - 1) ≤ |b|
  · obtain ⟨j, hj⟩ := hb.granular large
    obtain ⟨i, hi⟩ := multiple (⌊a⌋ + span + 1)
    push_cast at hi
    rw [← hg] at hj
    rw [hi, hj] at far
    have := add_le_of_multiples grid far
    linarith
  · have bounded := (abs_lt.mp (not_le.mp large)).2
    have lower : (2 : ℚ) ^ ((k : ℤ) - 53 + binary64.precision - 1) ≤ |a| := by
      rw [le_abs]
      right
      linarith
    obtain ⟨j, hj⟩ := ha.granular lower
    obtain ⟨i, hi⟩ := multiple (⌊a⌋ + 1)
    push_cast at hi
    rw [← hg] at hj
    rw [hi, hj] at ltFloor
    have := add_le_of_multiples grid ltFloor
    linarith

end Counting

/-- The largest number, written as four times an integer. -/
private theorem largest_eq :
    binary64.largest = 4 * (((2 ^ 53 - 1) * 2 ^ 969 : ℤ) : ℚ) := by
  have exponents : (2 : ℚ) ^ binary64.greatest = 4 * 2 ^ 969 := by
    have split : (2 : ℚ) ^ 971 = 4 * 2 ^ 969 := by
      rw [pow_succ', pow_succ', ← mul_assoc]
      norm_num only
    rw [← split, ← zpow_natCast]
    rfl
  rw [Format.largest, exponents, mul_left_comm]
  simp only [Int.cast_mul, Int.cast_sub, Int.cast_pow, Int.cast_ofNat, Int.cast_one]
  rfl

/-- The range goes well beyond the integers that are counted in. -/
theorem two_pow_le_largest : (2 : ℚ) ^ 54 ≤ binary64.largest := by
  have one_le : (1 : ℚ) ≤ 2 ^ 969 := one_le_pow₀ one_le_two
  rw [largest_eq]
  simp only [Int.cast_mul, Int.cast_sub, Int.cast_pow, Int.cast_ofNat, Int.cast_one]
  calc (2 : ℚ) ^ 54 ≤ 4 * ((2 ^ 53 - 1) * 1) := by norm_num
    _ ≤ 4 * ((2 ^ 53 - 1) * 2 ^ 969) :=
      mul_le_mul_of_nonneg_left (mul_le_mul_of_nonneg_left one_le (by norm_num)) (by norm_num)

/-- An integer of so many digits. -/
def integer (n : ℤ) (h : |n| ≤ 2 ^ 53) : binary64.Finite where
  value := n
  representable := representable_int h
  bounded := by
    have fewer : |(n : ℚ)| ≤ 2 ^ 53 := by exact_mod_cast h
    have large := two_pow_le_largest
    linarith

/-- An integer up to two to the 53rd is that number. -/
theorem ofRat_intCast {n : ℤ} (h : |n| ≤ 2 ^ 53) :
    (Number.ofRat n : Number binary64) = .finite (integer n h) :=
  Number.ofRat_value (integer n h)

/-- Adding one is never too large a number for the format. -/
theorem exists_add_one (x : binary64.Finite) :
    ∃ y : binary64.Finite, Number.finite x + .ofRat 1 = .finite y ∧
      y.value = binary64.nearest (x.value + 1) := by
  have top : binary64.nearest (binary64.largest + 1) = binary64.largest := by
    have large := two_pow_le_largest
    have value : binary64.Representable binary64.largest :=
      ⟨2 ^ 53 - 1, binary64.greatest, by decide, by decide, by
        simp only [Int.cast_sub, Int.cast_pow, Int.cast_ofNat, Int.cast_one]
        rfl⟩
    rw [largest_eq] at value large ⊢
    apply nearest_add_one_of_four value
    rw [le_abs]
    left
    linarith
  have bounds := abs_le.mp x.bounded
  have bounded : |binary64.nearest (x.value + 1)| ≤ binary64.largest := by
    rw [abs_le]
    constructor
    · have := Format.le_nearest x.representable (y := x.value + 1) (by linarith)
      linarith
    · rw [← top]
      apply Format.nearest_mono
      linarith
  have one := ofRat_intCast (n := 1) (by decide)
  rw [Int.cast_one] at one
  rw [one, Number.finite_add]
  refine ⟨_, Number.ofRat_eq_finite ?_, ?_⟩
  · exact bounded
  · rfl

end Floating
