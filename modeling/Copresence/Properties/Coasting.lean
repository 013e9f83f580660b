import Copresence.Client.Drawing

/-! The motion of a cursor between two updates, in the doubles it is computed in:
it goes on as far as the last update took it and no further, never back, and holds. -/
namespace Copresence

open Floating

/-- A point of the document, with the reading of a clock. -/
structure DocumentPoint where
  x : binary64.Finite
  y : binary64.Finite
  t : binary64.Finite
  x_nonneg : 0 ≤ x.value
  y_nonneg : 0 ≤ y.value

def DocumentPoint.timed (point : DocumentPoint) : TimedPoint where
  x := .finite point.x
  y := .finite point.y
  t := .finite point.t

/-- The points a page keeps of doubles it received are such. -/
theorem timed_eq_timed {point : RemoteCursorPoint} {document : DocumentPoint}
    (x : document.x.value = point.x) (y : document.y.value = point.y)
    (t : document.t.value = point.t) : point.timed = document.timed := by
  rw [RemoteCursorPoint.timed, DocumentPoint.timed, ← x, ← y, ← t, Number.ofRat_value,
    Number.ofRat_value, Number.ofRat_value]

/-- The four stand along a line in this order. -/
def InLine (a b c d : Number binary64) : Prop :=
  (a.le b = true ∧ b.le c = true ∧ c.le d = true) ∨
    (b.le a = true ∧ c.le b = true ∧ d.le c = true)

section Factor

/-- How far along, as the page computes it from a fraction of the interval. -/
def factorOf (fraction : Number binary64) : Number binary64 :=
  (Number.ofRat 1).min ((Number.ofRat 0).max fraction)

/-- The part of one that a number is. -/
def unitPart : Number binary64 → ℚ
  | .nan => 0
  | .infinity negative => if negative then 0 else 1
  | .finite x => max 0 (min 1 x.value)

theorem unitPart_nonneg (n : Number binary64) : 0 ≤ unitPart n := by
  cases n with
  | nan => exact le_rfl
  | infinity negative => cases negative <;> simp [unitPart]
  | finite x => exact le_max_left _ _

theorem unitPart_le_one (n : Number binary64) : unitPart n ≤ 1 := by
  cases n with
  | nan => exact zero_le_one
  | infinity negative => cases negative <;> simp [unitPart]
  | finite x => exact max_le zero_le_one (min_le_left _ _)

theorem unitPart_mono {m n : Number binary64} (h : m.le n = true) : unitPart m ≤ unitPart n := by
  cases m with
  | nan => cases h
  | infinity negative =>
      cases negative with
      | true => exact unitPart_nonneg n
      | false =>
          cases n with
          | infinity other =>
              cases other with
              | true => cases h
              | false => exact le_rfl
          | nan | finite => cases h
  | finite x =>
      cases n with
      | nan => cases h
      | infinity negative =>
          cases negative with
          | true => cases h
          | false => exact unitPart_le_one _
      | finite y => exact max_le_max le_rfl (min_le_min le_rfl (of_decide_eq_true h))

/-- The factor is the part of one, exactly. -/
theorem exists_factorOf {fraction : Number binary64} (number : fraction ≠ .nan) :
    ∃ φ : binary64.Finite, factorOf fraction = .finite φ ∧ φ.value = unitPart fraction := by
  obtain ⟨zero, hzero, isZero⟩ := exists_ofRat_natCast (n := 0) (by decide)
  obtain ⟨one, hone, isOne⟩ := exists_ofRat_natCast (n := 1) (by decide)
  push_cast at hzero hone isZero isOne
  rw [factorOf, hzero, hone]
  cases fraction with
  | nan => exact absurd rfl number
  | infinity negative =>
      cases negative with
      | true =>
          refine ⟨zero, ?_, isZero⟩
          simp [Number.max, Number.min, Number.lt, isZero, isOne]
      | false =>
          refine ⟨one, ?_, isOne⟩
          simp [Number.max, Number.min, Number.lt]
  | finite x =>
      rw [Number.max_finite, isZero]
      rcases lt_or_ge 0 x.value with positive | low
      · rw [if_pos positive, Number.min_finite, isOne]
        rcases lt_or_ge x.value 1 with part | whole
        · refine ⟨x, if_pos part, ?_⟩
          rw [unitPart, min_eq_right part.le, max_eq_right positive.le]
        · refine ⟨one, if_neg (not_lt.mpr whole), ?_⟩
          rw [unitPart, min_eq_left whole, max_eq_right zero_le_one, isOne]
      · rw [if_neg (not_lt.mpr low), Number.min_finite, isOne, isZero, if_pos zero_lt_one]
        refine ⟨zero, rfl, ?_⟩
        rw [unitPart, min_eq_right (by linarith), max_eq_left low, isZero]

end Factor

section Coordinate

variable {p l d : binary64.Finite}

/-- Between two places of the document the difference is never too large. -/
theorem exists_difference (hp : 0 ≤ p.value) (hl : 0 ≤ l.value) :
    ∃ d : binary64.Finite, Number.finite l - .finite p = .finite d := by
  have low := Format.le_nearest p.representable.neg (y := l.value - p.value) (by linarith)
  have high := Format.nearest_le l.representable (x := l.value - p.value) (by linarith)
  have bounded : |binary64.nearest (l.value - p.value)| ≤ binary64.largest := by
    have := (abs_le.mp p.bounded).2
    have := (abs_le.mp l.bounded).2
    rw [abs_le]
    constructor <;> linarith
  rw [Number.finite_sub, Number.ofRat_eq_finite bounded]
  exact ⟨_, rfl⟩

/-- A part of a distance. -/
theorem exists_part {φ : binary64.Finite} (nonneg : 0 ≤ φ.value) (atMost : φ.value ≤ 1) :
    ∃ w : binary64.Finite, Number.finite d * .finite φ = .finite w ∧
      w.value = binary64.nearest (d.value * φ.value) := by
  have part : |d.value * φ.value| ≤ |d.value| := by
    rw [abs_mul, abs_of_nonneg nonneg]
    exact mul_le_of_le_one_right (abs_nonneg _) atMost
  have value : binary64.Representable |d.value| := by
    rcases abs_choice d.value with same | opposite
    · rw [same]
      exact d.representable
    · rw [opposite]
      exact d.representable.neg
  have bounds := abs_le.mp part
  have bounded : |binary64.nearest (d.value * φ.value)| ≤ binary64.largest := by
    have low := Format.le_nearest value.neg bounds.1
    have high := Format.nearest_le value bounds.2
    exact (abs_le.mpr ⟨low, high⟩).trans d.bounded
  exact ⟨_, Number.ofRat_eq_finite bounded, rfl⟩

/-- Further along is further on, from the start to the end. -/
theorem inLine_parts {φ ψ : binary64.Finite} (start : 0 ≤ φ.value) (h : φ.value ≤ ψ.value)
    (stop : ψ.value ≤ 1) :
    InLine (.finite l) (.finite l + .finite d * .finite φ) (.finite l + .finite d * .finite ψ)
      (.finite l + .finite d) := by
  obtain ⟨v, hv, isPart⟩ := exists_part (d := d) start (h.trans stop)
  obtain ⟨w, hw, isPart'⟩ := exists_part (d := d) (start.trans h) stop
  rw [hv, hw, Number.finite_add, Number.finite_add, Number.finite_add, isPart, isPart',
    ← Number.ofRat_value l]
  rcases le_total 0 d.value with forward | backward
  · left
    refine ⟨?_, ?_, ?_⟩
    · apply Number.ofRat_le_ofRat
      have := Format.nearest_nonneg (f := binary64) (mul_nonneg forward start)
      linarith
    · apply Number.ofRat_le_ofRat
      have := Format.nearest_mono (f := binary64) (mul_le_mul_of_nonneg_left h forward)
      linarith
    · apply Number.ofRat_le_ofRat
      have := Format.nearest_le d.representable (mul_le_of_le_one_right forward stop)
      linarith
  · right
    refine ⟨?_, ?_, ?_⟩
    · apply Number.ofRat_le_ofRat
      have := Format.nearest_le (f := binary64) Number.representable_zero
        (mul_nonpos_of_nonpos_of_nonneg backward start)
      linarith
    · apply Number.ofRat_le_ofRat
      have := Format.nearest_mono (f := binary64) (mul_le_mul_of_nonpos_left h backward)
      linarith
    · apply Number.ofRat_le_ofRat
      have := Format.le_nearest d.representable (y := d.value * ψ.value) (by nlinarith)
      linarith

theorem add_part_of_zero {φ : binary64.Finite} (none : φ.value = 0) :
    Number.finite l + .finite d * .finite φ = .finite l := by
  obtain ⟨zero, hzero, isZero⟩ := exists_ofRat_natCast (n := 0) (by decide)
  push_cast at hzero isZero
  rw [Number.finite_mul, none, mul_zero, hzero, Number.finite_add, isZero, add_zero,
    Number.ofRat_value]

theorem add_part_of_one {φ : binary64.Finite} (whole : φ.value = 1) :
    Number.finite l + .finite d * .finite φ = .finite l + .finite d := by
  rw [Number.finite_mul, whole, mul_one, Number.ofRat_value]

end Coordinate

section Position

variable {previous latest : DocumentPoint}

/-- The time between the two points, if it is one to project over. -/
def Spans (previous latest : DocumentPoint) (i : binary64.Finite) : Prop :=
  Number.finite latest.t - .finite previous.t = .finite i ∧ 0 < i.value

theorem interpolatedPosition_of_spans {i : binary64.Finite} (spans : Spans previous latest i)
    (now : Number binary64) :
    interpolatedPosition (some previous.timed) latest.timed now =
      (.finite latest.x + (.finite latest.x - .finite previous.x) *
          factorOf ((now - .finite latest.t) / .finite i),
        .finite latest.y + (.finite latest.y - .finite previous.y) *
          factorOf ((now - .finite latest.t) / .finite i)) := by
  obtain ⟨zero, hzero, isZero⟩ := exists_ofRat_natCast (n := 0) (by decide)
  push_cast at hzero isZero
  have interval : latest.timed.t - previous.timed.t = .finite i := spans.1
  have positive : (Number.finite i).le (.finite zero) = false := by
    rw [Number.le_finite, isZero]
    exact decide_eq_false (not_le.mpr spans.2)
  rw [interpolatedPosition, interval, hzero, positive, if_neg (by simp [Number.isFinite])]
  rw [← hzero]
  rfl

theorem interpolatedPosition_of_not_spans (none : ∀ i, ¬ Spans previous latest i)
    (now : Number binary64) :
    interpolatedPosition (some previous.timed) latest.timed now =
      (.finite latest.x, .finite latest.y) := by
  obtain ⟨zero, hzero, isZero⟩ := exists_ofRat_natCast (n := 0) (by decide)
  push_cast at hzero isZero
  rw [interpolatedPosition]
  apply if_pos
  cases interval : latest.timed.t - previous.timed.t with
  | nan | infinity => rfl
  | finite i =>
      have low : i.value ≤ 0 := by
        by_contra positive
        exact none i ⟨interval, not_le.mp positive⟩
      rw [hzero, Number.le_finite, isZero, decide_eq_true low, Bool.or_true]

/-- The elapsed part of the interval. -/
private theorem fraction_ne_nan (t now : binary64.Finite) {i : binary64.Finite}
    (positive : 0 < i.value) :
    (Number.finite now - .finite t) / Number.finite i ≠ .nan := by
  intro none
  have same := Number.div_le_div positive
    (Number.ofRat_le_ofRat (f := binary64) (le_refl (now.value - t.value)))
  rw [← Number.finite_sub, none] at same
  cases same

private theorem fraction_mono {t now later : binary64.Finite} (h : now.value ≤ later.value)
    {i : binary64.Finite} (positive : 0 < i.value) :
    ((Number.finite now - .finite t) / Number.finite i).le
      ((Number.finite later - .finite t) / Number.finite i) = true := by
  apply Number.div_le_div positive
  rw [Number.finite_sub, Number.finite_sub]
  apply Number.ofRat_le_ofRat
  linarith

/-- Nothing has elapsed. -/
private theorem unitPart_early {t now i : binary64.Finite} (positive : 0 < i.value)
    (early : now.value ≤ t.value) :
    unitPart ((Number.finite now - .finite t) / Number.finite i) = 0 := by
  obtain ⟨zero, hzero, isZero⟩ := exists_ofRat_natCast (n := 0) (by decide)
  push_cast at hzero isZero
  have before : (Number.finite now - .finite t : Number binary64).le (.finite zero) = true := by
    rw [Number.finite_sub, ← hzero]
    apply Number.ofRat_le_ofRat
    linarith
  have low := unitPart_mono (Number.div_le_div positive before)
  rw [Number.finite_div _ _ positive.ne', isZero, zero_div, hzero] at low
  apply le_antisymm _ (unitPart_nonneg _)
  simpa [unitPart, isZero] using low

/-- The whole interval has elapsed. -/
private theorem unitPart_late {i : binary64.Finite} (spans : Spans previous latest i)
    {now : binary64.Finite}
    (late : latest.t.value + (latest.t.value - previous.t.value) ≤ now.value) :
    unitPart ((Number.finite now - .finite latest.t) / Number.finite i) = 1 := by
  obtain ⟨one, hone, isOne⟩ := exists_ofRat_natCast (n := 1) (by decide)
  push_cast at hone isOne
  have after : (Number.finite i).le (.finite now - .finite latest.t) = true := by
    rw [← spans.1, Number.finite_sub, Number.finite_sub]
    apply Number.ofRat_le_ofRat
    linarith
  have high := unitPart_mono (Number.div_le_div spans.2 after)
  rw [Number.finite_div _ _ spans.2.ne', div_self spans.2.ne', hone] at high
  apply le_antisymm (unitPart_le_one _)
  simpa [unitPart, isOne] using high

/-- An interval that has passed again since is no larger than a reading of the clock. -/
private theorem exists_spans (forward : previous.t.value < latest.t.value) {now : binary64.Finite}
    (late : latest.t.value + (latest.t.value - previous.t.value) ≤ now.value) :
    ∃ i, Spans previous latest i := by
  have positive := Format.nearest_sub_pos previous.t.representable latest.t.representable forward
  have top : binary64.nearest (latest.t.value - previous.t.value) ≤ binary64.largest := by
    rcases le_total 0 latest.t.value with natural | negative
    · have := Format.nearest_le now.representable
        (x := latest.t.value - previous.t.value) (by linarith)
      have := (abs_le.mp now.bounded).2
      linarith
    · have := Format.nearest_le previous.t.representable.neg
        (x := latest.t.value - previous.t.value) (by linarith)
      have := (abs_le.mp previous.t.bounded).1
      linarith
  have bounded : |binary64.nearest (latest.t.value - previous.t.value)| ≤ binary64.largest := by
    rw [abs_of_pos positive]
    exact top
  exact ⟨_, (Number.finite_sub _ _).trans (Number.ofRat_eq_finite bounded), positive⟩

/-- As time goes by a cursor moves on from the latest point towards where its last
move, repeated, would take it, in both coordinates: it never turns, and never goes
past. Until the point arrived it stays there, and once the interval between the last
two points has passed again it holds at the end. -/
theorem interpolatedPosition_coasts (previous latest : DocumentPoint) {now later : binary64.Finite}
    (h : now.value ≤ later.value) :
    let position := fun t => interpolatedPosition (some previous.timed) latest.timed (.finite t)
    let stop : Number binary64 × Number binary64 :=
      (.finite latest.x + (.finite latest.x - .finite previous.x),
        .finite latest.y + (.finite latest.y - .finite previous.y))
    InLine (.finite latest.x) (position now).1 (position later).1 stop.1 ∧
      InLine (.finite latest.y) (position now).2 (position later).2 stop.2 ∧
      (now.value ≤ latest.t.value → position now = (.finite latest.x, .finite latest.y)) ∧
      (previous.t.value < latest.t.value →
        latest.t.value + (latest.t.value - previous.t.value) ≤ now.value →
        position now = stop) := by
  intro position stop
  obtain ⟨dx, hdx⟩ := exists_difference previous.x_nonneg latest.x_nonneg
  obtain ⟨dy, hdy⟩ := exists_difference previous.y_nonneg latest.y_nonneg
  by_cases spans : ∃ i, Spans previous latest i
  · obtain ⟨i, spans⟩ := spans
    have fraction := fun now => fraction_ne_nan latest.t now spans.2
    obtain ⟨φ, hφ, isPart⟩ := exists_factorOf (fraction now)
    obtain ⟨ψ, hψ, isPart'⟩ := exists_factorOf (fraction later)
    have further : φ.value ≤ ψ.value := by
      rw [isPart, isPart']
      exact unitPart_mono (fraction_mono h spans.2)
    have start : 0 ≤ φ.value := by
      rw [isPart]
      exact unitPart_nonneg _
    have atMost : ψ.value ≤ 1 := by
      rw [isPart']
      exact unitPart_le_one _
    have atNow := interpolatedPosition_of_spans spans (.finite now)
    have atLater := interpolatedPosition_of_spans spans (.finite later)
    rw [hφ, hdx, hdy] at atNow
    rw [hψ, hdx, hdy] at atLater
    dsimp only [position, stop]
    rw [atNow, atLater, hdx, hdy]
    refine ⟨inLine_parts start further atMost, inLine_parts start further atMost, ?_, ?_⟩
    · intro early
      have none : φ.value = 0 := isPart.trans (unitPart_early spans.2 early)
      rw [add_part_of_zero none, add_part_of_zero none]
    · intro _ late
      have whole : φ.value = 1 := isPart.trans (unitPart_late spans late)
      rw [add_part_of_one whole, add_part_of_one whole]
  · have stays := interpolatedPosition_of_not_spans (not_exists.mp spans)
    obtain ⟨zero, hzero, isZero⟩ := exists_ofRat_natCast (n := 0) (by decide)
    push_cast at isZero
    have rests : ∀ {l d : binary64.Finite},
        InLine (.finite l) (.finite l) (.finite l) (.finite l + .finite d) := by
      intro l d
      have parts := inLine_parts (l := l) (d := d) isZero.ge le_rfl (isZero.trans_le zero_le_one)
      rwa [add_part_of_zero isZero] at parts
    dsimp only [position, stop]
    rw [stays, stays, hdx, hdy]
    refine ⟨rests, rests, fun _ => rfl, ?_⟩
    intro forward late
    exact absurd (exists_spans forward late) spans

private def point (y t : ℕ) (small : y ≤ 2000 ∧ t ≤ 2000) : DocumentPoint where
  x := integer 0 (by decide)
  y := integer y (by rw [abs_of_nonneg (Int.natCast_nonneg y)]; omega)
  t := integer t (by rw [abs_of_nonneg (Int.natCast_nonneg t)]; omega)
  x_nonneg := le_rfl
  y_nonneg := by
    show (0 : ℚ) ≤ ((y : ℤ) : ℚ)
    exact_mod_cast Nat.zero_le y

/-- Half an interval after the update, and a whole one. -/
theorem interpolatedPosition_coasts_halfway :
    let previous := point 0 900 (by decide)
    let latest := point 10 1000 (by decide)
    let position := fun t => interpolatedPosition (some previous.timed) latest.timed (.finite t)
    let now := integer 1050 (by decide)
    let later := integer 1100 (by decide)
    InLine (.finite latest.y) (position now).2 (position later).2 (.ofRat 20) ∧
      (position now).2 = .ofRat 15 := by
  intro previous latest position now later
  have within : now.value ≤ later.value := by
    show ((1050 : ℤ) : ℚ) ≤ ((1100 : ℤ) : ℚ)
    norm_num
  have stop : (.finite latest.y + (.finite latest.y - .finite previous.y) : Number binary64) =
      .ofRat 20 := by decide +kernel
  constructor
  · rw [← stop]
    exact (interpolatedPosition_coasts previous latest within).2.1
  · decide +kernel

end Position

end Copresence
