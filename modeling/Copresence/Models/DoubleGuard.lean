import Copresence.Lib.Binary64
import Copresence.Lib.Run
import Copresence.Models.SequenceGuard

/-! The inbound ordering guard over every number of the language. Adding one
to a large number changes nothing, so its loop is given so many rounds to end
in, and a call that needs more has no result. -/
namespace Copresence

open Collections Floating

/-- A number of the language. -/
abbrev Double := Number binary64

def Double.isFinite : Double → Bool
  | .finite _ => true
  | _ => false

structure DoubleGuard where
  lastSeen : Option Double := none
  gaps : JsSet Double := JsMap.empty
deriving DecidableEq

/-- The loop over the numbers that were skipped. -/
def fillGaps (seq : Double) (rounds : Nat) (missed : Double) (gaps : JsSet Double) :
    Option (JsSet Double) :=
  if missed.lt seq then
    match rounds with
    | 0 => none
    | rounds + 1 => fillGaps seq rounds (missed + .ofRat 1) (gaps.add missed)
  else some gaps

/-- Records `seq` and says whether it is newer than anything seen before. -/
def DoubleGuard.accept (guard : DoubleGuard) (rounds : Nat) (seq : Double) :
    Option (DoubleGuard × Bool) :=
  if !seq.isFinite then some (guard, false)
  else
    match guard.lastSeen with
    | none => some ({ guard with lastSeen := some seq }, true)
    | some last =>
      if seq.le last then some ({ guard with gaps := JsMap.delete guard.gaps seq }, false)
      else if (seq - last).le (.ofRat maxTrackedGapSpan) then
        (fillGaps seq rounds (last + .ofRat 1) guard.gaps).map fun gaps =>
          ({ lastSeen := some seq, gaps }, true)
      else some ({ guard with lastSeen := some seq }, true)

/-- The guard after each of these in turn, where every call ended. -/
def DoubleGuard.acceptAll (guard : DoubleGuard) (rounds : Nat) : List Double → Option DoubleGuard
  | [] => some guard
  | seq :: rest => (guard.accept rounds seq).bind fun result => result.1.acceptAll rounds rest

/-- A loop that has reached its end adds nothing. -/
theorem fillGaps_of_le {seq missed : binary64.Finite} (h : seq.value ≤ missed.value)
    (rounds : Nat) (gaps : JsSet Double) :
    fillGaps (.finite seq) rounds (.finite missed) gaps = some gaps := by
  rw [fillGaps.eq_def, Number.lt_finite, if_neg (by simpa using h)]

/-- The loop has not ended while its variable keeps to numbers below the last
one. -/
theorem fillGaps_eq_none {P : ℚ → Prop} {seq missed : binary64.Finite}
    (kept : ∀ c, P c → P (binary64.nearest (c + 1))) (below : ∀ c, P c → c < seq.value)
    (start : P missed.value) (rounds : Nat) (gaps : JsSet Double) :
    fillGaps (.finite seq) rounds (.finite missed) gaps = none := by
  induction rounds generalizing missed gaps with
  | zero =>
      rw [fillGaps]
      simp [below _ start]
  | succ rounds ih =>
      obtain ⟨next, hNext, value⟩ := exists_add_one missed
      rw [fillGaps, Number.lt_finite, if_pos (by simpa using below _ start)]
      rw [hNext]
      apply ih
      rw [value]
      exact kept _ start

/-- Up to 2 ^ 53 each round passes one more integer. -/
theorem isSome_fillGaps {seq missed : binary64.Finite} {rounds : Nat} {n : ℤ}
    (top : seq.value ≤ 2 ^ 53) (bottom : -2 ^ 53 - 1 ≤ n) (passed : (n : ℚ) ≤ missed.value)
    (enough : seq.value ≤ n + rounds) (gaps : JsSet Double) :
    (fillGaps (.finite seq) rounds (.finite missed) gaps).isSome := by
  induction rounds generalizing missed gaps n with
  | zero =>
      rw [Nat.cast_zero, add_zero] at enough
      rw [fillGaps_of_le (enough.trans passed)]
      rfl
  | succ rounds ih =>
      by_cases more : missed.value < seq.value
      · obtain ⟨next, hNext, value⟩ := exists_add_one missed
        rw [fillGaps, Number.lt_finite, if_pos (by simpa using more), hNext]
        have below : n + 1 ≤ 2 ^ 53 := by
          have : (n : ℚ) < ((2 ^ 53 : ℤ) : ℚ) := by
            push_cast
            linarith
          have : n < 2 ^ 53 := by exact_mod_cast this
          omega
        apply ih (n := n + 1)
        · omega
        · rw [value]
          push_cast
          exact succ_le_nearest_add_one (abs_le.mpr ⟨by omega, below⟩) passed
        · push_cast at enough ⊢
          linarith
      · rw [fillGaps_of_le (not_lt.mp more)]
        rfl

section Integers

/-- An integer as a number of the language. -/
def ofInt (n : Int) : Double := .ofRat n

/-- The integers that count by ones. -/
abbrev Counted (n : Int) : Prop := |n| ≤ 2 ^ 53

variable {m n : Int}

theorem ofInt_eq (h : Counted n) : ofInt n = .finite (integer n h) := ofRat_intCast h

/-- Numbers that are counted in are told apart as doubles. -/
theorem ofInt_inj (hm : Counted m) (hn : Counted n) : ofInt m = ofInt n ↔ m = n := by
  rw [ofInt_eq hm, ofInt_eq hn]
  constructor
  · intro same
    have values : (m : ℚ) = n := congrArg Format.Finite.value (Number.finite.inj same)
    exact_mod_cast values
  · intro same
    subst same
    rfl

/-- Doubles that are counted in compare as integers. -/
theorem lt_ofInt (hm : Counted m) (hn : Counted n) : (ofInt m).lt (ofInt n) = decide (m < n) := by
  rw [ofInt_eq hm, ofInt_eq hn]
  simp [integer]

theorem le_ofInt (hm : Counted m) (hn : Counted n) : (ofInt m).le (ofInt n) = decide (m ≤ n) := by
  rw [ofInt_eq hm, ofInt_eq hn]
  simp [integer]

/-- Below the limit, adding one counts on. -/
theorem ofInt_add_one (h : Counted n) : ofInt n + .ofRat 1 = ofInt (n + 1) := by
  have one := ofRat_intCast (n := 1) (by decide)
  rw [Int.cast_one] at one
  rw [ofInt_eq h, one, Number.finite_add, ofInt]
  push_cast
  rfl

/-- Rounding does not move a difference across the tracked span. -/
theorem span_ofInt (hm : Counted m) (hn : Counted n) (h : m < n) :
    (ofInt n - ofInt m).le (.ofRat maxTrackedGapSpan) = decide (n - m ≤ maxTrackedGapSpan) := by
  have ordered : (m : ℚ) < n := by exact_mod_cast h
  have distance : (n : ℚ) - m = ((n - m : ℤ) : ℚ) := by push_cast; rfl
  have span : |maxTrackedGapSpan| ≤ 2 ^ 53 := by decide
  rw [Bool.eq_iff_iff, decide_eq_true_iff, ofInt_eq hm, ofInt_eq hn, Number.finite_sub,
    ofRat_intCast span, Number.ofRat_le_finite (by simpa [integer] using ordered.le)]
  change binary64.nearest ((n : ℚ) - m) ≤ ((maxTrackedGapSpan : ℤ) : ℚ) ↔ _
  rw [distance, maxTrackedGapSpan]
  constructor
  · intro near
    by_contra far
    have beyond : ((10001 : ℤ) : ℚ) ≤ ((n - m : ℤ) : ℚ) := by
      have : (10001 : ℤ) ≤ n - m := by omega
      exact_mod_cast this
    have rounded := Format.le_nearest (representable_int (by decide)) beyond
    push_cast at rounded near
    linarith
  · intro near
    have whole : binary64.Representable ((n - m : ℤ) : ℚ) := representable_int (abs_le.mpr (by omega))
    rw [Format.nearest_of_representable whole]
    exact_mod_cast near

/-- Over these integers the loop ends and lists every number it passes. -/
theorem fillGaps_ofInt {seq : Int} (hSeq : Counted seq) {rounds : Nat} (hm : Counted m)
    (enough : seq ≤ m + rounds) (gaps : JsSet Double) :
    ∃ filled, fillGaps (ofInt seq) rounds (ofInt m) gaps = some filled ∧
      ∀ x, x ∈ filled.toList ↔ (∃ n, m ≤ n ∧ n < seq ∧ x = ofInt n) ∨ x ∈ gaps.toList := by
  have done : ∀ (rounds : Nat) (m : Int), Counted m → seq ≤ m → ∀ gaps : JsSet Double,
      ∃ filled, fillGaps (ofInt seq) rounds (ofInt m) gaps = some filled ∧
        ∀ x, x ∈ filled.toList ↔ (∃ n, m ≤ n ∧ n < seq ∧ x = ofInt n) ∨ x ∈ gaps.toList := by
    intro rounds m hm passed gaps
    refine ⟨gaps, ?_, ?_⟩
    · rw [fillGaps.eq_def, lt_ofInt hm hSeq, if_neg (by simpa using passed)]
    · intro x
      rw [or_iff_right]
      intro ⟨n, above, below, _⟩
      omega
  induction rounds generalizing m gaps with
  | zero => exact done 0 m hm (by omega) gaps
  | succ rounds ih =>
      by_cases more : m < seq
      · have low := (abs_le.mp hm).1
        have high := (abs_le.mp hSeq).2
        have next : Counted (m + 1) := abs_le.mpr ⟨by omega, by omega⟩
        obtain ⟨filled, ends, members⟩ :=
          ih next (by omega) (gaps.add (ofInt m))
        refine ⟨filled, ?_, ?_⟩
        · rw [fillGaps, lt_ofInt hm hSeq, if_pos (by simpa using more), ofInt_add_one hm]
          exact ends
        · intro x
          rw [members, JsSet.mem_toList_add, ← or_assoc]
          apply or_congr_left
          constructor
          · rintro (⟨n, above, below, rfl⟩ | rfl)
            · exact ⟨n, by omega, below, rfl⟩
            · exact ⟨m, le_rfl, more, rfl⟩
          · intro ⟨n, above, below, same⟩
            rcases above.eq_or_lt with rfl | above
            · exact .inr same
            · exact .inl ⟨n, by omega, below, same⟩
      · exact done _ m hm (not_lt.mp more) gaps

end Integers

end Copresence
