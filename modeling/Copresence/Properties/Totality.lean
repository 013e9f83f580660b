import Copresence.Lib.Run
import Copresence.Models.DoubleGuard
import Copresence.Properties.Gaps

/-! When the inbound ordering guard answers: its loop ends between the two
ends of the numbers that count by ones, and elsewhere only where one step does. -/
namespace Copresence

open Collections Floating

/-- The newest finite number, after one more. -/
def newest (last : Option binary64.Finite) : Double → Option binary64.Finite
  | .finite seq =>
    match last with
    | none => some seq
    | some last => if seq.value ≤ last.value then some last else some seq
  | _ => last

/-- The loop from one number up to another, no further apart than the tracked
span, has an end: one step reaches it, or all numbers between count by ones. -/
def Reaches (last seq : ℚ) : Prop :=
  binary64.nearest (seq - last) ≤ maxTrackedGapSpan →
    seq ≤ binary64.nearest (last + 1) ∨ -2 ^ 53 - 2 ≤ last ∧ seq ≤ 2 ^ 53

/-- A number that is newer than the newest so far is reached from it. -/
def Reachable (last : Option binary64.Finite) (seq : Double) : Prop :=
  ∀ a b, last = some a → seq = .finite b → a.value < b.value → Reaches a.value b.value

namespace DoubleGuard

variable {guard : DoubleGuard} {a b : binary64.Finite}

theorem fillGaps_of_reaches (gaps : JsSet Double) (h : a.value < b.value)
    (near : binary64.nearest (b.value - a.value) ≤ maxTrackedGapSpan)
    (reaches : Reaches a.value b.value) :
    (fillGaps (.finite b) maxTrackedGapSpan.toNat (.finite a + .ofRat 1) gaps).isSome := by
  obtain ⟨first, hFirst, value⟩ := exists_add_one a
  rw [hFirst]
  rcases reaches near with once | ⟨bottom, top⟩
  · rw [fillGaps_of_le (by rw [value]; exact once)]
    rfl
  · have ends : b.value ≤ ⌊a.value⌋ + (10000 : ℕ) + 1 :=
      le_floor_add_span a.representable b.representable (by decide) (by decide)
        (by exact_mod_cast near)
    apply isSome_fillGaps (n := ⌊a.value⌋ + 1) top
    · have : -2 ^ 53 - 2 ≤ ⌊a.value⌋ := by
        apply Int.le_floor.mpr
        push_cast
        linarith
      omega
    · rw [value]
      exact floor_add_one_le bottom (lt_of_lt_of_le h top)
    · have rounds : (maxTrackedGapSpan.toNat : ℚ) = (10000 : ℕ) := rfl
      rw [rounds]
      push_cast at ends ⊢
      linarith

/-- Short of the end, what one more step adds is lost or the end is out of
reach. -/
theorem fillGaps_of_not_reaches (gaps : JsSet Double)
    (stuck : ¬Reaches a.value b.value) (rounds : Nat) :
    fillGaps (.finite b) rounds (.finite a + .ofRat 1) gaps = none := by
  obtain ⟨first, hFirst, value⟩ := exists_add_one a
  rw [Reaches, Classical.not_imp, not_or, not_le, not_and_or, not_le, not_le] at stuck
  obtain ⟨_, short, beyond⟩ := stuck
  rw [hFirst]
  by_cases high : a.value ≤ 2 ^ 53 ∧ 2 ^ 53 < b.value
  · apply fillGaps_eq_none (P := (· ≤ 2 ^ 53))
    · exact fun c hc => nearest_add_one_le hc
    · exact fun c hc => lt_of_le_of_lt hc high.2
    · rw [value]
      exact nearest_add_one_le high.1
  · have outside : 2 ^ 53 < a.value ∨ a.value < -2 ^ 53 - 2 := by
      rcases beyond with low | above
      · exact .inr low
      · left
        by_contra inside
        exact high ⟨not_lt.mp inside, above⟩
    apply fillGaps_eq_none (P := (· = binary64.nearest (a.value + 1)))
    · intro c hc
      rw [hc]
      exact nearest_add_one_twice a.representable outside
    · intro c hc
      rw [hc]
      exact short
    · exact value

/-- The guard remembers the newest finite number. -/
def Remembers (guard : DoubleGuard) (last : Option binary64.Finite) : Prop :=
  guard.lastSeen = last.map .finite

theorem accept_finite (known : guard.lastSeen = some (.finite a)) (rounds : Nat) :
    guard.accept rounds (.finite b) =
      if b.value ≤ a.value then some ({ guard with gaps := JsMap.delete guard.gaps (.finite b) }, false)
      else if binary64.nearest (b.value - a.value) ≤ maxTrackedGapSpan then
        (fillGaps (.finite b) rounds (.finite a + .ofRat 1) guard.gaps).map fun gaps =>
          ({ lastSeen := some (.finite b), gaps }, true)
      else some ({ guard with lastSeen := some (.finite b) }, true) := by
  rw [accept, known]
  by_cases late : b.value ≤ a.value
  · simp [Double.isFinite, late]
  · have near : (Number.finite b - .finite a).le (.ofRat maxTrackedGapSpan) = true ↔
        binary64.nearest (b.value - a.value) ≤ maxTrackedGapSpan := by
      rw [ofRat_intCast (by decide), Number.finite_sub, Number.ofRat_le_finite (by linarith)]
      rfl
    simp [Double.isFinite, late, near]

/-- A call ends within the tracked span of rounds where the number is reached. -/
theorem isSome_accept {last : Option binary64.Finite} (remembers : guard.Remembers last)
    {seq : Double} (reachable : Reachable last seq) : (guard.accept maxTrackedGapSpan.toNat seq).isSome := by
  cases seq with
  | nan => rfl
  | infinity negative => rfl
  | finite b =>
      cases last with
      | none =>
          rw [accept, remembers]
          rfl
      | some a =>
          rw [accept_finite remembers]
          by_cases late : b.value ≤ a.value
          · simp [late]
          · have newer := not_le.mp late
            by_cases near : binary64.nearest (b.value - a.value) ≤ maxTrackedGapSpan
            · have filled := fillGaps_of_reaches guard.gaps newer near (reachable a b rfl rfl newer)
              simpa [late, near] using filled
            · simp [late, near]

/-- And no number of rounds is enough where it is not. -/
theorem reachable_of_accept {last : Option binary64.Finite} (remembers : guard.Remembers last)
    {seq : Double} {rounds : Nat} (ended : (guard.accept rounds seq).isSome) :
    Reachable last seq := by
  intro a b hLast hSeq newer
  subst hLast hSeq
  by_contra stuck
  have near : binary64.nearest (b.value - a.value) ≤ maxTrackedGapSpan := by
    by_contra far
    exact stuck fun near => absurd near far
  rw [accept_finite remembers, if_neg (not_le.mpr newer), if_pos near,
    fillGaps_of_not_reaches _ stuck] at ended
  cases ended

theorem Remembers.accept {last : Option binary64.Finite} (remembers : guard.Remembers last)
    {seq : Double} {rounds : Nat} {result : DoubleGuard × Bool}
    (ended : guard.accept rounds seq = some result) :
    result.1.Remembers (newest last seq) := by
  cases seq with
  | nan =>
      cases ended
      exact remembers
  | infinity negative =>
      cases ended
      exact remembers
  | finite b =>
      cases last with
      | none =>
          rw [DoubleGuard.accept, remembers] at ended
          cases ended
          rfl
      | some a =>
          rw [accept_finite remembers] at ended
          by_cases late : b.value ≤ a.value
          · rw [if_pos late] at ended
            cases ended
            rw [newest, if_pos late]
            exact remembers
          · rw [if_neg late] at ended
            by_cases near : binary64.nearest (b.value - a.value) ≤ maxTrackedGapSpan
            · rw [if_pos near, Option.map_eq_some_iff] at ended
              obtain ⟨gaps, _, rfl⟩ := ended
              simp [Remembers, newest, late]
            · rw [if_neg near] at ended
              cases ended
              simp [Remembers, newest, late]

theorem along_of_acceptAll {last : Option binary64.Finite} (remembers : guard.Remembers last)
    {seqs : List Double} {rounds : Nat} (ended : (guard.acceptAll rounds seqs).isSome) :
    Transition.Along newest Reachable last seqs := by
  induction seqs generalizing guard last with
  | nil => trivial
  | cons seq rest ih =>
      rw [acceptAll] at ended
      obtain ⟨result, first⟩ := Option.isSome_iff_exists.mp (Option.isSome_of_isSome_bind ended)
      rw [first, Option.bind_some] at ended
      have reachable := reachable_of_accept remembers (Option.isSome_iff_exists.mpr ⟨_, first⟩)
      exact ⟨reachable, ih (remembers.accept first) ended⟩

theorem isSome_acceptAll {last : Option binary64.Finite} (remembers : guard.Remembers last)
    {seqs : List Double} (along : Transition.Along newest Reachable last seqs) :
    (guard.acceptAll maxTrackedGapSpan.toNat seqs).isSome := by
  induction seqs generalizing guard last with
  | nil => rfl
  | cons seq rest ih =>
      obtain ⟨result, first⟩ := Option.isSome_iff_exists.mp (isSome_accept remembers along.1)
      rw [acceptAll, first, Option.bind_some]
      exact ih (remembers.accept first) along.2

/-- Every call of a sequence ends, and within the tracked span of rounds,
exactly when each number that is newer than those before it is reached. -/
theorem ends_iff (seqs : List Double) :
    ((∃ rounds, (({} : DoubleGuard).acceptAll rounds seqs).isSome) ↔
        Transition.Along newest Reachable none seqs) ∧
      ((({} : DoubleGuard).acceptAll maxTrackedGapSpan.toNat seqs).isSome ↔
        Transition.Along newest Reachable none seqs) := by
  have remembers : ({} : DoubleGuard).Remembers none := rfl
  refine ⟨⟨?_, ?_⟩, ?_, ?_⟩
  · intro ⟨rounds, ended⟩
    exact along_of_acceptAll remembers ended
  · intro along
    exact ⟨_, isSome_acceptAll remembers along⟩
  · exact along_of_acceptAll remembers
  · exact isSome_acceptAll remembers

/-- From 2 ^ 53 the loop to the second number after it does not end. -/
theorem pastCounting_stuck :
    ¬∃ rounds, (({} : DoubleGuard).acceptAll rounds
      [.ofRat (2 ^ 53), .ofRat (2 ^ 53 + 4)]).isSome := by
  intro ⟨rounds, ended⟩
  have remembers : ({} : DoubleGuard).Remembers none := rfl
  have reachable := (along_of_acceptAll remembers ended).2.1
  obtain ⟨a, hA, valueA⟩ : ∃ a : binary64.Finite, Number.ofRat (2 ^ 53) = .finite a ∧
      a.value = 2 ^ 53 := by
    refine ⟨integer (2 ^ 53) (by decide), ?_, by norm_num [integer]⟩
    rw [← ofRat_intCast]
    norm_num
  obtain ⟨b, hB, valueB⟩ : ∃ b : binary64.Finite, Number.ofRat (2 ^ 53 + 4) = .finite b ∧
      b.value = 2 ^ 53 + 4 := by
    have large := two_pow_le_largest
    have bounded : |(2 ^ 53 + 4 : ℚ)| ≤ binary64.largest := by
      rw [abs_of_pos (by norm_num)]
      linarith
    exact ⟨⟨_, ⟨2 ^ 51 + 1, 2, by decide, by decide, by norm_num⟩, bounded⟩,
      Number.ofRat_value ⟨_, _, bounded⟩, rfl⟩
  rw [hA, hB] at reachable
  have near : binary64.nearest (b.value - a.value) = (4 : ℤ) := by
    have distance : b.value - a.value = (4 : ℤ) := by
      rw [valueA, valueB]
      norm_num
    rw [distance]
    exact Format.nearest_of_representable (representable_int (by decide))
  have short := nearest_add_one_le (c := a.value) (by rw [valueA])
  have newer : a.value < b.value := by
    rw [valueA, valueB]
    norm_num
  rcases reachable a b rfl rfl newer (by rw [near]; exact_mod_cast (by decide)) with once | counted
  · rw [valueB] at once
    linarith
  · rw [valueB] at counted
    linarith [counted.2]

end DoubleGuard

/-- The guard over all numbers has seen what the one over integers has, and
these count by ones. -/
structure Mirrors (double : DoubleGuard) (guard : SequenceGuard) : Prop where
  lastSeen : double.lastSeen = guard.lastSeen.map ofInt
  gaps : ∀ x, x ∈ double.gaps.toList ↔ ∃ n ∈ guard.gaps.toList, x = ofInt n
  lastCounted : ∀ last, guard.lastSeen = some last → Counted last
  gapsCounted : ∀ n ∈ guard.gaps.toList, Counted n

section Mirrors

variable {double : DoubleGuard} {guard : SequenceGuard} {seq last : Int}

theorem isFinite_ofInt (counted : Counted seq) : Double.isFinite (ofInt seq) = true := by
  rw [ofInt_eq counted]
  rfl

/-- A late number is taken out of the gaps of both. -/
theorem Mirrors.delete (mirrors : Mirrors double guard) (counted : Counted seq) :
    Mirrors { double with gaps := JsMap.delete double.gaps (ofInt seq) }
      { guard with gaps := JsMap.delete guard.gaps seq } where
  lastSeen := mirrors.lastSeen
  gaps := by
    intro x
    simp only [JsSet.mem_toList_delete, mirrors.gaps]
    constructor
    · rintro ⟨other, n, hn, rfl⟩
      refine ⟨n, ⟨?_, hn⟩, rfl⟩
      rintro rfl
      exact other rfl
    · rintro ⟨n, ⟨other, hn⟩, rfl⟩
      exact ⟨mt (ofInt_inj (mirrors.gapsCounted n hn) counted).mp other, n, hn, rfl⟩
  lastCounted := mirrors.lastCounted
  gapsCounted := fun n hn => mirrors.gapsCounted n (JsSet.mem_toList_delete.mp hn).2

/-- A newer number adds to the gaps what the jump to it skips. -/
theorem accept_newer (known : double.lastSeen = some (ofInt last)) (lastCounted : Counted last)
    (counted : Counted seq) (newer : last < seq) :
    ∃ filled, double.accept maxTrackedGapSpan.toNat (ofInt seq) =
        some ({ lastSeen := some (ofInt seq), gaps := filled }, true) ∧
      ∀ x, x ∈ filled.toList ↔
        (∃ n ∈ SequenceGuard.skipped last seq, x = ofInt n) ∨ x ∈ double.gaps.toList := by
  have later : (ofInt seq).le (ofInt last) = false := by
    rw [le_ofInt counted lastCounted]
    exact decide_eq_false (not_le.mpr newer)
  have near := span_ofInt lastCounted counted newer
  rw [DoubleGuard.accept, known, isFinite_ofInt counted]
  by_cases tracked : seq - last ≤ maxTrackedGapSpan
  · have low := (abs_le.mp lastCounted).1
    have high := (abs_le.mp counted).2
    have enough : seq ≤ last + 1 + maxTrackedGapSpan.toNat := by
      rw [maxTrackedGapSpan] at *
      omega
    obtain ⟨filled, fills, members⟩ :=
      fillGaps_ofInt counted (abs_le.mpr ⟨by omega, by omega⟩) enough double.gaps
    refine ⟨filled, ?_, ?_⟩
    · simp [later, near, tracked, ofInt_add_one lastCounted, fills]
    · intro x
      rw [members]
      apply or_congr_left
      simp only [SequenceGuard.mem_skipped, tracked, true_and, Int.add_one_le_iff, and_assoc]
  · refine ⟨double.gaps, ?_, ?_⟩
    · simp [later, near, tracked]
    · simp [SequenceGuard.mem_skipped, tracked]

theorem counted_of_mem_skipped (lastCounted : Counted last) (counted : Counted seq) {n : Int}
    (h : n ∈ SequenceGuard.skipped last seq) : Counted n := by
  obtain ⟨_, above, below⟩ := SequenceGuard.mem_skipped.mp h
  have low := (abs_le.mp lastCounted).1
  have high := (abs_le.mp counted).2
  exact abs_le.mpr ⟨by omega, by omega⟩

/-- One call of each answers the same. -/
theorem Mirrors.accept (mirrors : Mirrors double guard) (counted : Counted seq) :
    ∃ next, double.accept maxTrackedGapSpan.toNat (ofInt seq) = some (next, (guard.accept seq).2) ∧
      Mirrors next (guard.accept seq).1 := by
  have known := mirrors.lastSeen
  rcases guard.accept_cases seq with ⟨hLast, accepted⟩ | ⟨last, hLast, late, accepted⟩ |
    ⟨last, hLast, newer, accepted⟩
  · rw [hLast] at known
    refine ⟨{ double with lastSeen := some (ofInt seq) }, ?_, ?_⟩
    · rw [accepted, DoubleGuard.accept, known, isFinite_ofInt counted]
      rfl
    · rw [accepted]
      exact ⟨rfl, mirrors.gaps, fun n h => Option.some.inj h ▸ counted, mirrors.gapsCounted⟩
  · have older : (ofInt seq).le (ofInt last) = true := by
      rw [le_ofInt counted (mirrors.lastCounted last hLast)]
      exact decide_eq_true late
    rw [hLast] at known
    refine ⟨{ double with gaps := JsMap.delete double.gaps (ofInt seq) }, ?_, ?_⟩
    · rw [accepted, DoubleGuard.accept, known, isFinite_ofInt counted]
      simp [older]
    · rw [accepted]
      exact mirrors.delete counted
  · have lastCounted := mirrors.lastCounted last hLast
    rw [hLast] at known
    obtain ⟨filled, ends, members⟩ := accept_newer known lastCounted counted newer
    refine ⟨_, by rw [accepted]; exact ends, ?_⟩
    rw [accepted]
    refine ⟨rfl, ?_, fun n h => Option.some.inj h ▸ counted, ?_⟩
    · intro x
      simp only [members, JsSet.mem_toList_foldl_add, mirrors.gaps, or_and_right, exists_or]
    · intro n hn
      rcases JsSet.mem_toList_foldl_add.mp hn with skipped | stored
      · exact counted_of_mem_skipped lastCounted counted skipped
      · exact mirrors.gapsCounted n stored

end Mirrors

/-- Over integers that count by ones every call ends, and the guard is the one
over integers. -/
theorem mirrors_run {seqs : List Int} (counted : ∀ seq ∈ seqs, Counted seq) :
    ∃ double, ({} : DoubleGuard).acceptAll maxTrackedGapSpan.toNat (seqs.map ofInt) = some double ∧
      Mirrors double (SequenceGuard.run seqs) := by
  have start : Mirrors {} {} := ⟨rfl, by simp [JsSet.toList, JsMap.keys, JsMap.empty], by simp,
    by simp [JsSet.toList, JsMap.keys, JsMap.empty]⟩
  rw [SequenceGuard.run]
  generalize ({} : DoubleGuard) = double at start ⊢
  generalize ({} : SequenceGuard) = guard at start ⊢
  induction seqs generalizing double guard with
  | nil => exact ⟨double, rfl, start⟩
  | cons seq rest ih =>
      obtain ⟨next, first, mirrors⟩ := start.accept (counted seq List.mem_cons_self)
      rw [List.map_cons, DoubleGuard.acceptAll, first, Option.bind_some, List.foldl_cons]
      exact ih (fun other h => counted other (List.mem_cons_of_mem _ h)) next _ mirrors

end Copresence
