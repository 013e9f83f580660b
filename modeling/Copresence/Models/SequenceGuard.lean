import Mathlib.Data.List.Range
import Mathlib.Data.Int.Init
import Copresence.Lib.JsMap

/-! The inbound ordering guard of one connection, over integer arguments: the
source's test for a non-finite number never applies to these. -/
namespace Copresence

open Collections

/-- A jump past this span is accepted without listing what it skipped. -/
def maxTrackedGapSpan : Int := 10000

structure SequenceGuard where
  lastSeen : Option Int := none
  gaps : JsSet Int := JsMap.empty
deriving DecidableEq

/-- The numbers strictly between two accepted ones, ascending. -/
def missedBetween (last seq : Int) : List Int :=
  (List.range (seq - last - 1).toNat).map fun offset => last + 1 + offset

/-- Records `seq` and says whether it is newer than anything seen before. A
late arrival only fills its gap. -/
def SequenceGuard.accept (guard : SequenceGuard) (seq : Int) : SequenceGuard × Bool :=
  match guard.lastSeen with
  | none => ({ guard with lastSeen := some seq }, true)
  | some last =>
    if seq ≤ last then ({ guard with gaps := JsMap.delete guard.gaps seq }, false)
    else if seq - last ≤ maxTrackedGapSpan then
      ({ lastSeen := some seq, gaps := (missedBetween last seq).foldl JsSet.add guard.gaps }, true)
    else ({ guard with lastSeen := some seq }, true)

/-- The numbers skipped over that have not arrived, ascending. -/
def SequenceGuard.observedGaps (guard : SequenceGuard) : List Int :=
  guard.gaps.toList.mergeSort (· ≤ ·)

/-- Whether a number is newer than anything the guard has seen. -/
def SequenceGuard.Newer (guard : SequenceGuard) (seq : Int) : Prop :=
  ∀ last, guard.lastSeen = some last → last < seq

theorem SequenceGuard.accept_snd (guard : SequenceGuard) (seq : Int) :
    (guard.accept seq).2 = true ↔ guard.Newer seq := by
  rw [accept, Newer]
  cases h : guard.lastSeen with
  | none => simp
  | some last =>
      by_cases hle : seq ≤ last
      · simp [hle]
      · have hlt : last < seq := Int.not_le.mp hle
        by_cases hs : seq - last ≤ maxTrackedGapSpan <;> simp [hle, hs, hlt]

/-- An accepted number becomes the last one seen; a rejected one changes
nothing but the gaps. -/
theorem SequenceGuard.accept_lastSeen (guard : SequenceGuard) (seq : Int) :
    (guard.accept seq).1.lastSeen =
      if (guard.accept seq).2 = true then some seq else guard.lastSeen := by
  rw [accept]
  cases h : guard.lastSeen with
  | none => simp
  | some last =>
      by_cases hle : seq ≤ last
      · simp [hle]
      · by_cases hs : seq - last ≤ maxTrackedGapSpan <;> simp [hle, hs]

/-- Whether the guard accepts each of these in turn. -/
def SequenceGuard.acceptAll (guard : SequenceGuard) : List Int → Bool
  | [] => true
  | seq :: rest => (guard.accept seq).2 && (guard.accept seq).1.acceptAll rest

/-- It does exactly when they are new to it and each is newer than the one
before. -/
theorem SequenceGuard.acceptAll_iff {guard : SequenceGuard} {seqs : List Int} :
    guard.acceptAll seqs = true ↔ (∀ seq ∈ seqs, guard.Newer seq) ∧ seqs.Pairwise (· < ·) := by
  induction seqs generalizing guard with
  | nil => simp [acceptAll]
  | cons seq rest ih =>
      rw [acceptAll, Bool.and_eq_true, accept_snd, ih, List.pairwise_cons]
      have moved : guard.Newer seq → ∀ other,
          (guard.accept seq).1.Newer other ↔ seq < other := by
        intro newer other
        rw [Newer, accept_lastSeen, if_pos ((guard.accept_snd seq).mpr newer)]
        simp
      constructor
      · intro ⟨newer, restNewer, ordered⟩
        have above : ∀ other ∈ rest, seq < other := fun other ho =>
          (moved newer other).mp (restNewer other ho)
        refine ⟨?_, above, ordered⟩
        intro other ho
        rcases List.mem_cons.mp ho with rfl | ho
        · exact newer
        · exact fun last hl => Int.lt_trans (newer last hl) (above other ho)
      · intro ⟨allNewer, above, ordered⟩
        have newer := allNewer seq List.mem_cons_self
        exact ⟨newer, fun other ho => (moved newer other).mpr (above other ho), ordered⟩

end Copresence
