import Mathlib.Data.List.Infix
import Mathlib.Data.List.Sort
import Copresence.Models.SequenceGuard
import Copresence.Protocol.Schemas

/-! What the inbound guard knows after any history of numbers, and how many
gaps it may have to remember. -/
namespace Copresence

open Collections

/-- A pair stands side by side in a longer list if it did before or ends it. -/
theorem pair_infix_concat_iff {α : Type} {items : List α} {first second new : α} :
    [first, second] <:+: items ++ [new] ↔
      [first, second] <:+: items ∨ (items.getLast? = some first ∧ second = new) := by
  rw [List.infix_concat_iff, or_comm]
  apply or_congr_right
  rw [List.suffix_concat_iff]
  constructor
  · rintro (h | ⟨front, h, ends⟩)
    · cases h
    · obtain ⟨hFront, hNew⟩ := List.append_inj' (show [first] ++ [second] = front ++ [new] from h) rfl
      obtain rfl := List.singleton_inj.mp hNew
      rw [← hFront] at ends
      obtain ⟨before, rfl⟩ := ends
      exact ⟨List.getLast?_concat, rfl⟩
  · rintro ⟨last, rfl⟩
    obtain ⟨before, rfl⟩ := List.getLast?_eq_some_iff.mp last
    exact Or.inr ⟨[first], rfl, List.suffix_append _ _⟩

namespace SequenceGuard

/-- The guard after these numbers, from the start. -/
def run (seqs : List Int) : SequenceGuard :=
  seqs.foldl (fun guard seq => (guard.accept seq).1) {}

/-- A history with one number more is one more call of the guard. -/
theorem run_concat (past : List Int) (seq : Int) :
    run (past ++ [seq]) = ((run past).accept seq).1 := by
  rw [run, List.foldl_append]
  rfl

/-- Those of the numbers that the guard accepts, in order. -/
def accepted (guard : SequenceGuard) : List Int → List Int
  | [] => []
  | seq :: seqs =>
    if (guard.accept seq).2 then seq :: (guard.accept seq).1.accepted seqs
    else (guard.accept seq).1.accepted seqs

/-- Strictly between two numbers accepted one after the other, which are no
further apart than the guard tracks. -/
def Jumped (past : List Int) (n : Int) : Prop :=
  ∃ first second, [first, second] <:+: accepted {} past ∧ first < n ∧ n < second ∧
    second - first ≤ maxTrackedGapSpan

/-- The numbers a jump adds to the gaps. -/
def skipped (last seq : Int) : List Int :=
  if seq - last ≤ maxTrackedGapSpan then missedBetween last seq else []

/-- The missed numbers are listed upwards from the last one seen. -/
theorem missedBetween_eq (last seq : Int) :
    missedBetween last seq =
      (List.range (seq - last - 1).toNat).map fun offset : Nat => last + 1 + (offset : Int) := by
  have offsets : ((List.range (seq - last - 1).toNat).flatMap fun offset : Nat =>
      (pure (offset : Int) : List Int)) =
        (List.range (seq - last - 1).toNat).map fun offset : Nat => (offset : Int) :=
    List.map_eq_flatMap.symm
  show (List.flatMap _ _).map _ = _
  rw [offsets, List.map_map]
  rfl

/-- The missed numbers are all that lie between. -/
theorem mem_missedBetween {last seq n : Int} :
    n ∈ missedBetween last seq ↔ last < n ∧ n < seq := by
  rw [missedBetween_eq, List.mem_map]
  constructor
  · rintro ⟨offset, ho, rfl⟩
    rw [List.mem_range] at ho
    omega
  · intro ⟨above, below⟩
    refine ⟨(n - last - 1).toNat, ?_, ?_⟩
    · rw [List.mem_range]
      omega
    · omega

/-- No missed number is listed twice. -/
theorem missedBetween_nodup (last seq : Int) : (missedBetween last seq).Nodup := by
  rw [missedBetween_eq]
  apply List.nodup_range.map
  intro first second same
  dsimp only at same
  omega

/-- There are as many missed numbers as the difference, less one. -/
theorem length_missedBetween (last seq : Int) :
    (missedBetween last seq).length = (seq - last - 1).toNat := by
  rw [missedBetween_eq, List.length_map, List.length_range]

/-- A jump too wide is not listed at all. -/
theorem mem_skipped {last seq n : Int} :
    n ∈ skipped last seq ↔ seq - last ≤ maxTrackedGapSpan ∧ last < n ∧ n < seq := by
  rw [skipped]
  split
  · next near => rw [mem_missedBetween, and_iff_right near]
  · next far => simp [far]

/-- A number is the first, or late, or newer than all before it. -/
theorem accept_cases (guard : SequenceGuard) (seq : Int) :
    (guard.lastSeen = none ∧ guard.accept seq = ({ guard with lastSeen := some seq }, true)) ∨
      (∃ last, guard.lastSeen = some last ∧ seq ≤ last ∧
        guard.accept seq = ({ guard with gaps := JsMap.delete guard.gaps seq }, false)) ∨
      (∃ last, guard.lastSeen = some last ∧ last < seq ∧
        guard.accept seq =
          ({ lastSeen := some seq, gaps := (skipped last seq).foldl JsSet.add guard.gaps }, true)) := by
  rw [accept]
  cases hl : guard.lastSeen with
  | none => exact Or.inl ⟨rfl, rfl⟩
  | some last =>
      dsimp only
      split
      · next late => exact Or.inr (Or.inl ⟨last, rfl, late, rfl⟩)
      · next newer =>
          refine Or.inr (Or.inr ⟨last, rfl, Int.not_le.mp newer, ?_⟩)
          rw [skipped]
          split
          · rfl
          · rfl

/-- What a history accepts, it accepts part by part. -/
theorem accepted_append (guard : SequenceGuard) (past later : List Int) :
    guard.accepted (past ++ later) = guard.accepted past ++
      (past.foldl (fun guard seq => (guard.accept seq).1) guard).accepted later := by
  induction past generalizing guard with
  | nil => rfl
  | cons seq past ih =>
      rw [List.cons_append, accepted, accepted, List.foldl_cons, ih]
      split
      · rfl
      · rfl

/-- One number more is accepted or not, and what was accepted before stays. -/
theorem accepted_concat (past : List Int) (seq : Int) :
    accepted {} (past ++ [seq]) =
      accepted {} past ++ if ((run past).accept seq).2 then [seq] else [] :=
  accepted_append {} past [seq]

/-- What a guard knows of its history. -/
structure Knows (past : List Int) : Prop where
  newest : (run past).lastSeen = past.max?
  ends : (accepted {} past).getLast? = past.max?
  gaps : ∀ n, n ∈ (run past).gaps.toList ↔ n ∉ past ∧ Jumped past n
  below : ∀ n, Jumped past n → ∀ last ∈ past.max?, n < last

/-- The largest number of a history is the larger of the last and the rest. -/
theorem max?_concat (past : List Int) (seq : Int) :
    (past ++ [seq]).max? = some (past.max?.elim seq fun last => max last seq) := by
  cases past with
  | nil => rfl
  | cons first past =>
      rw [List.cons_append, List.max?_cons', List.max?_cons', List.foldl_append]
      rfl

/-- After one number the guard knows that one and of no gap. -/
theorem knows_singleton (seq : Int) : Knows [seq] := by
  have nothing : ∀ n, ¬Jumped [seq] n := by
    rintro n ⟨first, second, pair, _⟩
    exact absurd pair.length_le (by simp [accepted, accept])
  exact ⟨rfl, rfl, fun n => ⟨fun hm => (by cases hm), fun hj => absurd hj.2 (nothing n)⟩,
    fun n hj => absurd hj (nothing n)⟩

/-- A late number is no end of a jump. -/
theorem Knows.concat_late {past : List Int} (knows : Knows past) {seq last : Int}
    (hl : (run past).lastSeen = some last) (late : seq ≤ last)
    (h : (run past).accept seq =
      ({ run past with gaps := JsMap.delete (run past).gaps seq }, false)) :
    Knows (past ++ [seq]) := by
  have reached := run_concat past seq
  have same : accepted {} (past ++ [seq]) = accepted {} past := by
    rw [accepted_concat, h]
    exact List.append_nil _
  have jumps : ∀ n, Jumped (past ++ [seq]) n ↔ Jumped past n := by
    intro n
    rw [Jumped, Jumped, same]
  have kept : (past ++ [seq]).max? = past.max? := by
    rw [max?_concat, ← knows.newest, hl]
    exact congrArg some (max_eq_left late)
  refine ⟨?_, ?_, ?_, ?_⟩
  · rw [reached, h, kept]
    exact knows.newest
  · rw [same, kept]
    exact knows.ends
  · intro n
    rw [reached, h, jumps, List.mem_append, List.mem_singleton, not_or]
    show n ∈ JsSet.toList (JsMap.delete (run past).gaps seq) ↔ _
    rw [JsSet.mem_toList_delete, knows.gaps]
    tauto
  · intro n hj
    rw [kept]
    exact knows.below n ((jumps n).mp hj)

/-- A newer number ends a jump from the newest before. -/
theorem Knows.jumped_concat {past : List Int} (knows : Knows past) {seq last : Int}
    (hMax : past.max? = some last)
    (grown : accepted {} (past ++ [seq]) = accepted {} past ++ [seq]) (n : Int) :
    Jumped (past ++ [seq]) n ↔ Jumped past n ∨ n ∈ skipped last seq := by
  rw [mem_skipped, Jumped, Jumped, grown]
  simp only [pair_infix_concat_iff, knows.ends, hMax]
  constructor
  · rintro ⟨first, second, pair | ⟨hFirst, rfl⟩, above, below, near⟩
    · exact Or.inl ⟨first, second, pair, above, below, near⟩
    · obtain rfl := Option.some.inj hFirst
      exact Or.inr ⟨near, above, below⟩
  · rintro (⟨first, second, pair, inside⟩ | ⟨near, above, below⟩)
    · exact ⟨first, second, Or.inl pair, inside⟩
    · exact ⟨last, seq, Or.inr ⟨rfl, rfl⟩, above, below, near⟩

/-- After a number that is newer, its gaps are those before and the ones just skipped. -/
theorem Knows.concat_newer {past : List Int} (knows : Knows past) {seq last : Int}
    (hl : (run past).lastSeen = some last) (newer : last < seq)
    (h : (run past).accept seq =
      ({ lastSeen := some seq, gaps := (skipped last seq).foldl JsSet.add (run past).gaps }, true)) :
    Knows (past ++ [seq]) := by
  have reached := run_concat past seq
  have hMax : past.max? = some last := knows.newest.symm.trans hl
  have grown : accepted {} (past ++ [seq]) = accepted {} past ++ [seq] := by
    rw [accepted_concat, h]
    rfl
  have top : (past ++ [seq]).max? = some seq := by
    rw [max?_concat, hMax]
    exact congrArg some (max_eq_right (Int.le_of_lt newer))
  have jumps := knows.jumped_concat hMax grown
  have older : ∀ n, Jumped past n → n < last := fun n hj => knows.below n hj last hMax
  refine ⟨?_, ?_, ?_, ?_⟩
  · rw [reached, h, top]
  · rw [grown, top, List.getLast?_concat]
  · intro n
    rw [reached, h, jumps, List.mem_append, List.mem_singleton, not_or]
    show n ∈ JsSet.toList ((skipped last seq).foldl JsSet.add (run past).gaps) ↔ _
    rw [JsSet.mem_toList_foldl_add, knows.gaps]
    constructor
    · rintro (new | ⟨unseen, hj⟩)
      · obtain ⟨_, above, below⟩ := mem_skipped.mp new
        refine ⟨⟨?_, Int.ne_of_lt below⟩, Or.inr new⟩
        intro seen
        exact absurd ((List.max?_eq_some_iff.mp hMax).2 n seen) (Int.not_le.mpr above)
      · have below := older n hj
        exact ⟨⟨unseen, by omega⟩, Or.inl hj⟩
    · rintro ⟨⟨unseen, _⟩, hj | new⟩
      · exact Or.inr ⟨unseen, hj⟩
      · exact Or.inl new
  · intro n hj found hFound
    rw [top] at hFound
    obtain rfl := Option.some.inj hFound
    rcases (jumps n).mp hj with hj | new
    · exact Int.lt_trans (older n hj) newer
    · exact (mem_skipped.mp new).2.2

/-- What the guard knows of a history, it knows of one longer by a number. -/
theorem Knows.concat {past : List Int} (knows : Knows past) (seq : Int) :
    Knows (past ++ [seq]) := by
  rcases (run past).accept_cases seq with ⟨hl, _⟩ | ⟨last, hl, late, h⟩ | ⟨last, hl, newer, h⟩
  · rw [knows.newest] at hl
    obtain rfl := List.max?_eq_none_iff.mp hl
    exact knows_singleton seq
  · exact knows.concat_late hl late h
  · exact knows.concat_newer hl newer h

/-- The guard knows of every history. -/
theorem knows_run (past : List Int) : Knows past := by
  induction past using List.reverseRecOn with
  | nil =>
      have nothing : ∀ n, ¬Jumped [] n := by
        rintro n ⟨first, second, pair, _⟩
        exact absurd pair.length_le (by simp [accepted])
      exact ⟨rfl, rfl, fun n => ⟨fun hm => (by cases hm), fun hj => absurd hj.2 (nothing n)⟩,
        fun n hj => absurd hj (nothing n)⟩
  | append_singleton past seq ih => exact ih.concat seq

/-- The observed gaps are the stored ones. -/
theorem mem_observedGaps {guard : SequenceGuard} {n : Int} :
    n ∈ guard.observedGaps ↔ n ∈ guard.gaps.toList :=
  List.mem_mergeSort

/-- The gaps are observed in order. -/
theorem observedGaps_ascending (guard : SequenceGuard) :
    guard.observedGaps.Pairwise (· < ·) := by
  have sorted : guard.observedGaps.Pairwise (· ≤ ·) := by
    exact List.pairwise_mergeSort' _ _
  have distinct : guard.observedGaps.Nodup :=
    (List.mergeSort_perm _ _).nodup_iff.mpr guard.gaps.nodup_keys
  exact (sorted.and distinct).imp fun ⟨le, ne⟩ => lt_of_le_of_ne le ne

/-- After any history: a number is accepted exactly when it is newer than all
before it, the guard has seen the greatest of them, and its gaps are, ascending,
the numbers inside a tracked jump that never came. -/
theorem accept_exact (past : List Int) (seq : Int) :
    (((run past).accept seq).2 = true ↔ ∀ earlier ∈ past, earlier < seq) ∧
      (run past).lastSeen = past.max? ∧
      (run past).observedGaps.Pairwise (· < ·) ∧
      ∀ n, n ∈ (run past).observedGaps ↔ n ∉ past ∧ Jumped past n := by
  have knows := knows_run past
  refine ⟨?_, knows.newest, observedGaps_ascending _, fun n => ?_⟩
  · rw [accept_snd, Newer, knows.newest]
    constructor
    · intro newer earlier he
      cases hMax : past.max? with
      | none =>
          rw [List.max?_eq_none_iff.mp hMax] at he
          cases he
      | some last =>
          have below := (List.max?_eq_some_iff.mp hMax).2 earlier he
          exact Int.lt_of_le_of_lt below (newer last hMax)
    · intro newer last hMax
      exact newer last (List.max?_eq_some_iff.mp hMax).1
  · rw [mem_observedGaps]
    exact knows.gaps n

/-- At most 9999 of 10000 numbers from the first to the newest are gaps. -/
def Sparse (guard : SequenceGuard) : Prop :=
  match guard.lastSeen with
  | none => guard.gaps.size = 0
  | some last => 10000 * guard.gaps.size ≤ 9999 * last

/-- Not every number of a stride can be skipped. -/
theorem length_skipped_le {last seq : Int} (newer : last < seq) :
    10000 * ((skipped last seq).length : Int) ≤ 9999 * (seq - last) := by
  rw [skipped]
  split
  · next near =>
      rw [maxTrackedGapSpan] at near
      rw [length_missedBetween]
      omega
  · rw [List.length_nil]
    omega

/-- A newer number leaves the gaps as sparse as they were. -/
theorem Sparse.accept {guard : SequenceGuard} (sparse : guard.Sparse) {seq : Int}
    (natural : 0 ≤ seq) : (guard.accept seq).1.Sparse := by
  rcases guard.accept_cases seq with ⟨hl, h⟩ | ⟨last, hl, _, h⟩ | ⟨last, hl, newer, h⟩
  · rw [Sparse, hl] at sparse
    rw [h]
    show 10000 * (guard.gaps.size : Int) ≤ 9999 * seq
    rw [show guard.gaps.size = 0 from sparse]
    omega
  · rw [Sparse, hl] at sparse
    rw [h]
    show Sparse { guard with gaps := JsMap.delete guard.gaps seq }
    rw [Sparse]
    dsimp only
    rw [hl]
    have fewer := JsSet.size_delete_le guard.gaps seq
    dsimp only at sparse ⊢
    omega
  · rw [Sparse, hl] at sparse
    rw [h]
    show 10000 * (((skipped last seq).foldl JsSet.add guard.gaps).size : Int) ≤ 9999 * seq
    have added := JsSet.size_foldl_add_le guard.gaps (skipped last seq)
    have few := length_skipped_le newer
    dsimp only at sparse
    omega

/-- The gaps of every history are sparse. -/
theorem run_sparse {seqs : List Int} (natural : ∀ seq ∈ seqs, 0 ≤ seq) : (run seqs).Sparse := by
  induction seqs using List.reverseRecOn with
  | nil => exact rfl
  | append_singleton past seq ih =>
      rw [run_concat]
      apply Sparse.accept (ih fun earlier he => natural earlier (List.mem_append_left _ he))
      exact natural seq (List.mem_append_right _ (List.mem_singleton_self _))

/-- A tracked jump adds all it skips: nothing that far was a gap before. -/
theorem size_gaps_jump {past : List Int} {last seq : Int} (hMax : past.max? = some last)
    (newer : last < seq) (near : seq - last ≤ maxTrackedGapSpan) :
    (run (past ++ [seq])).gaps.size = (run past).gaps.size + (seq - last - 1).toNat := by
  have knows := knows_run past
  have hl := knows.newest.trans hMax
  have fresh : ∀ n ∈ missedBetween last seq, n ∉ (run past).gaps.toList := by
    intro n hm gap
    have above := (mem_missedBetween.mp hm).1
    have below := knows.below n ((knows.gaps n).mp gap).2 last hMax
    omega
  rw [run_concat]
  rcases (run past).accept_cases seq with ⟨none, _⟩ | ⟨found, hf, late, _⟩ | ⟨found, hf, _, h⟩
  · rw [hl] at none
    cases none
  · rw [hl] at hf
    obtain rfl := Option.some.inj hf
    omega
  · rw [hl] at hf
    obtain rfl := Option.some.inj hf
    rw [h]
    show ((skipped last seq).foldl JsSet.add (run past).gaps).size = _
    rw [skipped, if_pos near, JsSet.size_foldl_add (missedBetween_nodup last seq) fresh,
      length_missedBetween]

/-- The numbers 0, 10000, 20000 and so on. -/
def strides (count : Nat) : List Int := (List.range (count + 1)).map fun k : Nat => 10000 * (k : Int)

/-- One stride more goes one span further. -/
theorem strides_succ (count : Nat) :
    strides (count + 1) = strides count ++ [10000 * ((count + 1 : Nat) : Int)] := by
  rw [strides, List.range_succ, List.map_append]
  rfl

/-- The strides stay between zero and the last of them. -/
theorem mem_strides {count : Nat} {seq : Int} (h : seq ∈ strides count) :
    0 ≤ seq ∧ seq ≤ 10000 * count := by
  obtain ⟨k, hk, rfl⟩ := List.mem_map.mp h
  rw [List.mem_range] at hk
  omega

/-- The last stride is the largest. -/
theorem strides_max? (count : Nat) : (strides count).max? = some (10000 * (count : Int)) := by
  rw [List.max?_eq_some_iff]
  constructor
  · exact List.mem_map_of_mem (List.mem_range.mpr (Nat.lt_succ_self count))
  · exact fun seq h => (mem_strides h).2

/-- Every stride leaves all numbers but one as gaps. -/
theorem size_gaps_strides (count : Nat) : (run (strides count)).gaps.size = 9999 * count := by
  induction count with
  | zero => rfl
  | succ count ih =>
      rw [strides_succ, size_gaps_jump (strides_max? count), ih]
      · omega
      · omega
      · rw [maxTrackedGapSpan]
        omega

/-- A hostile sequence: all strides up to the top, and the top itself. -/
def hoard (top : Nat) : List Int :=
  if top % 10000 = 0 then strides (top / 10000) else strides (top / 10000) ++ [(top : Int)]

/-- A hoarding history stays between zero and its top. -/
theorem mem_hoard {top : Nat} {seq : Int} (h : seq ∈ hoard top) : 0 ≤ seq ∧ seq ≤ top := by
  have stride : seq ∈ strides (top / 10000) → 0 ≤ seq ∧ seq ≤ top := by
    intro hs
    obtain ⟨natural, below⟩ := mem_strides hs
    omega
  rw [hoard] at h
  split at h
  · exact stride h
  · rcases List.mem_append.mp h with h | h
    · exact stride h
    · obtain rfl := List.mem_singleton.mp h
      omega

/-- A hoarding history leaves as many gaps as any history up to its top can. -/
theorem size_gaps_hoard (top : Nat) : (run (hoard top)).gaps.size = 9999 * top / 10000 := by
  rw [hoard]
  split
  · next whole =>
      rw [size_gaps_strides]
      omega
  · next part =>
      rw [size_gaps_jump (strides_max? _), size_gaps_strides]
      · omega
      · omega
      · rw [maxTrackedGapSpan]
        omega

/-- A constant bounds the gaps stored for the numbers from 0 to some greatest
one, whatever comes in what order, exactly when it is at least 9999 of 10000 of
them. -/
theorem storedAtMost_iff (top bound : Nat) :
    (∀ seqs : List Int, (∀ seq ∈ seqs, 0 ≤ seq ∧ seq ≤ top) → (run seqs).gaps.size ≤ bound) ↔
      9999 * top / 10000 ≤ bound := by
  constructor
  · intro bounded
    rw [← size_gaps_hoard]
    exact bounded (hoard top) fun seq h => mem_hoard h
  · intro large seqs within
    have sparse := run_sparse fun seq h => (within seq h).1
    have newest := (knows_run seqs).newest
    rw [Sparse, newest] at sparse
    cases hMax : seqs.max? with
    | none =>
        rw [hMax] at sparse
        dsimp only at sparse
        omega
    | some last =>
        have below := (within last (List.max?_eq_some_iff.mp hMax).1).2
        rw [hMax] at sparse
        dsimp only at sparse
        omega

/-- A constant bounds the gaps stored for safe integers, whatever comes in what
order: 9999 of 10000 of them at most. -/
theorem stored_bounded :
    ∃ bound : Nat, ∀ seqs : List Int, (∀ seq ∈ seqs, 0 ≤ seq ∧ seq ≤ maxSafeInteger) →
      (run seqs).gaps.size ≤ bound := by
  have safe : ((maxSafeInteger.toNat : Nat) : Int) = maxSafeInteger := by
    rw [maxSafeInteger]
    rfl
  refine ⟨9999 * maxSafeInteger.toNat / 10000, fun seqs within => ?_⟩
  rw [← safe] at within
  exact (storedAtMost_iff _ _).mpr (Nat.le_refl _) seqs within

/-- That constant is large: one connection can make the guard store more than a
quadrillion numbers. -/
theorem hoard_stored :
    (∀ seq ∈ hoard maxSafeInteger.toNat, 0 ≤ seq ∧ seq ≤ maxSafeInteger) ∧
      ¬(run (hoard maxSafeInteger.toNat)).gaps.size ≤ 10 ^ 15 := by
  constructor
  · intro seq h
    have within := mem_hoard h
    rw [maxSafeInteger] at within ⊢
    omega
  · rw [size_gaps_hoard, maxSafeInteger]
    omega

end SequenceGuard

end Copresence
