import Copresence.Lib.RingBuffer
import Copresence.Services.MetricsCollector

/-! The latency samples a collector keeps are the last ones it was given, and
its percentiles are read off these in ascending order. -/
namespace Copresence

open Collections Floating

/-- The sample a call adds: one that is finite and not negative. -/
def MetricsCall.sample? : MetricsCall → Option FiniteDouble
  | .latencySample (.finite ms) => if 0 ≤ ms.value then some ms else none
  | _ => none

namespace MetricsCollector

def ofCalls (calls : List MetricsCall) : MetricsCollector := calls.foldl call {}

/-- The samples worth keeping after these calls. -/
def recent (calls : List MetricsCall) : List FiniteDouble :=
  lastOf maxLatencySamples (calls.filterMap MetricsCall.sample?)

def ring (metrics : MetricsCollector) : RingBuffer FiniteDouble :=
  { items := metrics.latencySamples, writeIndex := metrics.latencyWriteIndex }

/-- A call either adds its sample to the buffer or leaves the buffer alone. -/
theorem call_ring (metrics : MetricsCollector) (call : MetricsCall) :
    (metrics.call call).ring =
      match call.sample? with
      | none => metrics.ring
      | some ms => metrics.ring.write maxLatencySamples ms := by
  cases call with
  | latencySample ms =>
      cases ms with
      | finite ms =>
          rw [MetricsCollector.call, recordLatencySample, MetricsCall.sample?]
          by_cases negative : ms.value < 0
          · rw [if_pos ((Number.lt_zero_iff ms).mpr negative), if_neg (not_le.mpr negative)]
          · rw [if_neg fun lt => negative ((Number.lt_zero_iff ms).mp lt),
              if_pos (not_lt.mp negative)]
            by_cases room : metrics.latencySamples.length < maxLatencySamples
            · have written : metrics.ring.write maxLatencySamples ms = _ := if_pos room
              rw [if_pos room]
              exact written.symm
            · have written : metrics.ring.write maxLatencySamples ms = _ := if_neg room
              rw [if_neg room]
              exact written.symm
      | infinity negative => rfl
      | nan => rfl
  | _ => rfl

/-- The ring holds the latest samples of the calls. -/
theorem ofCalls_slides (calls : List MetricsCall) :
    RingBuffer.Slides maxLatencySamples (ofCalls calls).ring
      (calls.filterMap MetricsCall.sample?) := by
  induction calls using List.reverseRecOn with
  | nil => exact RingBuffer.slides_empty (by decide)
  | append_singleton calls call ih =>
      have turn : ofCalls (calls ++ [call]) = (ofCalls calls).call call := by
        rw [ofCalls, List.foldl_append]
        rfl
      rw [turn, call_ring, List.filterMap_append]
      cases hs : call.sample? with
      | none => simpa [hs] using ih
      | some ms => simpa [hs] using ih.write ms

/-- The comparison of the sort is that of the numbers. -/
theorem notAfter_iff (first second : FiniteDouble) :
    notAfter first second = true ↔ first.value ≤ second.value :=
  Number.sub_le_zero_iff first second

/-- Ascending order of the samples. -/
def ascending (samples : List FiniteDouble) : List FiniteDouble :=
  samples.insertionSort fun first second => first.value ≤ second.value

/-- Sorting loses and adds no sample. -/
theorem ascending_perm (samples : List FiniteDouble) : (ascending samples).Perm samples :=
  List.perm_insertionSort _ _

/-- Sorted samples ascend. -/
theorem ascending_pairwise (samples : List FiniteDouble) :
    (ascending samples).Pairwise fun first second => first.value ≤ second.value := by
  have total : Std.Total fun first second : FiniteDouble => first.value ≤ second.value :=
    ⟨fun first second => le_total first.value second.value⟩
  have transitive : IsTrans FiniteDouble fun first second => first.value ≤ second.value :=
    ⟨fun _ _ _ h h' => h.trans h'⟩
  exact List.pairwise_insertionSort _ _

/-- Samples are told apart by their numbers. -/
theorem value_injective {first second : FiniteDouble} (same : first.value = second.value) :
    first = second := by
  cases first
  cases second
  cases same
  rfl

/-- Sorting does not depend on the order the samples are stored in. -/
theorem sorted_eq {samples recent : List FiniteDouble} (perm : samples.Perm recent) :
    (samples.insertionSort fun first second => notAfter first second) = ascending recent := by
  have sameSort : (samples.insertionSort fun first second => notAfter first second) =
      ascending samples := by
    unfold ascending
    congr 1
    funext first second
    exact propext (notAfter_iff first second)
  rw [sameSort]
  apply List.Perm.eq_of_pairwise _ (ascending_pairwise samples) (ascending_pairwise recent)
    (((ascending_perm samples).trans perm).trans (ascending_perm recent).symm)
  intro first second _ _ le ge
  exact value_injective (le_antisymm le ge)

section Rounding

variable {m : Nat} (few : m ≤ maxLatencySamples) {x : ℚ}

include few

/-- Rounding goes below no integer that is below. -/
theorem le_nearest_natCast (h : (m : ℚ) ≤ x) : (m : ℚ) ≤ binary64.nearest x := by
  have place : binary64.Representable ((m : Int) : ℚ) := by
    apply representable_int
    rw [Nat.abs_cast]
    rw [maxLatencySamples] at few
    omega
  rw [Int.cast_natCast] at place
  exact Format.le_nearest place h

/-- Seven binary places are enough to keep below the next whole number. -/
theorem nearest_lt_succ (h : x ≤ m + 127 / 128) : binary64.nearest x < m + 1 := by
  have place : binary64.Representable ((128 * m + 127 : ℤ) * 2 ^ (-7 : ℤ)) := by
    refine ⟨_, -7, by decide, ?_, rfl⟩
    rw [maxLatencySamples] at few
    rw [abs_lt]
    constructor <;> norm_num [binary64] <;> omega
  have same : (((128 * m + 127 : ℤ) : ℚ) * 2 ^ (-7 : ℤ)) = m + 127 / 128 := by
    push_cast
    ring
  rw [same] at place
  have rounded := Format.nearest_le place h
  linarith

end Rounding

/-- A product with a percentage that is not whole is too far from a whole
number for rounding to get there, so only the whole ones have to be checked. -/
theorem floor_percentage (percent : Nat) {length : Nat} {p : ℚ} (hp : p = percent / 100)
    (atMost : percent ≤ 100) (bounded : length ≤ maxLatencySamples)
    (close : |literal p - p| ≤ 1 / 1000000)
    (whole : ∀ m : Nat, percent * length = 100 * m →
      (m : ℚ) ≤ binary64.nearest (literal p * length)) :
    ⌊binary64.nearest (literal p * length)⌋ = ⌊p * length⌋ := by
  obtain ⟨m, r, split, small⟩ : ∃ m r, percent * length = 100 * m + r ∧ r < 100 :=
    ⟨_, _, (Nat.div_add_mod _ 100).symm, Nat.mod_lt _ (by decide)⟩
  have few : m ≤ maxLatencySamples := by
    have := Nat.mul_le_mul atMost bounded
    omega
  have product : p * length = m + r / 100 := by
    have cast : (percent * length : ℚ) = 100 * m + r := by exact_mod_cast split
    rw [hp, div_mul_eq_mul_div, cast]
    ring
  have off : |literal p * length - p * length| ≤ 1 / 1000 := by
    have short : (length : ℚ) ≤ 1000 := by exact_mod_cast bounded
    rw [← sub_mul, abs_mul, Nat.abs_cast]
    calc |literal p - p| * length ≤ 1 / 1000000 * 1000 :=
          mul_le_mul close short (Nat.cast_nonneg length) (by norm_num)
      _ = 1 / 1000 := by norm_num
  obtain ⟨above, below⟩ := abs_le.mp off
  have nonneg : (0 : ℚ) ≤ r := Nat.cast_nonneg r
  have rest : (r : ℚ) ≤ 99 := by exact_mod_cast Nat.le_of_lt_succ small
  have exact : ⌊p * length⌋ = m := by
    rw [Int.floor_eq_iff, product, Int.cast_natCast]
    constructor <;> linarith
  rw [exact, Int.floor_eq_iff, Int.cast_natCast]
  constructor
  · rcases Nat.eq_zero_or_pos r with rfl | positive
    · exact whole m split
    · have hundredth : (1 : ℚ) ≤ r := by exact_mod_cast positive
      exact le_nearest_natCast few (by linarith)
  · exact nearest_lt_succ few (by linarith)

theorem literal_half : literal (1 / 2) = 1 / 2 :=
  Format.nearest_of_representable ⟨1, -1, by decide, by decide, by norm_num⟩

/-- Up to the size of the buffer, rounding the product moves no reading. -/
theorem floor_literal_mul (length : Fin (maxLatencySamples + 1)) :
    ⌊binary64.nearest (literal (1 / 2) * length.val)⌋ = ⌊(1 / 2 * length.val : ℚ)⌋ ∧
      ⌊binary64.nearest (literal (19 / 20) * length.val)⌋ = ⌊(19 / 20 * length.val : ℚ)⌋ ∧
      ⌊binary64.nearest (literal (99 / 100) * length.val)⌋ = ⌊(99 / 100 * length.val : ℚ)⌋ := by
  obtain ⟨length, within⟩ := length
  have bounded : length ≤ maxLatencySamples := Nat.le_of_lt_succ within
  -- The whole products are at every second, twentieth and hundredth length.
  have twentieths : ∀ k : Fin 51,
      ((19 * k.val : Nat) : ℚ) ≤ binary64.nearest (literal (19 / 20) * (20 * k.val : Nat)) := by
    decide +kernel
  have hundredths : ∀ k : Fin 11,
      ((99 * k.val : Nat) : ℚ) ≤ binary64.nearest (literal (99 / 100) * (100 * k.val : Nat)) := by
    decide +kernel
  refine ⟨?_, ?_, ?_⟩
  · apply floor_percentage 50 (by norm_num) (by decide) bounded
    · rw [literal_half]
      norm_num
    · intro m even
      obtain rfl : length = 2 * m := by omega
      apply le_nearest_natCast (by omega)
      rw [literal_half]
      push_cast
      linarith
  · apply floor_percentage 95 (by norm_num) (by decide) bounded (by decide +kernel)
    intro m whole
    obtain ⟨k, rfl⟩ : 20 ∣ length := by omega
    obtain rfl : m = 19 * k := by omega
    rw [maxLatencySamples] at bounded
    exact twentieths ⟨k, by omega⟩
  · apply floor_percentage 99 (by norm_num) (by decide) bounded (by decide +kernel)
    intro m whole
    obtain ⟨k, rfl⟩ : 100 ∣ length := by omega
    obtain rfl : m = 99 * k := by omega
    rw [maxLatencySamples] at bounded
    exact hundredths ⟨k, by omega⟩

/-- The place of a percentile among so many samples. -/
def rank (length : Nat) (p : ℚ) : Nat := min (length - 1) ⌊p * length⌋₊

/-- The index that is picked is the rank, where rounding reaches no integer. -/
theorem pickIndex_eq {length : Nat} {p : ℚ}
    (exact : ⌊binary64.nearest (literal p * length)⌋ = ⌊p * length⌋) (positive : 0 ≤ p) :
    pickIndex length p = rank length p := by
  have whole : (⌊p * length⌋₊ : Int) = ⌊p * length⌋ :=
    Int.natCast_floor_eq_floor (mul_nonneg positive (Nat.cast_nonneg length))
  rw [pickIndex, rank, exact, ← whole]
  omega

/-- A higher percentage has a higher rank. -/
theorem rank_mono {length : Nat} {p q : ℚ} (h : p ≤ q) : rank length p ≤ rank length q := by
  apply min_le_min_left
  apply Nat.floor_mono
  exact mul_le_mul_of_nonneg_right h (Nat.cast_nonneg length)

/-- A rank is that of a sample. -/
theorem rank_lt {length : Nat} (positive : 0 < length) (p : ℚ) : rank length p < length := by
  rw [rank]
  omega

/-- What an ascending list has at a lower place is no more. -/
theorem le_of_getElem? {sorted : List FiniteDouble}
    (ascends : sorted.Pairwise fun first second => first.value ≤ second.value) {i j : Nat}
    {x y : FiniteDouble} (h : i ≤ j) (hx : sorted[i]? = some x) (hy : sorted[j]? = some y) :
    x.value ≤ y.value := by
  obtain ⟨inside, rfl⟩ := List.getElem?_eq_some_iff.mp hx
  obtain ⟨inside', rfl⟩ := List.getElem?_eq_some_iff.mp hy
  rcases Nat.lt_or_eq_of_le h with less | rfl
  · exact List.pairwise_iff_getElem.mp ascends i j inside inside' less
  · exact le_refl _

/-- The element at the place of the percentile. -/
def Reads (recent : List FiniteDouble) (p : ℚ) (x : FiniteDouble) : Prop :=
  (ascending recent)[rank recent.length p]? = some x

/-- Every percentage of some samples reads one of them. -/
theorem exists_reads {recent : List FiniteDouble} (some : recent ≠ []) (p : ℚ) :
    ∃ x, Reads recent p x := by
  have inside : rank recent.length p < (ascending recent).length := by
    rw [(ascending_perm recent).length_eq]
    exact rank_lt (List.length_pos_of_ne_nil some) p
  exact ⟨_, List.getElem?_eq_getElem inside⟩

/-- Of some samples the three percentiles are read. -/
theorem percentilesOf_eq {samples recent : List FiniteDouble} (perm : samples.Perm recent)
    (nonempty : recent ≠ []) (bounded : recent.length ≤ maxLatencySamples) :
    ∃ p50 p95 p99, percentilesOf samples = some ⟨some p50, some p95, some p99⟩ ∧
      Reads recent (1 / 2) p50 ∧ Reads recent (19 / 20) p95 ∧ Reads recent (99 / 100) p99 := by
  obtain ⟨p50, h50⟩ := exists_reads nonempty (1 / 2)
  obtain ⟨p95, h95⟩ := exists_reads nonempty (19 / 20)
  obtain ⟨p99, h99⟩ := exists_reads nonempty (99 / 100)
  refine ⟨p50, p95, p99, ?_, h50, h95, h99⟩
  have filled : samples.length ≠ 0 := by
    rw [perm.length_eq]
    exact (List.length_pos_of_ne_nil nonempty).ne'
  obtain ⟨exact50, exact95, exact99⟩ :=
    floor_literal_mul ⟨recent.length, Nat.lt_succ_of_le bounded⟩
  have read : ∀ p x, Reads recent p x →
      ⌊binary64.nearest (literal p * recent.length)⌋ = ⌊p * recent.length⌋ → 0 ≤ p →
        pick (ascending recent) p = some x := by
    intro p x reads exact positive
    rw [pick, (ascending_perm recent).length_eq, pickIndex_eq exact positive]
    exact reads
  rw [percentilesOf, if_neg filled, sorted_eq perm]
  dsimp only
  rw [read _ _ h50 exact50 (by norm_num), read _ _ h95 exact95 (by norm_num),
    read _ _ h99 exact99 (by norm_num)]

/-- After any calls the buffer has the recent samples, and the percentiles are
theirs. -/
theorem latency_recent (calls : List MetricsCall) :
    (ofCalls calls).latencySamples.Perm (recent calls) ∧
      ((ofCalls calls).snapshot.latencyMs = none ↔ recent calls = []) ∧
      (recent calls = [] ∨ ∃ p50 p95 p99,
        (ofCalls calls).snapshot.latencyMs = some ⟨some p50, some p95, some p99⟩ ∧
          Reads (recent calls) (1 / 2) p50 ∧ Reads (recent calls) (19 / 20) p95 ∧
          Reads (recent calls) (99 / 100) p99 ∧ p50.value ≤ p95.value ∧ p95.value ≤ p99.value) := by
  have perm : (ofCalls calls).latencySamples.Perm (recent calls) := (ofCalls_slides calls).perm
  have bounded : (recent calls).length ≤ maxLatencySamples := by
    rw [recent, length_lastOf]
    exact Nat.min_le_right _ _
  by_cases nonempty : recent calls = []
  · have nothing : (ofCalls calls).snapshot.latencyMs = none := by
      rw [nonempty, List.perm_nil] at perm
      rw [snapshot, perm]
      rfl
    exact ⟨perm, iff_of_true nothing nonempty, Or.inl nonempty⟩
  · obtain ⟨p50, p95, p99, read, h50, h95, h99⟩ := percentilesOf_eq perm nonempty bounded
    have found : (ofCalls calls).snapshot.latencyMs = some ⟨some p50, some p95, some p99⟩ := read
    have ascends := ascending_pairwise (recent calls)
    have first : p50.value ≤ p95.value :=
      le_of_getElem? ascends (rank_mono (by norm_num)) h50 h95
    have second : p95.value ≤ p99.value :=
      le_of_getElem? ascends (rank_mono (by norm_num)) h95 h99
    have something : (ofCalls calls).snapshot.latencyMs ≠ none := by
      rw [found]
      exact Option.some_ne_none _
    exact ⟨perm, iff_of_false something nonempty,
      Or.inr ⟨p50, p95, p99, found, h50, h95, h99, first, second⟩⟩

end MetricsCollector

end Copresence
