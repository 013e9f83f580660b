import Copresence.Lib.JsMap
import Mathlib.Data.List.Lex
import Mathlib.Data.List.Perm.Basic

/-! Strings as UTF-16 code units, which is how they are compared and hashed
where a string is a sequence of sixteen-bit units, and maps read in the order
of their keys. -/
namespace Collections

/-- One unit, or a pair of surrogates. -/
def charUnits (c : Char) : List Nat :=
  if c.toNat < 0x10000 then [c.toNat]
  else [0xD800 + (c.toNat - 0x10000) / 0x400, 0xDC00 + (c.toNat - 0x10000) % 0x400]

def codeUnits (text : String) : List Nat := text.toList.flatMap charUnits

/-- No character is a surrogate. -/
theorem toNat_valid (c : Char) : c.toNat < 0xD800 ∨ 0xDFFF < c.toNat ∧ c.toNat < 0x110000 := c.valid

/-- Where one character ends can be told from the units. -/
theorem charUnits_append_inj {first second : Char} {before after : List Nat}
    (h : charUnits first ++ before = charUnits second ++ after) : first = second ∧ before = after := by
  have validFirst := toNat_valid first
  have validSecond := toNat_valid second
  have same : first.toNat = second.toNat ∧ before = after := by
    rw [charUnits, charUnits] at h
    split at h
    · split at h
      · simpa using h
      · simp only [List.cons_append, List.nil_append, List.cons.injEq] at h
        omega
    · split at h
      · simp only [List.cons_append, List.nil_append, List.cons.injEq] at h
        omega
      · simp only [List.cons_append, List.nil_append, List.cons.injEq] at h
        refine ⟨?_, h.2.2⟩
        omega
  exact ⟨Char.toNat_inj.mp same.1, same.2⟩

theorem codeUnits_injective {first second : String} (h : codeUnits first = codeUnits second) :
    first = second := by
  apply String.toList_injective
  rw [codeUnits, codeUnits] at h
  generalize first.toList = left at h ⊢
  generalize second.toList = right at h ⊢
  induction left generalizing right with
  | nil =>
      cases right with
      | nil => rfl
      | cons c right =>
          rw [List.flatMap_nil, List.flatMap_cons, charUnits] at h
          split at h <;> cases h
  | cons c left ih =>
      cases right with
      | nil =>
          rw [List.flatMap_nil, List.flatMap_cons, charUnits] at h
          split at h <;> cases h
      | cons d right =>
          rw [List.flatMap_cons, List.flatMap_cons] at h
          obtain ⟨rfl, rest⟩ := charUnits_append_inj h
          rw [ih _ rest]

/-- `a <= b` on strings. -/
def notAfter (first second : String) : Bool := decide (codeUnits first ≤ codeUnits second)

theorem notAfter_trans {first second third : String} (h : notAfter first second = true)
    (h' : notAfter second third = true) : notAfter first third = true :=
  decide_eq_true (le_trans (of_decide_eq_true h) (of_decide_eq_true h'))

theorem notAfter_total (first second : String) :
    (notAfter first second || notAfter second first) = true := by
  rw [Bool.or_eq_true]
  exact (le_total (codeUnits first) (codeUnits second)).imp decide_eq_true decide_eq_true

theorem notAfter_antisymm {first second : String} (h : notAfter first second = true)
    (h' : notAfter second first = true) : first = second :=
  codeUnits_injective (le_antisymm (of_decide_eq_true h) (of_decide_eq_true h'))

namespace JsMap

variable {κ α : Type} [DecidableEq κ]

/-- The entries in the order of a name that each key has. -/
def sortedBy (name : κ → String) (m : JsMap κ α) : List (κ × α) :=
  m.entries.mergeSort fun first second => notAfter (name first.1) (name second.1)

/-- Maps that hold the same under every key are the same list once sorted by
names that tell the keys apart, whatever order they were filled in. -/
theorem sortedBy_congr {name : κ → String} (apart : ∀ first second, name first = name second → first = second)
    {m other : JsMap κ α} (same : ∀ k, m.get? k = other.get? k) :
    m.sortedBy name = other.sortedBy name := by
  have listed : m.entries.Perm other.entries := by
    rw [List.perm_ext_iff_of_nodup m.nodup.of_map other.nodup.of_map]
    intro ⟨k, v⟩
    rw [← get?_eq_some_iff, ← get?_eq_some_iff, same]
  have sorted : ∀ held : JsMap κ α, (held.sortedBy name).Pairwise
      fun first second => notAfter (name first.1) (name second.1) = true := by
    intro held
    apply List.pairwise_mergeSort
    · intro _ _ _ h h'
      exact notAfter_trans h h'
    · intro _ _
      exact notAfter_total _ _
  apply List.Perm.eq_of_pairwise _ (sorted m) (sorted other)
  · exact (List.mergeSort_perm _ _).trans (listed.trans (List.mergeSort_perm _ _).symm)
  · intro ⟨k, v⟩ ⟨l, w⟩ hFirst hSecond h h'
    obtain rfl := apart _ _ (notAfter_antisymm h h')
    have hv := get?_eq_some_iff.mpr ((List.mergeSort_perm _ _).mem_iff.mp hFirst)
    have hw := get?_eq_some_iff.mpr ((List.mergeSort_perm _ _).mem_iff.mp hSecond)
    rw [same, hw] at hv
    rw [Option.some.inj hv]

end JsMap

end Collections
