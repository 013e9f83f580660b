import Mathlib.Tactic.TypeStar

/-! Validation that goes on after a failure, so that every issue of every part
is reported. -/

inductive Validated (ε α : Type*) where
  | valid (value : α)
  | invalid (issues : List ε)

namespace Validated

variable {ε α β : Type*}

def map (f : α → β) : Validated ε α → Validated ε β
  | valid value => valid (f value)
  | invalid issues => invalid issues

/-- The issues of both parts, in order. -/
def seq : Validated ε (α → β) → Validated ε α → Validated ε β
  | valid f, valid value => valid (f value)
  | valid _, invalid issues => invalid issues
  | invalid issues, valid _ => invalid issues
  | invalid issues, invalid more => invalid (issues ++ more)

theorem map_eq_valid_iff {f : α → β} {part : Validated ε α} {result : β} :
    part.map f = valid result ↔ ∃ value, part = valid value ∧ f value = result := by
  cases part <;> simp [map]

theorem seq_eq_valid_iff {whole : Validated ε (α → β)} {part : Validated ε α} {result : β} :
    whole.seq part = valid result ↔
      ∃ f value, whole = valid f ∧ part = valid value ∧ f value = result := by
  cases whole <;> cases part <;> simp [seq]

/-- What is valid is what every part makes of it, the last part first. -/
theorem map_seq_eq_valid_iff {γ : Type*} {f : α → β → γ} {first : Validated ε α}
    {second : Validated ε β} {result : γ} :
    (first.map f).seq second = valid result ↔
      ∃ a b, first = valid a ∧ second = valid b ∧ f a b = result := by
  rw [seq_eq_valid_iff]
  constructor
  · rintro ⟨g, b, hg, hb, rfl⟩
    obtain ⟨a, ha, rfl⟩ := map_eq_valid_iff.mp hg
    exact ⟨a, b, ha, hb, rfl⟩
  · rintro ⟨a, b, ha, hb, rfl⟩
    exact ⟨f a, b, map_eq_valid_iff.mpr ⟨a, ha, rfl⟩, hb, rfl⟩

end Validated
