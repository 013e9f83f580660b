import Mathlib.Data.List.Basic

/-! Statements that may throw. What was done to the state before stays done,
and a loop is left at the element that throws. -/
namespace Transition

/-- How a statement ends, with the state it leaves. -/
inductive Completion (σ : Type*) where
  | normal (state : σ)
  | thrown (state : σ)

namespace Completion

variable {σ ι : Type*}

/-- The state of either kind of end. -/
def state : Completion σ → σ
  | normal state => state
  | thrown state => state

def Returns (completion : Completion σ) : Prop := ∃ state, completion = normal state

/-- `for (const item of items) body`. -/
def forOf (body : σ → ι → Completion σ) (start : σ) : List ι → Completion σ
  | [] => normal start
  | item :: items =>
    match body start item with
    | normal state => forOf body state items
    | thrown state => thrown state

@[simp] theorem returns_normal (state : σ) : (normal state).Returns := ⟨state, rfl⟩

@[simp] theorem not_returns_thrown (state : σ) : ¬(thrown state).Returns := fun ⟨_, h⟩ => nomatch h

variable {body : σ → ι → Completion σ} {f : σ → ι → σ} {P : σ → Prop} {G : ι → Prop}

/-- A loop whose body throws at the bad elements, whatever was done before, ends
normally without any, and has then done all of its turns. -/
theorem forOf_eq_normal (invariant : ∀ state item, P state → P (f state item))
    (turn : ∀ state item, P state → G item → body state item = normal (f state item))
    {start : σ} (initially : P start) {items : List ι} (all : ∀ item ∈ items, G item) :
    forOf body start items = normal (items.foldl f start) := by
  induction items generalizing start with
  | nil => rfl
  | cons item items ih =>
      obtain ⟨here, later⟩ := List.forall_mem_cons.mp all
      rw [forOf, turn start item initially here]
      exact ih (invariant start item initially) later

theorem forOf_returns_iff (invariant : ∀ state item, P state → P (f state item))
    (turn : ∀ state item, P state → G item → body state item = normal (f state item))
    (bad : ∀ state item, P state → ¬G item → ¬(body state item).Returns)
    {start : σ} (initially : P start) {items : List ι} :
    (forOf body start items).Returns ↔ ∀ item ∈ items, G item := by
  constructor
  · intro returns
    induction items generalizing start with
    | nil => simp
    | cons item items ih =>
        by_cases here : G item
        · rw [forOf, turn start item initially here] at returns
          exact List.forall_mem_cons.mpr
            ⟨here, ih (invariant start item initially) returns⟩
        · have thrown := bad start item initially here
          rw [forOf] at returns
          cases ended : body start item with
          | normal state => exact absurd ⟨state, ended⟩ thrown
          | thrown state =>
              rw [ended] at returns
              exact absurd returns (not_returns_thrown state)
  · intro all
    exact ⟨_, forOf_eq_normal invariant turn initially all⟩

end Completion

end Transition
