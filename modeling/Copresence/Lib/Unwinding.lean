import Copresence.Lib.Run
import Mathlib.Data.List.Forall2

/-! Two runs side by side: what a run loses when its hidden events are taken
out, and what pairwise related events preserve. -/
namespace Transition

variable {σ ε : Type*} {step : σ → ε → σ}

section Purge

variable (step) (hidden : σ → ε → Prop) [∀ s e, Decidable (hidden s e)]

/-- The events of a run that are not hidden in the state they meet. -/
def purge (start : σ) : List ε → List ε
  | [] => []
  | event :: events =>
    if hidden start event then purge (step start event) events
    else event :: purge (step start event) events

variable {step hidden}

/-- The unwinding conditions of a relation between the states of two runs. -/
structure Unwinds (R : σ → σ → Prop) (hidden : σ → ε → Prop) (step : σ → ε → σ) : Prop where
  respects : ∀ first second event, R first second → hidden first event →
    R (step first event) second
  consistent : ∀ first second event, R first second → ¬hidden first event →
    R (step first event) (step second event)

variable {R : σ → σ → Prop}

theorem Unwinds.run_purge (unwinds : Unwinds R hidden step) {first second : σ}
    (related : R first second) (events : List ε) :
    R (run step first events) (run step second (purge step hidden first events)) := by
  induction events generalizing first second with
  | nil => exact related
  | cons event events ih =>
      rw [purge]
      by_cases h : hidden first event
      · rw [if_pos h]
        exact ih (unwinds.respects first second event related h)
      · rw [if_neg h]
        exact ih (unwinds.consistent first second event related h)

/-- As `run_purge`, where only steps meeting `A` are known to be unwound. -/
theorem run_purge_along {A : σ → ε → Prop}
    (respects : ∀ first second event, A first event → R first second → hidden first event →
      R (step first event) second)
    (consistent : ∀ first second event, A first event → R first second → ¬hidden first event →
      R (step first event) (step second event))
    {first second : σ} (related : R first second) {events : List ε}
    (along : Along step A first events) :
    R (run step first events) (run step second (purge step hidden first events)) := by
  induction events generalizing first second with
  | nil => exact related
  | cons event events ih =>
      rw [purge]
      by_cases h : hidden first event
      · rw [if_pos h]
        exact ih (respects first second event along.1 related h) along.2
      · rw [if_neg h]
        exact ih (consistent first second event along.1 related h) along.2

/-- What is visible stays so in the run without the hidden events. -/
theorem Unwinds.along_purge (unwinds : Unwinds R hidden step)
    (same : ∀ first second event, R first second → (hidden first event ↔ hidden second event))
    {first second : σ} (related : R first second) (events : List ε) :
    Along step (fun state event => ¬hidden state event) second
      (purge step hidden first events) := by
  induction events generalizing first second with
  | nil => trivial
  | cons event events ih =>
      rw [purge]
      by_cases h : hidden first event
      · rw [if_pos h]
        exact ih (unwinds.respects first second event related h)
      · rw [if_neg h]
        exact ⟨mt (same first second event related).mpr h,
          ih (unwinds.consistent first second event related h)⟩

end Purge

/-- A relation that related events preserve holds after related runs. -/
theorem run_related {R : σ → σ → Prop} {E : ε → ε → Prop}
    (preserved : ∀ first second event other, R first second → E event other →
      R (step first event) (step second other))
    {first second : σ} (related : R first second) {events others : List ε}
    (pairwise : List.Forall₂ E events others) :
    R (run step first events) (run step second others) := by
  induction pairwise generalizing first second with
  | nil => exact related
  | cons pair _ ih => exact ih (preserved _ _ _ _ related pair)

/-- Lists with the same image under a map are pairwise related where it is equal. -/
theorem forall₂_of_map_eq {α β : Type*} {f : α → β} {E : α → α → Prop} {first second : List α}
    (same : first.map f = second.map f)
    (related : ∀ a ∈ first, ∀ b ∈ second, f a = f b → E a b) : List.Forall₂ E first second := by
  have pairs : List.Forall₂ (fun a b => f a = f b) first second := by
    rw [← List.forall₂_map_right_iff, ← List.forall₂_map_left_iff, List.forall₂_eq_eq_eq]
    exact same
  obtain ⟨lengths, equal⟩ := List.forall₂_iff_zip.mp pairs
  refine List.forall₂_iff_zip.mpr ⟨lengths, fun {a b} h => ?_⟩
  obtain ⟨ha, hb⟩ := List.of_mem_zip h
  exact related a ha b hb (equal h)

theorem map_eq_of_forall₂ {α β : Type*} {f : α → β} {first second : List α}
    (pairs : List.Forall₂ (fun a b => f a = f b) first second) : first.map f = second.map f := by
  rw [← List.forall₂_map_right_iff, ← List.forall₂_map_left_iff, List.forall₂_eq_eq_eq] at pairs
  exact pairs

/-- Where a map takes both lists to one list without duplicates, it decides
which elements stand side by side. -/
theorem mem_zip_of_map_eq {α β : Type*} {f : α → β} {first second : List α}
    (same : first.map f = second.map f) (nodup : (first.map f).Nodup) {a b : α}
    (ha : a ∈ first) (hb : b ∈ second) (equal : f a = f b) : (a, b) ∈ first.zip second := by
  induction first generalizing second with
  | nil => cases ha
  | cons head first ih =>
      cases second with
      | nil => cases hb
      | cons other second =>
          rw [List.map_cons, List.map_cons, List.cons.injEq] at same
          rw [List.map_cons, List.nodup_cons] at nodup
          rw [List.zip_cons_cons]
          rcases List.mem_cons.mp ha with rfl | ha
          · rcases List.mem_cons.mp hb with rfl | hb
            · exact List.mem_cons_self
            · have twice : f a ∈ first.map f := by
                rw [same.2, equal]
                exact List.mem_map_of_mem hb
              exact absurd twice nodup.1
          · rcases List.mem_cons.mp hb with rfl | hb
            · have twice : f head ∈ first.map f := by
                rw [same.1, ← equal]
                exact List.mem_map_of_mem ha
              exact absurd twice nodup.1
            · exact List.mem_cons_of_mem _ (ih same.2 nodup.2 ha hb)

/-- A relation that every event preserves holds after one event list run from
two related states. -/
theorem run_pointwise {R : σ → σ → Prop}
    (preserved : ∀ first second event, R first second → R (step first event) (step second event))
    {first second : σ} (related : R first second) (events : List ε) :
    R (run step first events) (run step second events) :=
  run_related (E := Eq) (fun first second event _ related h => h ▸ preserved first second event related)
    related (List.forall₂_refl events)

end Transition
