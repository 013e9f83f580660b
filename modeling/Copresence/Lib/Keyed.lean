import Copresence.Lib.Run
import Mathlib.Data.List.Perm.Basic

/-! Runs whose every step acts on what one key sees: at each key such a run is
the run of that key's own events. And folds whose steps commute and repeat to
no effect: they depend on the set of steps only. -/
namespace Transition

section Keyed

variable {σ ε κ β ω : Type*} [DecidableEq κ]

/-- The events of one key, in their order. -/
def own (key : ε → κ) (k : κ) (events : List ε) : List ε := events.filter fun event => key event = k

/-- Each step acts on what its event's key sees, and on nothing else. -/
def ActsOnOwn (step : σ → ε → σ) (key : ε → κ) (look : σ → κ → β) (act : β → ε → β) : Prop :=
  ∀ state event k,
    look (step state event) k = if k = key event then act (look state k) event else look state k

/-- What is reported of each event, in the order of the run. -/
def reports (step : σ → ε → σ) (report : σ → ε → ω) (start : σ) : List ε → List (ε × ω)
  | [] => []
  | event :: events => (event, report start event) :: reports step report (step start event) events

variable {step : σ → ε → σ} {key : ε → κ} {look : σ → κ → β} {act : β → ε → β}
  (acts : ActsOnOwn step key look act)

include acts

/-- What a key sees of a run is the run of its own events. -/
theorem look_run (start : σ) (events : List ε) (k : κ) :
    look (run step start events) k = run act (look start k) (own key k events) := by
  induction events generalizing start with
  | nil => rfl
  | cons event events ih =>
      rw [run_cons, ih, acts, own, own]
      by_cases h : k = key event
      · rw [if_pos h, List.filter_cons_of_pos (by simpa using h.symm), run_cons]
      · rw [if_neg h, List.filter_cons_of_neg (by simpa using Ne.symm h)]

/-- Reports that depend on what the event's key sees are those of its own run. -/
theorem reports_own {report : σ → ε → ω} {said : β → ε → ω}
    (local_report : ∀ state event, report state event = said (look state (key event)) event)
    (start : σ) (events : List ε) (k : κ) :
    (reports step report start events).filter (fun reported => key reported.1 = k) =
      reports act said (look start k) (own key k events) := by
  induction events generalizing start with
  | nil => rfl
  | cons event events ih =>
      rw [reports, own]
      by_cases h : key event = k
      · rw [List.filter_cons_of_pos (by simpa using h), List.filter_cons_of_pos (by simpa using h),
          ih, acts, if_pos h.symm, local_report, h]
        rfl
      · rw [List.filter_cons_of_neg (by simpa using h), List.filter_cons_of_neg (by simpa using h),
          ih, acts, if_neg (Ne.symm h)]
        rfl

end Keyed

section Absorbing

variable {β ε : Type*} {step : β → ε → β}

/-- The order of these steps does not matter, and a repetition does nothing. -/
structure OrderFree (step : β → ε → β) (events : List ε) : Prop where
  comm : ∀ first ∈ events, ∀ second ∈ events, ∀ state,
    step (step state first) second = step (step state second) first
  absorb : ∀ event ∈ events, ∀ state, step (step state event) event = step state event

variable {events : List ε}

theorem OrderFree.tail {first : ε} (free : OrderFree step (first :: events)) :
    OrderFree step events where
  comm := fun x hx y hy => free.comm x (List.mem_cons_of_mem _ hx) y (List.mem_cons_of_mem _ hy)
  absorb := fun x hx => free.absorb x (List.mem_cons_of_mem _ hx)

/-- A step that comes again later may as well be left out now. -/
theorem OrderFree.run_absorbs (free : OrderFree step events) {event : ε} (h : event ∈ events)
    (state : β) : run step (step state event) events = run step state events := by
  induction events generalizing state with
  | nil => cases h
  | cons first events ih =>
      rw [run_cons, run_cons]
      rcases List.mem_cons.mp h with rfl | later
      · rw [free.absorb event List.mem_cons_self]
      · rw [free.comm event h first List.mem_cons_self]
        exact ih free.tail later (step state first)

theorem OrderFree.run_absorbs_all (free : OrderFree step events) {others : List ε}
    (subset : ∀ other ∈ others, other ∈ events) (state : β) :
    run step (run step state others) events = run step state events := by
  induction others generalizing state with
  | nil => rfl
  | cons other others ih =>
      rw [run_cons, ih (fun x hx => subset x (List.mem_cons_of_mem _ hx))]
      exact free.run_absorbs (subset other List.mem_cons_self) state

/-- Two lists with the same members run to the same state. -/
theorem OrderFree.run_eq (free : OrderFree step events) {others : List ε}
    (same : ∀ event, event ∈ events ↔ event ∈ others) (state : β) :
    run step state events = run step state others := by
  have freeOthers : OrderFree step others :=
    ⟨fun x hx y hy => free.comm x ((same x).mpr hx) y ((same y).mpr hy),
      fun x hx => free.absorb x ((same x).mpr hx)⟩
  have swapped : run step state (others ++ events) = run step state (events ++ others) := by
    apply List.Perm.foldl_eq' List.perm_append_comm
    intro x hx y hy
    have inEvents : ∀ z ∈ others ++ events, z ∈ events := by
      intro z hz
      rcases List.mem_append.mp hz with hz | hz
      · exact (same z).mpr hz
      · exact hz
    exact free.comm x (inEvents x hx) y (inEvents y hy)
  rw [run_append, run_append] at swapped
  rw [← free.run_absorbs_all (fun other ho => (same other).mpr ho) state, swapped]
  exact freeOthers.run_absorbs_all (fun event he => (same event).mp he) state

end Absorbing

end Transition
