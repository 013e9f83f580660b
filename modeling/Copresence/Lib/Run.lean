import Mathlib.Data.List.Basic
import Mathlib.Data.List.Induction

/-! Runs of a deterministic transition function over a list of events, and the
rules by which a fact about one step becomes a fact about every run. -/
namespace Transition

variable {σ ε : Type*} (step : σ → ε → σ)

/-- The state after all events, in order. -/
def run (start : σ) (events : List ε) : σ := events.foldl step start

@[simp] theorem run_nil (start : σ) : run step start [] = start := rfl

@[simp] theorem run_cons (start : σ) (event : ε) (events : List ε) :
    run step start (event :: events) = run step (step start event) events := rfl

theorem run_append (start : σ) (first second : List ε) :
    run step start (first ++ second) = run step (run step start first) second :=
  List.foldl_append

theorem run_concat (start : σ) (events : List ε) (event : ε) :
    run step start (events ++ [event]) = step (run step start events) event := by
  rw [run_append]
  rfl

/-- `P` holds in every state the run reaches, its start included. -/
def Always (P : σ → Prop) (start : σ) : List ε → Prop
  | [] => P start
  | event :: events => P start ∧ Always P (step start event) events

/-- Every step of the run meets the condition `C` in the state it leaves. -/
def Along (C : σ → ε → Prop) (start : σ) : List ε → Prop
  | [] => True
  | event :: events => C start event ∧ Along C (step start event) events

instance decidableAlong {C : σ → ε → Prop} [∀ s e, Decidable (C s e)] (start : σ) :
    (events : List ε) → Decidable (Along step C start events)
  | [] => isTrue trivial
  | event :: events =>
    have := decidableAlong (C := C) (step start event) events
    inferInstanceAs (Decidable (C start event ∧ Along step C (step start event) events))

variable {step}

/-- An invariant of every step is an invariant of every run. -/
theorem invariant_run {P : σ → Prop} (preserved : ∀ s e, P s → P (step s e))
    {start : σ} (initially : P start) (events : List ε) : P (run step start events) := by
  induction events generalizing start with
  | nil => exact initially
  | cons event events ih => exact ih (preserved start event initially)

/-- As `invariant_run`, where only the run's own events are known to preserve. -/
theorem invariant_run_mem {P : σ → Prop} {start : σ} (initially : P start) {events : List ε}
    (preserved : ∀ s, ∀ e ∈ events, P s → P (step s e)) : P (run step start events) := by
  induction events generalizing start with
  | nil => exact initially
  | cons event events ih =>
      exact ih (preserved start event List.mem_cons_self initially)
        fun s e he => preserved s e (List.mem_cons_of_mem _ he)

/-- What one event of the run brings about, and no event undoes, holds in the
end. -/
theorem eventually_run {P Q : σ → Prop} {start : σ} (initially : P start) {events : List ε}
    (preserved : ∀ s, ∀ e ∈ events, P s → P (step s e))
    (kept : ∀ s, ∀ e ∈ events, P s → Q s → Q (step s e))
    {event : ε} (occurs : event ∈ events) (reached : ∀ s, P s → Q (step s event)) :
    Q (run step start events) := by
  obtain ⟨before, after, rfl⟩ := List.append_of_mem occurs
  have hBefore : ∀ e ∈ before, e ∈ before ++ event :: after :=
    fun e he => List.mem_append_left _ he
  have hAfter : ∀ e ∈ after, e ∈ before ++ event :: after :=
    fun e he => List.mem_append_right _ (List.mem_cons_of_mem _ he)
  have reachedP := invariant_run_mem initially fun s e he => preserved s e (hBefore e he)
  rw [run_append, run_cons]
  refine (invariant_run_mem (P := fun s => P s ∧ Q s) ⟨?_, reached _ reachedP⟩ ?_).2
  · exact preserved _ event (by simp) reachedP
  · intro s e he holds
    exact ⟨preserved s e (hAfter e he) holds.1, kept s e (hAfter e he) holds.1 holds.2⟩

/-- As `invariant_run`, for a property that only steps meeting `C` preserve. -/
theorem invariant_run_along {P : σ → Prop} {C : σ → ε → Prop}
    (preserved : ∀ s e, C s e → P s → P (step s e)) {start : σ} (initially : P start)
    {events : List ε} (along : Along step C start events) : P (run step start events) := by
  induction events generalizing start with
  | nil => exact initially
  | cons event events ih => exact ih (preserved start event along.1 initially) along.2

theorem Always.start {P : σ → Prop} {start : σ} {events : List ε}
    (always : Always step P start events) : P start := by
  cases events with
  | nil => exact always
  | cons event events => exact always.1

/-- `Always` is the property of every prefix of the run. -/
theorem always_iff_prefix {P : σ → Prop} {start : σ} {events : List ε} :
    Always step P start events ↔ ∀ pre, pre <+: events → P (run step start pre) := by
  induction events generalizing start with
  | nil => simp [Always]
  | cons event events ih =>
      rw [Always, ih]
      constructor
      · intro ⟨here, later⟩ pre hp
        cases pre with
        | nil => exact here
        | cons first pre =>
            obtain ⟨rfl, rest⟩ := List.cons_prefix_cons.mp hp
            exact later pre rest
      · intro h
        exact ⟨h [] List.nil_prefix, fun pre hp =>
          h (event :: pre) (List.cons_prefix_cons.mpr ⟨rfl, hp⟩)⟩

theorem along_append {C : σ → ε → Prop} {start : σ} {first second : List ε} :
    Along step C start (first ++ second) ↔
      Along step C start first ∧ Along step C (run step start first) second := by
  induction first generalizing start with
  | nil => simp [Along]
  | cons event first ih => rw [List.cons_append, Along, Along, ih, and_assoc, run_cons]

/-- `Along` is the condition at every step of the run. -/
theorem along_iff_prefix {C : σ → ε → Prop} {start : σ} {events : List ε} :
    Along step C start events ↔
      ∀ pre event, pre ++ [event] <+: events → C (run step start pre) event := by
  induction events generalizing start with
  | nil => simp [Along]
  | cons first events ih =>
      rw [Along, ih]
      constructor
      · intro ⟨here, later⟩ pre event hp
        cases pre with
        | nil =>
            obtain ⟨rfl, _⟩ := List.cons_prefix_cons.mp hp
            exact here
        | cons other pre =>
            obtain ⟨rfl, rest⟩ := List.cons_prefix_cons.mp hp
            exact later pre event rest
      · intro h
        exact ⟨h [] first (List.cons_prefix_cons.mpr ⟨rfl, List.nil_prefix⟩), fun pre event hp =>
          h (first :: pre) event (List.cons_prefix_cons.mpr ⟨rfl, hp⟩)⟩

/-- Where steps that keep `P` have met `C`, and those that meet `C` keep an
invariant stronger than `P`, a run keeps `P` throughout exactly when all its
steps meet `C`. -/
theorem always_iff_along_of_kept {P R : σ → Prop} {C : σ → ε → Prop} {allowed : ε → Prop}
    (stronger : ∀ s, R s → P s)
    (needed : ∀ s e, allowed e → R s → P (step s e) → C s e)
    (kept : ∀ s e, allowed e → R s → C s e → R (step s e))
    {start : σ} (initially : R start) {events : List ε} (every : ∀ e ∈ events, allowed e) :
    Always step P start events ↔ Along step C start events := by
  induction events generalizing start with
  | nil => simpa [Always, Along] using stronger start initially
  | cons event events ih =>
      have here := every event List.mem_cons_self
      have rest : ∀ e ∈ events, allowed e := fun e he => every e (List.mem_cons_of_mem _ he)
      rw [Always, Along]
      constructor
      · intro ⟨_, later⟩
        have met := needed start event here initially later.start
        exact ⟨met, (ih (kept start event here initially met) rest).mp later⟩
      · intro ⟨met, later⟩
        exact ⟨stronger start initially, (ih (kept start event here initially met) rest).mpr later⟩

/-- Where one step keeps `P` exactly when it meets `C`, a run keeps `P`
throughout exactly when all its steps meet `C`. -/
theorem always_iff_along {P I : σ → Prop} {C : σ → ε → Prop} {allowed : ε → Prop}
    (inductive_I : ∀ s e, allowed e → I s → I (step s e))
    (exact_step : ∀ s e, allowed e → I s → P s → (P (step s e) ↔ C s e))
    {start : σ} (initially : I start) (holds : P start) {events : List ε}
    (every : ∀ e ∈ events, allowed e) :
    Always step P start events ↔ Along step C start events :=
  always_iff_along_of_kept (R := fun s => I s ∧ P s) (fun _ both => both.2)
    (fun s e here both later => (exact_step s e here both.1 both.2).mp later)
    (fun s e here both met =>
      ⟨inductive_I s e here both.1, (exact_step s e here both.1 both.2).mpr met⟩)
    ⟨initially, holds⟩ every

/-- A run seen through a map that commutes with the steps. -/
theorem run_map {τ : Type*} {step' : τ → ε → τ} {f : σ → τ}
    (commutes : ∀ s e, f (step s e) = step' (f s) e) (start : σ) (events : List ε) :
    f (run step start events) = run step' (f start) events := by
  induction events generalizing start with
  | nil => rfl
  | cons event events ih => rw [run_cons, run_cons, ih, commutes]

theorem along_map {τ : Type*} {step' : τ → ε → τ} {f : σ → τ} {C : τ → ε → Prop}
    (commutes : ∀ s e, f (step s e) = step' (f s) e) {start : σ} {events : List ε} :
    Along step (fun s e => C (f s) e) start events ↔ Along step' C (f start) events := by
  induction events generalizing start with
  | nil => exact Iff.rfl
  | cons event events ih => rw [Along, Along, ih, commutes]

/-- Conditions that an invariant makes equivalent are met along the same runs. -/
theorem along_iff_along {I : σ → Prop} {C D : σ → ε → Prop}
    (inductive_I : ∀ s e, I s → I (step s e)) (same : ∀ s e, I s → (C s e ↔ D s e))
    {start : σ} (initially : I start) {events : List ε} :
    Along step C start events ↔ Along step D start events := by
  induction events generalizing start with
  | nil => exact Iff.rfl
  | cons event events ih =>
      exact and_congr (same start event initially) (ih (inductive_I start event initially))

/-- As `along_iff_along`, where only steps that meet `A` keep the invariant and
all steps of the run do. -/
theorem along_iff_along_of_kept {I : σ → Prop} {A C D : σ → ε → Prop}
    (kept : ∀ s e, A s e → I s → I (step s e)) (same : ∀ s e, A s e → I s → (C s e ↔ D s e))
    {start : σ} (initially : I start) {events : List ε} (along : Along step A start events) :
    Along step C start events ↔ Along step D start events := by
  induction events generalizing start with
  | nil => exact Iff.rfl
  | cons event events ih =>
      exact and_congr (same start event along.1 initially)
        (ih (kept start event along.1 initially) along.2)

/-- What every event of the list meets is met along the run. -/
theorem along_of_forall_mem {A : ε → Prop} {start : σ} {events : List ε}
    (every : ∀ e ∈ events, A e) : Along step (fun _ e => A e) start events := by
  induction events generalizing start with
  | nil => trivial
  | cons event events ih =>
      exact ⟨every event List.mem_cons_self, ih fun e he => every e (List.mem_cons_of_mem _ he)⟩

theorem along_mono {C D : σ → ε → Prop} (weaker : ∀ s e, C s e → D s e) {start : σ}
    {events : List ε} (along : Along step C start events) : Along step D start events := by
  induction events generalizing start with
  | nil => trivial
  | cons event events ih => exact ⟨weaker start event along.1, ih along.2⟩

theorem along_and {C D : σ → ε → Prop} {start : σ} {events : List ε} :
    Along step (fun s e => C s e ∧ D s e) start events ↔
      Along step C start events ∧ Along step D start events := by
  induction events generalizing start with
  | nil => simp [Along]
  | cons event events ih =>
      rw [Along, Along, Along, ih]
      exact and_and_and_comm

/-- Two conditions on each event and the events before it hold along the same
histories, where the second keeps an invariant under which they agree. -/
theorem forall_history_iff_of_kept {R : List ε → Prop} {C D : List ε → ε → Prop}
    {events : List ε} (initially : R [])
    (same : ∀ past event, past ++ [event] <+: events → R past → (C past event ↔ D past event))
    (kept : ∀ past event, past ++ [event] <+: events → R past → D past event →
      R (past ++ [event])) :
    (∀ past event, past ++ [event] <+: events → C past event) ↔
      ∀ past event, past ++ [event] <+: events → D past event := by
  have reached : (∀ past event, past ++ [event] <+: events → R past → D past event) →
      ∀ past, past <+: events → R past := by
    intro met past
    induction past using List.reverseRecOn with
    | nil => exact fun _ => initially
    | append_singleton past event ih =>
        intro hp
        have before := ih ((List.prefix_append _ _).trans hp)
        exact kept past event hp before (met past event hp before)
  constructor
  · intro h
    have met : ∀ past event, past ++ [event] <+: events → R past → D past event :=
      fun past event hp holds => (same past event hp holds).mp (h past event hp)
    intro past event hp
    exact met past event hp (reached met past ((List.prefix_append _ _).trans hp))
  · intro h past event hp
    have holds := reached (fun past event hp _ => h past event hp) past
      ((List.prefix_append _ _).trans hp)
    exact (same past event hp holds).mpr (h past event hp)

end Transition
