import Mathlib.Data.List.Basic
import Mathlib.Data.List.Nodup

/-! Callbacks asked of a host, each armed under a handle given out once. A program
holds them when each kind of callback is armed under exactly the handle its own
variable has. -/
namespace Transition

/-- `next` is the handle of the next request. -/
structure CallbackTable (Callback : Type*) where
  next : Nat := 1
  armed : List (Nat × Callback) := []

namespace CallbackTable

variable {Callback : Type*} {table : CallbackTable Callback}

/-- The handle is `next`. -/
def request (callback : Callback) (table : CallbackTable Callback) : CallbackTable Callback where
  next := table.next + 1
  armed := table.armed ++ [(table.next, callback)]

def cancel (handle : Nat) (table : CallbackTable Callback) : CallbackTable Callback :=
  { table with armed := table.armed.filter (·.1 ≠ handle) }

/-- What is armed under this handle. -/
def callback? (handle : Nat) (table : CallbackTable Callback) : Option Callback :=
  table.armed.lookup handle

/-- A callback that is found is armed. -/
theorem mem_armed_of_callback? {handle : Nat} {callback : Callback}
    (h : table.callback? handle = some callback) : (handle, callback) ∈ table.armed := by
  rw [callback?, List.lookup_eq_some_iff] at h
  obtain ⟨before, after, same, _⟩ := h
  simp [same]

/-- The handle of each kind of callback is the one its variable has. -/
structure Held (table : CallbackTable Callback) (handleOf : Callback → Option Nat) : Prop where
  armed_iff : ∀ handle callback,
    (handle, callback) ∈ table.armed ↔ handleOf callback = some handle
  old : ∀ entry ∈ table.armed, entry.1 < table.next
  distinct : (table.armed.map Prod.fst).Nodup

namespace Held

variable {held after : Callback → Option Nat} {k : Callback} {handle : Nat}

theorem initial : Held ({} : CallbackTable Callback) fun _ => none where
  armed_iff := by simp
  old := by simp
  distinct := List.nodup_nil

/-- Variables with the same handles hold the same callbacks. -/
theorem congr (holds : Held table held) (same : ∀ callback, after callback = held callback) :
    Held table after := by
  rw [show after = held from funext same]
  exact holds

/-- A callback that is asked for is held by the variable that takes its handle. -/
theorem request (holds : Held table held) (free : held k = none)
    (own : after k = some table.next)
    (others : ∀ callback, callback ≠ k → after callback = held callback) :
    Held (table.request k) after where
  armed_iff := by
    intro handle callback
    have fresh : held callback ≠ some table.next := by
      intro has
      have early := holds.old _ ((holds.armed_iff table.next callback).mpr has)
      exact Nat.lt_irrefl _ early
    by_cases same : callback = k
    · subst same
      simp [CallbackTable.request, holds.armed_iff, free, own, eq_comm]
    · simp [CallbackTable.request, holds.armed_iff, others callback same, same]
  old := by
    intro entry listed
    rcases List.mem_append.mp listed with before | new
    · exact Nat.lt_succ_of_lt (holds.old entry before)
    · rw [List.mem_singleton.mp new]
      exact Nat.lt_succ_self _
  distinct := by
    rw [CallbackTable.request, List.map_append, List.nodup_append]
    refine ⟨holds.distinct, List.nodup_singleton _, ?_⟩
    intro before given new isNew
    obtain ⟨entry, listed, rfl⟩ := List.mem_map.mp given
    rw [List.mem_singleton.mp isNew]
    exact Nat.ne_of_lt (holds.old entry listed)

/-- A callback that is cancelled is held by no variable. -/
theorem cancel (holds : Held table held) (has : held k = some handle)
    (own : after k = none)
    (others : ∀ callback, callback ≠ k → after callback = held callback) :
    Held (table.cancel handle) after where
  armed_iff := by
    intro other callback
    have apart : ∀ callback, held callback = some handle → callback = k := by
      intro callback also
      have first := (holds.armed_iff handle callback).mpr also
      have second := (holds.armed_iff handle k).mpr has
      have same := List.inj_on_of_nodup_map holds.distinct first second rfl
      exact congrArg Prod.snd same
    by_cases same : callback = k
    · subst same
      simp only [CallbackTable.cancel, List.mem_filter, holds.armed_iff, has, own,
        decide_eq_true_eq]
      simp [eq_comm]
    · have elsewhere : held callback ≠ some handle := fun also => same (apart callback also)
      simp only [CallbackTable.cancel, List.mem_filter, holds.armed_iff, others callback same,
        decide_eq_true_eq]
      refine and_iff_left_of_imp fun also isHandle => elsewhere ?_
      rw [also, isHandle]
  old := fun entry listed => holds.old entry (List.mem_of_mem_filter listed)
  distinct := holds.distinct.sublist (List.filter_sublist.map Prod.fst)

/-- The callback armed under a handle is the one whose variable has it. -/
theorem callback?_eq_some_iff (holds : Held table held) :
    table.callback? handle = some k ↔ held k = some handle := by
  constructor
  · intro armed
    exact (holds.armed_iff handle k).mp (mem_armed_of_callback? armed)
  · intro has
    have armed := (holds.armed_iff handle k).mpr has
    cases found : table.callback? handle with
    | none =>
        rw [callback?, List.lookup_eq_none_iff] at found
        exact absurd (found _ armed) (by simp)
    | some other =>
        have listed := mem_armed_of_callback? found
        have same := List.inj_on_of_nodup_map holds.distinct listed armed rfl
        exact congrArg (some ∘ Prod.snd) same

/-- Where no variable has a handle, nothing is armed. -/
theorem armed_eq_nil (holds : Held table held) (idle : ∀ k, held k = none) :
    table.armed = [] := by
  rw [List.eq_nil_iff_forall_not_mem]
  rintro ⟨handle, k⟩ listed
  have has := (holds.armed_iff handle k).mp listed
  rw [idle k] at has
  cases has

end Held

end CallbackTable

end Transition
