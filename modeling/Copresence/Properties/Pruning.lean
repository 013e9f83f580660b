import Copresence.Client.Adding
import Copresence.Lib.Newest
import Copresence.Server.Run
import Mathlib.Data.Prod.Lex
import Mathlib.Data.String.Basic

/-! Adding to the outbox side by side: each call prunes what it read, and
together the calls leave the newest entries and nothing else. -/
namespace Copresence

open Collections Ranking

section AnyOrder

variable [LinearOrder EventId]

/-- Entries compare by creation, then by the order of the listing. -/
def OutboxEntry.age (entry : OutboxEntry) : ℤ ×ₗ EventId := toLex (entry.createdAt, entry.eventId)

/-- The older entry was created earlier, or at the same time under the smaller id. -/
theorem OutboxEntry.age_lt_iff {first second : OutboxEntry} :
    first.age < second.age ↔ first.createdAt < second.createdAt ∨
      (first.createdAt = second.createdAt ∧ first.eventId < second.eventId) := by
  rw [age, age, Prod.Lex.toLex_lt_toLex]

namespace OutboxStorage

variable {storage : OutboxStorage}

/-- Each entry is stored under its own id. -/
def Keyed (storage : OutboxStorage) : Prop :=
  ∀ eventId entry, storage.get? eventId = some entry → entry.eventId = eventId

def Stored (storage : OutboxStorage) (entry : OutboxEntry) : Prop :=
  storage.get? entry.eventId = some entry

omit [LinearOrder EventId] in
/-- The values of the storage are the entries stored in it. -/
theorem mem_values_iff (keyed : storage.Keyed) {entry : OutboxEntry} :
    entry ∈ storage.values ↔ storage.Stored entry := by
  rw [JsMap.mem_values_iff]
  constructor
  · intro ⟨eventId, h⟩
    rw [Stored, keyed eventId entry h]
    exact h
  · intro h
    exact ⟨_, h⟩

/-- In the order of their ids no id comes twice. -/
theorem inOrder_increasing {entries : List OutboxEntry}
    (distinct : (entries.map OutboxEntry.eventId).Nodup) :
    (inOrder entries).Pairwise fun first second => first.eventId < second.eventId := by
  have total : Std.Total fun first second : OutboxEntry => first.eventId ≤ second.eventId :=
    ⟨fun first second => le_total first.eventId second.eventId⟩
  have transitive : IsTrans OutboxEntry fun first second => first.eventId ≤ second.eventId :=
    ⟨fun _ _ _ h h' => h.trans h'⟩
  have sorted := List.pairwise_insertionSort
    (fun first second : OutboxEntry => first.eventId ≤ second.eventId) entries
  have ids : ((inOrder entries).map OutboxEntry.eventId).Nodup :=
    ((List.perm_insertionSort _ entries).map OutboxEntry.eventId).nodup_iff.mpr distinct
  exact (sorted.and (List.pairwise_map.mp ids)).imp fun both => lt_of_le_of_ne both.1 both.2

/-- Sorted by creation, what was in order is sorted by age. -/
theorem byCreation_increasing {entries : List OutboxEntry}
    (distinct : (entries.map OutboxEntry.eventId).Nodup) :
    (byCreation (inOrder entries)).Pairwise fun first second => first.age < second.age := by
  have total : Std.Total fun first second : OutboxEntry => first.createdAt ≤ second.createdAt :=
    ⟨fun first second => le_total first.createdAt second.createdAt⟩
  have transitive : IsTrans OutboxEntry fun first second => first.createdAt ≤ second.createdAt :=
    ⟨fun _ _ _ h h' => h.trans h'⟩
  apply (pairwise_insertionSort_stable (inOrder_increasing distinct)).imp
  intro first second ⟨le, tied⟩
  rw [OutboxEntry.age_lt_iff]
  rcases lt_or_eq_of_le le with less | same
  · exact Or.inl less
  · exact Or.inr ⟨same, tied same.ge⟩

/-- Sorting by age loses and adds no entry. -/
theorem byCreation_inOrder_perm (entries : List OutboxEntry) :
    (byCreation (inOrder entries)).Perm entries :=
  (List.perm_insertionSort _ _).trans (List.perm_insertionSort _ _)

omit [LinearOrder EventId] in
/-- Stored entries have different ids. -/
theorem distinct_values (keyed : storage.Keyed) :
    (storage.values.map OutboxEntry.eventId).Nodup := by
  rw [JsMap.values_map_eq_keys keyed]
  exact storage.nodup_keys

/-- A prune deletes all it read but the newest. -/
theorem mem_excess_iff (keyed : storage.Keyed) {entry : OutboxEntry} :
    entry ∈ excess storage.listing ↔
      storage.Stored entry ∧
        entry ∉ Ranking.newest OutboxEntry.age outboxMaxEntries storage.values.toFinset := by
  have perm := byCreation_inOrder_perm storage.values
  have increasing := byCreation_increasing (distinct_values keyed)
  have taken := mem_take_iff outboxMaxEntries increasing entry
  rw [perm.mem_iff, mem_values_iff keyed, List.toFinset_eq_of_perm _ _ perm, perm.length_eq] at taken
  have length : storage.listing.length = storage.values.length := List.length_insertionSort _ _
  rw [excess, length]
  split
  · next few =>
      rw [← taken, Nat.sub_eq_zero_of_le few, List.take_zero]
  · exact taken

end OutboxStorage

namespace Adding

/-- The entries whose `put` has been made. -/
def added (adding : Adding) : Finset OutboxEntry :=
  ((adding.calls.filter fun call => call.stage ≠ .putting).map AddCall.entry).toFinset

/-- The newest of them, which no prune may delete. -/
def kept (adding : Adding) : Finset OutboxEntry :=
  Ranking.newest OutboxEntry.age outboxMaxEntries adding.added

/-- The call is going to delete the entry, if it is old. -/
def WillPrune (call : AddCall) (entry : OutboxEntry) : Prop :=
  call.stage = .counting ∨ ∃ excess, call.stage = .pruning excess ∧ entry ∈ excess

structure Pruned (entries : List OutboxEntry) (adding : Adding) : Prop where
  calls : adding.calls.map AddCall.entry = entries
  keyed : adding.storage.Keyed
  stored : ∀ entry, adding.storage.Stored entry → entry ∈ adding.added
  kept : ∀ entry ∈ adding.kept, adding.storage.Stored entry
  old : ∀ call ∈ adding.calls, ∀ excess, call.stage = .pruning excess →
    ∀ entry ∈ excess, entry ∈ adding.added ∧ entry ∉ adding.kept
  handled : ∀ entry, adding.storage.Stored entry → entry ∉ adding.kept →
    ∃ call ∈ adding.calls, WillPrune call entry

variable {entries : List OutboxEntry} {adding : Adding} {index : Nat} {call : AddCall}

omit [LinearOrder EventId] in
/-- An entry has been put once its call is past its first stage. -/
theorem mem_added_iff {entry : OutboxEntry} :
    entry ∈ adding.added ↔ ∃ call ∈ adding.calls, call.stage ≠ .putting ∧ call.entry = entry := by
  simp [added, and_assoc]

/-- Before the first turn nothing has been put or deleted. -/
theorem start_pruned (entries : List OutboxEntry) : Pruned entries (start entries) where
  calls := by simp [start, Function.comp_def]
  keyed := by simp [OutboxStorage.Keyed, start]
  stored := by simp [OutboxStorage.Stored, start]
  kept := by
    intro entry h
    obtain ⟨call, hm, put, _⟩ := mem_added_iff.mp (newest_subset h)
    obtain ⟨_, _, rfl⟩ := List.mem_map.mp hm
    exact absurd rfl put
  old := by
    intro call hm excess pruning
    obtain ⟨_, _, rfl⟩ := List.mem_map.mp hm
    cases pruning
  handled := by simp [OutboxStorage.Stored, start]

section Turn

variable (distinct : (entries.map OutboxEntry.eventId).Nodup) (pruned : Pruned entries adding)
  (found : adding.calls[index]? = some call)

omit [LinearOrder EventId] in
/-- A call that is resumed stands in its own place. -/
theorem mem_set_iff {calls : List AddCall} (found : calls[index]? = some call)
    {resumed other : AddCall} :
    other ∈ calls.set index resumed ↔
      other = resumed ∨ ∃ place, place ≠ index ∧ calls[place]? = some other := by
  have inside : index < calls.length := (List.getElem?_eq_some_iff.mp found).1
  rw [List.mem_iff_getElem?]
  constructor
  · intro ⟨place, h⟩
    by_cases same : place = index
    · rw [same, List.getElem?_set_self inside] at h
      exact Or.inl (Option.some.inj h).symm
    · rw [List.getElem?_set_ne (Ne.symm same)] at h
      exact Or.inr ⟨place, same, h⟩
  · rintro (rfl | ⟨place, another, h⟩)
    · exact ⟨index, List.getElem?_set_self inside⟩
    · exact ⟨place, by rwa [List.getElem?_set_ne (Ne.symm another)]⟩

omit [LinearOrder EventId] in
/-- A call that has its turn is one of those that have put their entry. -/
theorem mem_added_set_iff (found : adding.calls[index]? = some call) {resumed : AddCall}
    (own : resumed.entry = call.entry) (put : resumed.stage ≠ .putting) (storage : OutboxStorage)
    {entry : OutboxEntry} :
    entry ∈ added { storage, calls := adding.calls.set index resumed } ↔
      entry = call.entry ∨ entry ∈ adding.added := by
  rw [mem_added_iff, mem_added_iff]
  constructor
  · rintro ⟨other, hm, hasPut, rfl⟩
    rcases (mem_set_iff found).mp hm with rfl | ⟨place, _, there⟩
    · exact Or.inl own
    · exact Or.inr ⟨other, List.mem_of_getElem? there, hasPut, rfl⟩
  · rintro (rfl | ⟨other, hm, hasPut, rfl⟩)
    · exact ⟨resumed, (mem_set_iff found).mpr (Or.inl rfl), put, own⟩
    · obtain ⟨place, there⟩ := List.mem_iff_getElem?.mp hm
      by_cases same : place = index
      · rw [same, found] at there
        obtain rfl := Option.some.inj there
        exact ⟨resumed, (mem_set_iff found).mpr (Or.inl rfl), put, own⟩
      · exact ⟨other, (mem_set_iff found).mpr (Or.inr ⟨place, same, there⟩), hasPut, rfl⟩

omit [LinearOrder EventId] in
/-- No turn changes which entry a call is about. -/
theorem map_entry_set (found : adding.calls[index]? = some call) {resumed : AddCall}
    (own : resumed.entry = call.entry) :
    (adding.calls.set index resumed).map AddCall.entry = adding.calls.map AddCall.entry := by
  apply List.ext_getElem?
  intro place
  rw [List.getElem?_map, List.getElem?_map, List.getElem?_set]
  split
  · next same =>
      subst same
      have inside := (List.getElem?_eq_some_iff.mp found).1
      rw [if_pos inside, found, Option.map_some, Option.map_some, own]
  · rfl

include pruned

/-- Only entries of the calls are put. -/
theorem Pruned.mem_of_added {entry : OutboxEntry} (put : entry ∈ adding.added) :
    entry ∈ entries := by
  obtain ⟨call, hm, _, rfl⟩ := mem_added_iff.mp put
  rw [← pruned.calls]
  exact List.mem_map_of_mem hm

include found

/-- Nobody but the call itself puts its entry. -/
theorem Pruned.not_added (distinct : (entries.map OutboxEntry.eventId).Nodup)
    (putting : call.stage = .putting) {entry : OutboxEntry} (put : entry ∈ adding.added) :
    entry.eventId ≠ call.entry.eventId := by
  intro same
  obtain ⟨other, hm, hasPut, rfl⟩ := mem_added_iff.mp put
  have nodup : (adding.calls.map fun call => call.entry.eventId).Nodup := by
    rw [← pruned.calls, List.map_map] at distinct
    exact distinct
  have sameCall := List.inj_on_of_nodup_map nodup hm (List.mem_of_getElem? found) same
  rw [sameCall] at hasPut
  exact hasPut putting

/-- What is put already settles what a later turn must keep and may delete. -/
theorem Pruned.later {resumed : AddCall} {storage : OutboxStorage}
    (own : resumed.entry = call.entry) (put : call.stage ≠ .putting)
    (hasPut : resumed.stage ≠ .putting) (keyed : storage.Keyed)
    (stored : ∀ entry, storage.Stored entry → adding.storage.Stored entry)
    (kept : ∀ entry ∈ adding.kept, storage.Stored entry)
    (old : ∀ excess, resumed.stage = .pruning excess →
      ∀ entry ∈ excess, entry ∈ adding.added ∧ entry ∉ adding.kept)
    (handled : ∀ entry, storage.Stored entry → entry ∉ adding.kept → WillPrune call entry →
      WillPrune resumed entry) :
    Pruned entries { storage, calls := adding.calls.set index resumed } := by
  have sameAdded : added { storage, calls := adding.calls.set index resumed } = adding.added := by
    ext entry
    rw [mem_added_set_iff found own hasPut]
    apply or_iff_right_of_imp
    rintro rfl
    exact mem_added_iff.mpr ⟨call, List.mem_of_getElem? found, put, rfl⟩
  have sameKept : Adding.kept { storage, calls := adding.calls.set index resumed } = adding.kept := by
    rw [Adding.kept, Adding.kept, sameAdded]
  constructor
  · rw [map_entry_set found own, pruned.calls]
  · exact keyed
  · intro entry h
    rw [sameAdded]
    exact pruned.stored entry (stored entry h)
  · rw [sameKept]
    exact kept
  · rw [sameAdded, sameKept]
    intro other hm
    rcases (mem_set_iff found).mp hm with rfl | ⟨_, _, there⟩
    · exact old
    · exact pruned.old other (List.mem_of_getElem? there)
  · rw [sameKept]
    intro entry h notKept
    obtain ⟨other, hm, will⟩ := pruned.handled entry (stored entry h) notKept
    obtain ⟨place, there⟩ := List.mem_iff_getElem?.mp hm
    by_cases same : place = index
    · rw [same, found] at there
      rw [← Option.some.inj there] at will
      exact ⟨resumed, (mem_set_iff found).mpr (Or.inl rfl), handled entry h notKept will⟩
    · exact ⟨other, (mem_set_iff found).mpr (Or.inr ⟨place, same, there⟩), will⟩

include distinct

/-- A put adds its entry, which no listing has yet. -/
theorem Pruned.putting (stage : call.stage = .putting) :
    Pruned entries
      { storage := adding.storage.set call.entry.eventId call.entry
        calls := adding.calls.set index { call with stage := .counting } } := by
  have own : AddCall.entry { call with stage := .counting } = call.entry := rfl
  have fresh : ∀ entry ∈ adding.added, entry.eventId ≠ call.entry.eventId :=
    fun entry put => pruned.not_added found distinct stage put
  have addedNow : added
      { storage := adding.storage.set call.entry.eventId call.entry
        calls := adding.calls.set index { call with stage := .counting } } =
      insert call.entry adding.added := by
    ext entry
    rw [mem_added_set_iff found own (by simp), Finset.mem_insert]
  have keptNow : ∀ entry, entry ∈ Ranking.newest OutboxEntry.age outboxMaxEntries
      (insert call.entry adding.added) → entry = call.entry ∨ entry ∈ adding.kept := by
    intro entry h
    exact Finset.mem_insert.mp (newest_insert_subset h)
  constructor
  · exact (map_entry_set found own).trans pruned.calls
  · intro eventId entry h
    rw [JsMap.get?_set] at h
    split at h
    · next same => rw [← Option.some.inj h, same]
    · exact pruned.keyed eventId entry h
  · intro entry h
    rw [addedNow, Finset.mem_insert]
    rw [OutboxStorage.Stored, JsMap.get?_set] at h
    split at h
    · exact Or.inl (Option.some.inj h).symm
    · exact Or.inr (pruned.stored entry h)
  · rw [Adding.kept, addedNow]
    intro entry h
    rw [OutboxStorage.Stored, JsMap.get?_set]
    rcases keptNow entry h with rfl | before
    · rw [if_pos rfl]
    · rw [if_neg (fresh entry (newest_subset before))]
      exact pruned.kept entry before
  · rw [Adding.kept, addedNow]
    intro other hm excess pruning entry hx
    rcases (mem_set_iff found).mp hm with rfl | ⟨_, _, there⟩
    · cases pruning
    · obtain ⟨put, notKept⟩ :=
        pruned.old other (List.mem_of_getElem? there) excess pruning entry hx
      refine ⟨Finset.mem_insert_of_mem put, ?_⟩
      intro h
      rcases keptNow entry h with rfl | before
      · exact fresh call.entry put rfl
      · exact notKept before
  · intro entry _ _
    exact ⟨_, (mem_set_iff found).mpr (Or.inl rfl), Or.inl rfl⟩

omit distinct in
/-- What a call reads has the newest entries, so it sees all that is too old. -/
theorem Pruned.counting (stage : call.stage = .counting) :
    Pruned entries
      { storage := adding.storage
        calls := adding.calls.set index
          { call with stage := .pruning (OutboxStorage.excess adding.storage.listing) } } := by
  have sameNewest :
      Ranking.newest OutboxEntry.age outboxMaxEntries adding.storage.values.toFinset = adding.kept := by
    apply newest_eq_of_subset
    · intro entry h
      rw [List.mem_toFinset, OutboxStorage.mem_values_iff pruned.keyed]
      exact pruned.kept entry h
    · intro entry h
      rw [List.mem_toFinset, OutboxStorage.mem_values_iff pruned.keyed] at h
      exact pruned.stored entry h
  have read : ∀ entry, entry ∈ OutboxStorage.excess adding.storage.listing ↔
      adding.storage.Stored entry ∧ entry ∉ adding.kept := by
    intro entry
    rw [OutboxStorage.mem_excess_iff pruned.keyed, sameNewest]
  have own : AddCall.entry
      { call with stage := .pruning (OutboxStorage.excess adding.storage.listing) } =
        call.entry := rfl
  apply pruned.later found own (by simp [stage]) (by simp) pruned.keyed (fun _ h => h) pruned.kept
  · intro excess same entry hx
    rw [← AddStage.pruning.inj same] at hx
    obtain ⟨stored, notKept⟩ := (read entry).mp hx
    exact ⟨pruned.stored entry stored, notKept⟩
  · intro entry stored notKept _
    exact Or.inr ⟨_, rfl, (read entry).mpr ⟨stored, notKept⟩⟩

/-- A call deletes the next entry of its listing, which is not among the newest. -/
theorem Pruned.pruning {oldest : OutboxEntry} {rest : List OutboxEntry}
    (stage : call.stage = .pruning (oldest :: rest)) :
    Pruned entries
      { storage := JsMap.delete adding.storage oldest.eventId
        calls := adding.calls.set index { call with stage := .pruning rest } } := by
  have old := pruned.old call (List.mem_of_getElem? found) _ stage
  have still : ∀ entry, OutboxStorage.Stored (JsMap.delete adding.storage oldest.eventId) entry ↔
      entry.eventId ≠ oldest.eventId ∧ adding.storage.Stored entry := by
    intro entry
    rw [OutboxStorage.Stored, JsMap.get?_delete]
    split
    · next same => simp [same]
    · next another => exact (and_iff_right another).symm
  have own : AddCall.entry { call with stage := .pruning rest } = call.entry := rfl
  apply pruned.later found own (by simp [stage]) (by simp)
  · intro eventId entry h
    rw [JsMap.get?_delete] at h
    split at h
    · cases h
    · exact pruned.keyed eventId entry h
  · exact fun entry h => ((still entry).mp h).2
  · intro entry h
    refine (still entry).mpr ⟨?_, pruned.kept entry h⟩
    intro same
    obtain ⟨put, notKept⟩ := old oldest List.mem_cons_self
    have sameEntry := List.inj_on_of_nodup_map distinct (pruned.mem_of_added (newest_subset h))
      (pruned.mem_of_added put) same
    rw [sameEntry] at h
    exact notKept h
  · intro excess same entry hx
    rw [← AddStage.pruning.inj same] at hx
    exact old entry (List.mem_cons_of_mem _ hx)
  · rintro entry stored _ (counting | ⟨excess, same, hx⟩)
    · rw [stage] at counting
      cases counting
    · rw [stage] at same
      rw [← AddStage.pruning.inj same] at hx
      refine Or.inr ⟨rest, rfl, (List.mem_cons.mp hx).resolve_left ?_⟩
      rintro rfl
      exact ((still entry).mp stored).1 rfl

/-- Whatever the stage of a call, its turn prunes only what may go. -/
theorem Pruned.turn :
    Pruned entries
      { storage := (call.resume adding.storage).1
        calls := adding.calls.set index (call.resume adding.storage).2 } := by
  rw [AddCall.resume]
  cases stage : call.stage with
  | putting => exact pruned.putting distinct found stage
  | counting => exact pruned.counting found stage
  | pruning excess =>
      cases excess with
      | cons oldest rest => exact pruned.pruning distinct found stage
      | nil =>
          have own : AddCall.entry { call with stage := .done } = call.entry := rfl
          apply pruned.later found own (by simp [stage]) (by simp) pruned.keyed (fun _ h => h)
            pruned.kept
          · intro excess same
            cases same
          · rintro entry _ _ (counting | ⟨excess, same, hx⟩)
            · rw [stage] at counting
              cases counting
            · rw [stage] at same
              rw [← AddStage.pruning.inj same] at hx
              cases hx
  | done =>
      apply pruned.later found rfl (by simp [stage]) (by simp [stage]) pruned.keyed (fun _ h => h)
        pruned.kept
      · intro excess same
        rw [stage] at same
        cases same
      · intro entry _ _ will
        exact will

end Turn

/-- Every turn of the schedule prunes only what may go. -/
theorem Pruned.step (distinct : (entries.map OutboxEntry.eventId).Nodup)
    (pruned : Pruned entries adding) (index : Nat) : Pruned entries (adding.step index) := by
  rw [Adding.step]
  cases found : adding.calls[index]? with
  | none => exact pruned
  | some call => exact pruned.turn distinct found

/-- Every schedule prunes only what may go, however the calls overlap. -/
theorem run_pruned (distinct : (entries.map OutboxEntry.eventId).Nodup) (schedule : List Nat) :
    Pruned entries (run entries schedule) :=
  Transition.invariant_run (fun _ index pruned => pruned.step distinct index)
    (start_pruned entries) schedule

/-- When all calls have returned, what is stored is what none may delete. -/
theorem Pruned.stored_iff (pruned : Pruned entries adding) (completed : adding.Completed)
    {entry : OutboxEntry} :
    adding.storage.Stored entry ↔
      entry ∈ Ranking.newest OutboxEntry.age outboxMaxEntries entries.toFinset := by
  have everything : adding.added = entries.toFinset := by
    ext other
    rw [mem_added_iff, List.mem_toFinset, ← pruned.calls, List.mem_map]
    constructor
    · intro ⟨call, hm, _, h⟩
      exact ⟨call, hm, h⟩
    · intro ⟨call, hm, h⟩
      exact ⟨call, hm, by simp [completed call hm], h⟩
  rw [← everything]
  constructor
  · intro stored
    by_contra notKept
    obtain ⟨call, hm, counting | ⟨excess, pruning, _⟩⟩ := pruned.handled entry stored notKept
    · rw [completed call hm] at counting
      cases counting
    · rw [completed call hm] at pruning
      cases pruning
  · exact pruned.kept entry

/-- However the calls take turns, once all have returned the storage holds the
newest entries, up to the bound, and nothing else. -/
theorem completed_newest (entries : List OutboxEntry)
    (distinct : (entries.map OutboxEntry.eventId).Nodup) (schedule : List Nat)
    (completed : (run entries schedule).Completed) :
    (run entries schedule).storage.size = min entries.length outboxMaxEntries ∧
      (run entries schedule).storage.values.Perm
        ((OutboxStorage.byCreation (OutboxStorage.inOrder entries)).drop
          (entries.length - outboxMaxEntries)) := by
  have pruned := run_pruned distinct schedule
  have perm := OutboxStorage.byCreation_inOrder_perm entries
  have increasing := OutboxStorage.byCreation_increasing distinct
  have values : (run entries schedule).storage.values.Perm
      ((OutboxStorage.byCreation (OutboxStorage.inOrder entries)).drop
        (entries.length - outboxMaxEntries)) := by
    apply List.perm_of_nodup_nodup_toFinset_eq
    · exact (OutboxStorage.distinct_values pruned.keyed).of_map
    · exact (nodup_of_increasing increasing).sublist (List.drop_sublist _ _)
    · rw [← perm.length_eq, ← newest_toFinset outboxMaxEntries increasing, List.toFinset_eq_of_perm _ _ perm]
      ext entry
      rw [List.mem_toFinset, OutboxStorage.mem_values_iff pruned.keyed,
        pruned.stored_iff completed]
  refine ⟨?_, values⟩
  have length : (run entries schedule).storage.size =
      (run entries schedule).storage.values.length := by
    rw [JsMap.size, JsMap.values, List.length_map]
  rw [length, values.length_eq, List.length_drop, perm.length_eq]
  omega

/-- How many more turns a call needs at most, if no listing is longer than `limit`. -/
def remaining (limit : Nat) (call : AddCall) : Nat :=
  match call.stage with
  | .putting => limit + 3
  | .counting => limit + 2
  | .pruning excess => excess.length + 1
  | .done => 0

omit [LinearOrder EventId] in
/-- What is too much is no more than there is. -/
theorem length_excess_le (all : List OutboxEntry) : (OutboxStorage.excess all).length ≤ all.length := by
  rw [OutboxStorage.excess]
  split
  · exact Nat.zero_le _
  · rw [List.length_take, OutboxStorage.byCreation, List.length_insertionSort]
    exact Nat.min_le_right _ _

/-- A turn brings a call that has not returned closer to its return. -/
theorem remaining_resume {limit : Nat} {storage : OutboxStorage} (call : AddCall)
    (short : storage.listing.length ≤ limit) :
    remaining limit (call.resume storage).2 ≤ remaining limit call - 1 := by
  rw [AddCall.resume]
  cases stage : call.stage with
  | putting => simp [remaining, stage]
  | counting =>
      have few := length_excess_le storage.listing
      simp only [remaining, stage]
      omega
  | pruning excess => cases excess <;> simp [remaining, stage]
  | done => simp [remaining, stage]

/-- Nothing is stored but what the calls put, each entry once. -/
theorem Pruned.length_listing_le (pruned : Pruned entries adding) :
    adding.storage.listing.length ≤ entries.length := by
  have nodup : adding.storage.values.Nodup :=
    (OutboxStorage.distinct_values pruned.keyed).of_map
  have among : adding.storage.values ⊆ entries := by
    intro entry listed
    have stored := (OutboxStorage.mem_values_iff pruned.keyed).mp listed
    exact pruned.mem_of_added (pruned.stored entry stored)
  rw [OutboxStorage.listing, OutboxStorage.inOrder, List.length_insertionSort]
  exact (nodup.subperm among).length_le

/-- Each turn of its own counts for a call, and no turn of another against it. -/
theorem remaining_run (distinct : (entries.map OutboxEntry.eventId).Nodup) (schedule : List Nat)
    (found : (run entries schedule).calls[index]? = some call) :
    remaining entries.length call ≤ entries.length + 3 - schedule.count index := by
  induction schedule using List.reverseRecOn generalizing call with
  | nil =>
      rw [run, Transition.run_nil, start, List.getElem?_map, Option.map_eq_some_iff] at found
      obtain ⟨entry, _, rfl⟩ := found
      exact Nat.le_refl _
  | append_singleton earlier turn ih =>
      have short := (run_pruned distinct earlier).length_listing_le
      rw [run, Transition.run_concat, step] at found
      rw [List.count_append, List.count_singleton]
      cases there : (run entries earlier).calls[turn]? with
      | none =>
          rw [show Transition.run step (start entries) earlier = run entries earlier from rfl,
            there] at found
          have before := ih found
          split
          · next own =>
              rw [eq_of_beq own, found] at there
              cases there
          · exact before
      | some resumed =>
          rw [show Transition.run step (start entries) earlier = run entries earlier from rfl,
            there] at found
          dsimp only at found
          rw [List.getElem?_set] at found
          split at found
          · next own =>
              subst own
              rw [if_pos (List.getElem?_eq_some_iff.mp there).1] at found
              have before := ih there
              have closer := remaining_resume resumed short
              rw [← Option.some.inj found, if_pos (beq_self_eq_true turn)]
              omega
          · next other =>
              rw [if_neg (by simpa using other)]
              exact ih found

/-- However the turns fall, a call that gets enough of them returns. -/
theorem completed_of_turns (distinct : (entries.map OutboxEntry.eventId).Nodup)
    {schedule : List Nat}
    (turns : ∀ index < entries.length, entries.length + 3 ≤ schedule.count index) :
    (run entries schedule).Completed := by
  intro call listed
  obtain ⟨index, found⟩ := List.mem_iff_getElem?.mp listed
  have inside : index < entries.length := by
    rw [← (run_pruned distinct schedule).calls, List.length_map]
    exact (List.getElem?_eq_some_iff.mp found).1
  have left := remaining_run distinct schedule found
  have enough := turns index inside
  have none : remaining entries.length call = 0 := by omega
  rw [remaining] at none
  cases stage : call.stage <;> simp_all

/-- Each call has one turn, in the order they were made. -/
def resumeAll : OutboxStorage → List AddCall → OutboxStorage × List AddCall
  | storage, [] => (storage, [])
  | storage, call :: calls =>
    let rest := resumeAll (call.resume storage).1 calls
    (rest.1, (call.resume storage).2 :: rest.2)

/-- One turn for each call in their order resumes them all. -/
theorem run_range' (storage : OutboxStorage) (before after : List AddCall) :
    Transition.run step { storage, calls := before ++ after }
        (List.range' before.length after.length) =
      { storage := (resumeAll storage after).1
        calls := before ++ (resumeAll storage after).2 } := by
  induction after generalizing before storage with
  | nil => rfl
  | cons call after ih =>
      have turn : step { storage, calls := before ++ call :: after } before.length =
          { storage := (call.resume storage).1
            calls := (before ++ [(call.resume storage).2]) ++ after } := by
        simp [step]
      rw [List.length_cons, List.range'_succ, Transition.run_cons, turn]
      have rest := ih (call.resume storage).1 (before ++ [(call.resume storage).2])
      rw [List.length_append, List.length_singleton] at rest
      rw [rest, resumeAll, List.append_assoc, List.singleton_append]

omit [LinearOrder EventId] in
/-- Fresh entries are stored one behind the other. -/
theorem values_foldl_set {storage : OutboxStorage}
    (distinct : (entries.map OutboxEntry.eventId).Nodup)
    (fresh : ∀ entry ∈ entries, storage.get? entry.eventId = none) :
    (entries.foldl (fun storage entry => JsMap.set storage entry.eventId entry) storage).values =
      storage.values ++ entries := by
  induction entries generalizing storage with
  | nil => exact (List.append_nil _).symm
  | cons first entries ih =>
      have new := fresh first List.mem_cons_self
      rw [List.map_cons, List.nodup_cons] at distinct
      have apart : ∀ entry ∈ entries,
          (JsMap.set storage first.eventId first).get? entry.eventId = none := by
        intro entry listed
        rw [JsMap.get?_set, if_neg]
        · exact fresh entry (List.mem_cons_of_mem _ listed)
        · intro same
          exact distinct.1 (same ▸ List.mem_map_of_mem listed)
      have added : (JsMap.set storage first.eventId first).values = storage.values ++ [first] := by
        rw [JsMap.values, JsMap.entries_set_of_get?_none new, List.map_append]
        rfl
      rw [List.foldl_cons, ih distinct.2 apart, added, List.append_assoc, List.singleton_append]

/-- The first round puts every entry. -/
theorem resumeAll_putting (storage : OutboxStorage) (entries : List OutboxEntry) :
    resumeAll storage (entries.map fun entry => { entry }) =
      (entries.foldl (fun storage entry => JsMap.set storage entry.eventId entry) storage,
        entries.map fun entry => { entry, stage := .counting }) := by
  induction entries generalizing storage with
  | nil => rfl
  | cons first entries ih =>
      have rest := ih (JsMap.set storage first.eventId first)
      have puts : AddCall.resume storage { entry := first } =
        (JsMap.set storage first.eventId first, { entry := first, stage := .counting }) := rfl
      rw [List.map_cons, resumeAll, puts]
      dsimp only
      rw [rest]
      rfl

/-- The second round lists for every call what is too much. -/
theorem resumeAll_counting (storage : OutboxStorage) (entries : List OutboxEntry) :
    resumeAll storage (entries.map fun entry => { entry, stage := .counting }) =
      (storage, entries.map fun entry =>
        { entry, stage := .pruning (OutboxStorage.excess storage.listing) }) := by
  induction entries with
  | nil => rfl
  | cons first entries ih =>
      have reads : AddCall.resume storage { entry := first, stage := .counting } = (storage,
        { entry := first, stage := .pruning (OutboxStorage.excess storage.listing) }) := rfl
      rw [List.map_cons, resumeAll, reads]
      dsimp only
      rw [ih]
      rfl

/-- If all put before any reads, all are about to delete the same entries: as many as
are stored too many. -/
theorem run_overlapping (distinct : (entries.map OutboxEntry.eventId).Nodup) :
    ∃ excess, excess.length = entries.length - outboxMaxEntries ∧
      (run entries (List.range entries.length ++ List.range entries.length)).calls =
        entries.map fun entry => { entry, stage := .pruning excess } := by
  have none : ∀ entry ∈ entries,
      (JsMap.empty : OutboxStorage).get? entry.eventId = none := fun _ _ => rfl
  have stored := values_foldl_set distinct none
  have first := run_range' JsMap.empty [] (entries.map fun entry => { entry })
  have second := run_range'
    (entries.foldl (fun storage entry => JsMap.set storage entry.eventId entry) JsMap.empty) []
    (entries.map fun entry => { entry, stage := .counting })
  rw [List.length_nil, List.length_map, ← List.range_eq_range', List.nil_append,
    List.nil_append] at first second
  rw [resumeAll_putting] at first
  rw [resumeAll_counting] at second
  have listed : (OutboxStorage.listing (entries.foldl
      (fun storage entry => JsMap.set storage entry.eventId entry) JsMap.empty)).length =
        entries.length := by
    rw [OutboxStorage.listing, OutboxStorage.inOrder, List.length_insertionSort, stored]
    rfl
  refine ⟨OutboxStorage.excess (OutboxStorage.listing (entries.foldl
    (fun storage entry => JsMap.set storage entry.eventId entry) JsMap.empty)), ?_, ?_⟩
  · rw [OutboxStorage.excess, listed]
    split
    · next few => exact (Nat.sub_eq_zero_of_le few).symm
    · rw [List.length_take, OutboxStorage.byCreation, List.length_insertionSort, listed]
      exact Nat.min_eq_left (Nat.sub_le _ _)
  · rw [run, Transition.run_append, start, first]
    exact congrArg Adding.calls second

end Adding

end AnyOrder

namespace Adding

instance keyOrder : LinearOrder EventId :=
  LinearOrder.lift' EventId.value fun first second same => by
    cases first
    cases second
    cases same
    rfl

open Scenario

/-- The entry of one of many events, two of which are created at a time. -/
def crowdEntry (drawn : Nat) : OutboxEntry where
  eventId := longerId drawn
  payload :=
    { v := protocolVersion, sid := session, pid := alice, seq := drawn, ts := 0
      eventId := longerId drawn, body := .sessionStart }
  createdAt := drawn / 2
  named := rfl

/-- Three more than the outbox keeps. -/
def crowd : List OutboxEntry := (List.range (outboxMaxEntries + 3)).map crowdEntry

/-- No two of the crowd have one id. -/
theorem crowd_distinct : (crowd.map OutboxEntry.eventId).Nodup := by
  rw [crowd, List.map_map]
  exact List.nodup_range.map longerId_injective

/-- The crowd is three more than the outbox keeps. -/
theorem length_crowd : crowd.length = outboxMaxEntries + 3 := by
  rw [crowd, List.length_map, List.length_range]

/-- All put, all read, and then all delete side by side. -/
def crowded : List Nat := (List.replicate (outboxMaxEntries + 6) (List.range crowd.length)).flatten

/-- Four turns each bring all its calls to their end. -/
theorem crowded_completed : (run crowd crowded).Completed := by
  apply completed_of_turns crowd_distinct
  intro index inside
  have once : (List.range crowd.length).count index = 1 :=
    List.count_eq_one_of_mem List.nodup_range (List.mem_range.mpr inside)
  rw [crowded, List.count_flatten, List.map_replicate, once, List.sum_replicate_nat, length_crowd]
  omega

/-- Every call has three entries to delete before any has deleted one, and yet two
hundred are left in the end. -/
theorem completed_newest_crowd :
    (∃ excess, excess.length = 3 ∧
      ∀ call ∈ (run crowd (crowded.take (2 * crowd.length))).calls, call.stage = .pruning excess) ∧
      (run crowd crowded).storage.size = min crowd.length outboxMaxEntries ∧
      (run crowd crowded).storage.values.Perm
        ((OutboxStorage.byCreation (OutboxStorage.inOrder crowd)).drop
          (crowd.length - outboxMaxEntries)) := by
  have bothRounds : crowded.take (2 * crowd.length) =
      List.range crowd.length ++ List.range crowd.length := by
    have rounds : crowded = (List.range crowd.length ++ List.range crowd.length) ++
        (List.replicate (outboxMaxEntries + 4) (List.range crowd.length)).flatten := by
      rw [crowded, List.replicate_succ, List.replicate_succ, List.flatten_cons, List.flatten_cons,
        List.append_assoc]
    rw [rounds, List.take_left']
    rw [List.length_append, List.length_range]
    omega
  obtain ⟨excess, three, overlapping⟩ := run_overlapping crowd_distinct
  refine ⟨⟨excess, ?_, ?_⟩, completed_newest crowd crowd_distinct crowded crowded_completed⟩
  · rw [three, length_crowd]
    omega
  · intro call listed
    rw [bothRounds, overlapping] at listed
    obtain ⟨entry, _, rfl⟩ := List.mem_map.mp listed
    rfl

end Adding

/-- A store that lists by key is one with the order of the keys. -/
theorem OutboxStorage.getAll_eq_listing (storage : OutboxStorage) :
    storage.getAll = storage.listing := rfl

end Copresence
