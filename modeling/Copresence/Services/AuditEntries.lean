import Mathlib.Algebra.GroupWithZero.Nat
import Mathlib.Data.Int.ConditionallyCompleteOrder
import Mathlib.Data.List.MinMax
import Mathlib.Order.ConditionallyCompleteLattice.Basic
import Copresence.Services.AuditEnds

/-! The audit log as the list of entries that got a record of their own, and
the search for an open end in terms of that list. -/
namespace Copresence

open Collections

/-- Of ever later elements the last is the latest. -/
theorem argmax_of_increasing {α β : Type*} [LinearOrder β] {key : α → β} {items : List α}
    (increasing : items.Pairwise fun first second => key first < key second) :
    items.argmax key = items.getLast? := by
  induction items using List.reverseRecOn with
  | nil => rfl
  | append_singleton items item ih =>
      obtain ⟨before, _, newest⟩ := List.pairwise_append.mp increasing
      rw [List.argmax_concat, ih before, List.getLast?_concat]
      cases hl : items.getLast? with
      | none => rfl
      | some last =>
          have later := newest last (List.mem_of_getLast? hl) item (List.mem_singleton_self _)
          exact if_pos later

/-- No element of an ordered list is later than its last. -/
theorem le_of_getLast?_of_ordered {α β : Type*} [Preorder β] {key : α → β} {items : List α}
    (ordered : items.Pairwise fun first second => key first ≤ key second) {last : α}
    (h : items.getLast? = some last) : ∀ item ∈ items, key item ≤ key last := by
  obtain ⟨before, rfl⟩ := List.getLast?_eq_some_iff.mp h
  intro item hm
  rcases List.mem_append.mp hm with hm | hm
  · exact (List.pairwise_append.mp ordered).2.2 item hm last (List.mem_singleton_self _)
  · rw [List.mem_singleton.mp hm]

/-- The entries of this kind for one participant of one session. -/
def pairEntries (kind : AuditEventKind) (sid : SessionId) (pid : ParticipantId)
    (entries : List AuditRecordInput) : List AuditRecordInput :=
  entries.filter fun entry => entry.kind = kind ∧ entry.sid = sid ∧ entry.pid = pid

section PairEntries

variable {kind : AuditEventKind} {sid : SessionId} {pid : ParticipantId}
  {entries : List AuditRecordInput} {entry : AuditRecordInput}

/-- The entries of a pair are those of its kind, session and participant. -/
theorem mem_pairEntries : entry ∈ pairEntries kind sid pid entries ↔
    entry ∈ entries ∧ entry.kind = kind ∧ entry.sid = sid ∧ entry.pid = pid := by
  rw [pairEntries, List.mem_filter, decide_eq_true_iff]

/-- An entry of the pair is its last. -/
theorem pairEntries_concat_own (own : entry.kind = kind ∧ entry.sid = sid ∧ entry.pid = pid) :
    pairEntries kind sid pid (entries ++ [entry]) = pairEntries kind sid pid entries ++ [entry] := by
  rw [pairEntries, List.filter_append, pairEntries]
  simp [own]

/-- An entry of another pair adds nothing to this one. -/
theorem pairEntries_concat_other
    (other : ¬(entry.kind = kind ∧ entry.sid = sid ∧ entry.pid = pid)) :
    pairEntries kind sid pid (entries ++ [entry]) = pairEntries kind sid pid entries := by
  rw [pairEntries, List.filter_append, pairEntries]
  simp [other]

end PairEntries

/-- The first end among the latest, unless a start is later still. -/
noncomputable def openEntry (entries : List AuditRecordInput) (sid : SessionId) (pid : ParticipantId) :
    Option AuditRecordInput :=
  ((pairEntries .sessionEnd sid pid entries).argmax AuditRecordInput.recordedAt).filter
    fun latestEnd => ∀ start ∈ pairEntries .sessionStart sid pid entries,
      start.recordedAt ≤ latestEnd.recordedAt

section OpenEntry

variable {entries : List AuditRecordInput} {sid : SessionId} {pid : ParticipantId}

/-- The open end is the latest of the pair, unless a start came after it. -/
theorem openEntry_eq_some_iff {latestEnd : AuditRecordInput} :
    openEntry entries sid pid = some latestEnd ↔
      latestEnd ∈ (pairEntries .sessionEnd sid pid entries).argmax AuditRecordInput.recordedAt ∧
        ∀ start ∈ pairEntries .sessionStart sid pid entries,
          start.recordedAt ≤ latestEnd.recordedAt := by
  rw [openEntry, Option.filter_eq_some_iff, decide_eq_true_iff]
  exact Iff.rfl

/-- No end is open exactly when every end was followed by a later start. -/
theorem openEntry_eq_none_iff :
    openEntry entries sid pid = none ↔
      ∀ ended ∈ pairEntries .sessionEnd sid pid entries,
        ∃ start ∈ pairEntries .sessionStart sid pid entries,
          ended.recordedAt < start.recordedAt := by
  cases hEnd : (pairEntries .sessionEnd sid pid entries).argmax AuditRecordInput.recordedAt with
  | none =>
      have nothing := List.argmax_eq_none.mp hEnd
      rw [openEntry, hEnd, nothing]
      simp
  | some latestEnd =>
      rw [openEntry, hEnd]
      simp only [Option.filter_some, decide_eq_true_eq, ite_eq_right_iff, reduceCtorEq, imp_false,
        not_forall, not_le]
      constructor
      · intro ⟨start, hStart, newer⟩ ended hm
        exact ⟨start, hStart, lt_of_le_of_lt (List.le_of_mem_argmax hm hEnd) newer⟩
      · intro h
        obtain ⟨start, hStart, newer⟩ := h latestEnd (List.argmax_mem hEnd)
        exact ⟨start, hStart, newer⟩

end OpenEntry

namespace AuditLog

/-- The entries that created a record, in that order. -/
def entries (log : AuditLog) : List AuditRecordInput := log.all.map AuditRecord.toAuditRecordInput

/-- One more record changes the first of the latest as `later` does. -/
theorem argmax_filter_concat (p : AuditRecord → Bool) (records : List AuditRecord)
    (record : AuditRecord) :
    ((records ++ [record]).filter p).argmax (fun record => record.recordedAt) =
      if p record then later ((records.filter p).argmax fun record => record.recordedAt) record
      else (records.filter p).argmax fun record => record.recordedAt := by
  rw [List.filter_append]
  split
  · next h =>
      rw [List.filter_cons_of_pos h, List.filter_nil, List.argmax_concat]
      cases (records.filter p).argmax fun record => record.recordedAt <;> rfl
  · next h => rw [List.filter_cons_of_neg h, List.filter_nil, List.append_nil]

/-- The scan keeps the first of the latest records of either kind. -/
theorem foldl_scanRecord_argmax (sid : SessionId) (pid : ParticipantId)
    (records : List AuditRecord) :
    records.foldl (scanRecord sid pid) (none, none) =
      ((records.filter fun record => record.kind = .sessionStart ∧ record.sid = sid ∧
          record.pid = pid).argmax fun record => record.recordedAt,
        (records.filter fun record => record.kind = .sessionEnd ∧ record.sid = sid ∧
          record.pid = pid).argmax fun record => record.recordedAt) := by
  induction records using List.reverseRecOn with
  | nil => rfl
  | append_singleton records record ih =>
      rw [List.foldl_append, ih, List.foldl_cons, List.foldl_nil, scanRecord, argmax_filter_concat,
        argmax_filter_concat]
      split
      · next other =>
          have foreign : ¬(record.sid = sid ∧ record.pid = pid) := not_and_or.mpr other
          simp [foreign]
      · next own =>
          obtain ⟨hSid, hPid⟩ := not_or.mp own
          cases hk : record.kind <;> simp [not_not.mp hSid, not_not.mp hPid]

theorem argmax_toAuditRecordInput (records : List AuditRecord) :
    (records.map AuditRecord.toAuditRecordInput).argmax AuditRecordInput.recordedAt =
      (records.argmax fun record => record.recordedAt).map AuditRecord.toAuditRecordInput := by
  induction records using List.reverseRecOn with
  | nil => rfl
  | append_singleton records record ih =>
      rw [List.map_append, List.map_singleton, List.argmax_concat, ih, List.argmax_concat]
      cases records.argmax fun record => record.recordedAt with
      | none => rfl
      | some best =>
          show (if best.recordedAt < record.recordedAt then _ else _) = Option.map _ (ite _ _ _)
          split <;> rfl

/-- The entries of a pair are those of its records. -/
theorem entries_pairEntries (log : AuditLog) (kind : AuditEventKind) (sid : SessionId)
    (pid : ParticipantId) :
    pairEntries kind sid pid log.entries =
      (log.all.filter fun record => record.kind = kind ∧ record.sid = sid ∧ record.pid = pid).map
        AuditRecord.toAuditRecordInput := by
  rw [pairEntries, entries, List.filter_map]
  rfl

/-- The search for an open end looks at the entries alone. -/
theorem openSessionEnd_entry (log : AuditLog) (sid : SessionId) (pid : ParticipantId) :
    (log.openSessionEnd sid pid).map AuditRecord.toAuditRecordInput =
      openEntry log.entries sid pid := by
  rw [openSessionEnd_eq, foldl_scanRecord_argmax, openEntry, entries_pairEntries,
    entries_pairEntries, argmax_toAuditRecordInput]
  generalize log.all.filter (fun record => record.kind = .sessionStart ∧ record.sid = sid ∧
    record.pid = pid) = starts
  have settled : ∀ latestEnd : AuditRecord,
      (∀ start ∈ starts.map AuditRecord.toAuditRecordInput,
          start.recordedAt ≤ latestEnd.recordedAt) ↔
        ∀ latestStart, starts.argmax (fun record => record.recordedAt) = some latestStart →
          latestStart.recordedAt ≤ latestEnd.recordedAt := by
    intro latestEnd
    rw [List.forall_mem_map]
    constructor
    · intro h latestStart hStart
      exact h latestStart (List.argmax_mem hStart)
    · intro h start hm
      cases hStart : starts.argmax fun record => record.recordedAt with
      | none =>
          rw [List.argmax_eq_none.mp hStart] at hm
          cases hm
      | some latestStart =>
          have newest : start.recordedAt ≤ latestStart.recordedAt :=
            List.le_of_mem_argmax (f := fun record : AuditRecord => record.recordedAt) hm hStart
          exact newest.trans (h latestStart hStart)
  cases (log.all.filter fun record => record.kind = .sessionEnd ∧ record.sid = sid ∧
      record.pid = pid).argmax fun record => record.recordedAt with
  | none => cases starts.argmax fun record => record.recordedAt <;> rfl
  | some latestEnd =>
      rw [Option.map_some, Option.filter_some]
      simp only [settled, decide_eq_true_eq]
      cases hStart : starts.argmax fun record => record.recordedAt with
      | none => simp [openEnd]
      | some latestStart =>
          show Option.map _ (if latestStart.recordedAt > latestEnd.recordedAt then _ else _) = _
          split
          · next newer => simp [newer]
          · next older => simp [not_lt.mp older]

variable {log : AuditLog} {entry : AuditRecordInput}

/-- An entry is listed when its record is found under its id. -/
theorem mem_entries_iff : entry ∈ log.entries ↔
    ∃ record, log.get entry.eventId = some record ∧ record.toAuditRecordInput = entry := by
  rw [entries, List.mem_map]
  constructor
  · intro ⟨record, hm, he⟩
    refine ⟨record, ?_, he⟩
    rw [← he]
    exact log.mem_all_iff.mp hm
  · intro ⟨record, h, he⟩
    refine ⟨record, log.mem_all_iff.mpr ?_, he⟩
    rw [← he] at h
    exact h

/-- A record is found under an id when an entry has it. -/
theorem get_isSome_iff {eventId : EventId} :
    (log.get eventId).isSome ↔ eventId ∈ log.entries.map AuditRecordInput.eventId := by
  rw [Option.isSome_iff_exists, List.mem_map]
  constructor
  · intro ⟨record, h⟩
    have hId : record.eventId = eventId := log.keyed eventId record h
    refine ⟨record.toAuditRecordInput, List.mem_map_of_mem (log.mem_all_iff.mpr ?_), hId⟩
    rw [hId]
    exact h
  · intro ⟨entry, hm, he⟩
    obtain ⟨record, h, _⟩ := mem_entries_iff.mp hm
    exact ⟨record, by rw [← he, h]⟩

/-- A record that takes another report changes no entry. -/
theorem entries_put_addReport {record : AuditRecord} (h : log.get record.eventId = some record)
    (report : AuditReport) : (log.put (record.addReport report)).entries = log.entries := by
  have found : (log.records.mapValues AuditRecord.toAuditRecordInput).get? record.eventId =
      some record.toAuditRecordInput := by
    rw [JsMap.get?_mapValues]
    exact congrArg (Option.map AuditRecord.toAuditRecordInput) h
  rw [entries, entries, all, all, ← JsMap.values_mapValues, ← JsMap.values_mapValues, put,
    JsMap.set_mapValues]
  exact congrArg JsMap.values (JsMap.set_of_get? found)

/-- A new record is the last of the listing. -/
theorem all_put_fresh {record : AuditRecord} (fresh : log.get record.eventId = none) :
    (log.put record).all = log.all ++ [record] := by
  rw [all, JsMap.values, put, JsMap.entries_set_of_get?_none fresh, List.map_append]
  rfl

/-- What `record` does to the log: it extends the record of that id, else the
end that is open, else it appends a record. -/
theorem record_cases (log : AuditLog) (entry : AuditRecordInput) :
    (∃ stored, log.get entry.eventId = some stored ∧
        log.record entry = (log.put (stored.addReport entry.report), false)) ∨
      (∃ found, log.get entry.eventId = none ∧ entry.kind = .sessionEnd ∧
        log.openSessionEnd entry.sid entry.pid = some found ∧
        log.record entry = (log.put (found.addReport entry.report), false)) ∨
      (log.get entry.eventId = none ∧
        (entry.kind = .sessionEnd → log.openSessionEnd entry.sid entry.pid = none) ∧
        log.record entry = (log.put { entry with reports := [entry.report] }, true)) := by
  rw [record]
  cases hGet : log.records.get? entry.eventId with
  | some stored => exact Or.inl ⟨stored, hGet, rfl⟩
  | none =>
      by_cases isEnd : entry.kind = .sessionEnd
      · rw [convergent, if_pos isEnd]
        cases hOpen : log.openSessionEnd entry.sid entry.pid with
        | some found => exact Or.inr (Or.inl ⟨found, hGet, isEnd, rfl, rfl⟩)
        | none => exact Or.inr (Or.inr ⟨hGet, fun _ => rfl, rfl⟩)
      · rw [convergent, if_neg isEnd]
        exact Or.inr (Or.inr ⟨hGet, fun h => absurd h isEnd, rfl⟩)

/-- The log after these calls, from the start. -/
def recordAll (calls : List AuditRecordInput) : AuditLog :=
  calls.foldl (fun log entry => (log.record entry).1) empty

/-- A history with one call more is one more record. -/
theorem recordAll_concat (calls : List AuditRecordInput) (entry : AuditRecordInput) :
    recordAll (calls ++ [entry]) = ((recordAll calls).record entry).1 := by
  rw [recordAll, List.foldl_append]
  rfl

/-- A call is kept as an entry unless its id is known or it closes nothing. -/
theorem entries_record (log : AuditLog) (entry : AuditRecordInput) :
    (log.record entry).1.entries =
      if (log.get entry.eventId).isSome ∨
          (entry.kind = .sessionEnd ∧ (openEntry log.entries entry.sid entry.pid).isSome) then
        log.entries
      else log.entries ++ [entry] := by
  rw [← openSessionEnd_entry, Option.isSome_map]
  rcases log.record_cases entry with ⟨stored, h, hw⟩ | ⟨found, fresh, isEnd, h, hw⟩ | ⟨fresh, none, hw⟩
  · have hId : stored.eventId = entry.eventId := log.keyed _ _ h
    have own : log.get stored.eventId = some stored := by rw [hId, h]
    rw [hw, entries_put_addReport own, if_pos (Or.inl (by rw [h]; rfl))]
  · have own := log.mem_all_iff.mp (log.openSessionEnd_spec h).1
    rw [hw, entries_put_addReport own, if_pos (Or.inr ⟨isEnd, by rw [h]; rfl⟩)]
  · rw [hw, entries, all_put_fresh fresh, List.map_append, if_neg]
    · rfl
    · rw [fresh]
      intro h
      rcases h with h | ⟨isEnd, h⟩
      · cases h
      · rw [none isEnd] at h
        cases h

/-- The entries are calls, in the order of the calls. -/
theorem entries_recordAll_sublist (calls : List AuditRecordInput) :
    (recordAll calls).entries.Sublist calls := by
  induction calls using List.reverseRecOn with
  | nil => exact List.Sublist.refl _
  | append_singleton calls entry ih =>
      rw [recordAll_concat, entries_record]
      split
      · exact ih.trans (List.sublist_append_left _ _)
      · exact ih.append_right _

/-- An id that no call has had is in no record. -/
theorem get_recordAll_fresh {calls : List AuditRecordInput} {eventId : EventId}
    (fresh : eventId ∉ calls.map AuditRecordInput.eventId) :
    (recordAll calls).get eventId = none := by
  rw [← Option.not_isSome_iff_eq_none, get_isSome_iff]
  intro hm
  exact fresh (((entries_recordAll_sublist calls).map _).subset hm)

end AuditLog

end Copresence
