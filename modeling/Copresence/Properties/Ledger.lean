import Copresence.Lib.Run
import Copresence.Services.AuditEntries

/-! The audit log as a ledger: whatever is recorded, no record goes or changes
but for reports appended to it, one for every call. -/
namespace Copresence

open Collections

/-- The record is as the old one, with further reports at the end. -/
def AuditRecord.Extends (record old : AuditRecord) : Prop :=
  ∃ reports, record = { old with reports := old.reports ++ reports }

namespace AuditLog

/-- The listing keeps every record in its place, and at most extends it. -/
def Grows (before after : AuditLog) : Prop :=
  ∀ (index : Nat) (old : AuditRecord), before.all[index]? = some old →
    ∃ record : AuditRecord, after.all[index]? = some record ∧ record.Extends old

/-- The call puts one report at the end of one record, a new last one or one
that is there, and says which. -/
structure AppendsOne (log : AuditLog) (entry : AuditRecordInput) : Prop where
  one : ∃ (index : Nat) (record : AuditRecord), (log.record entry).1.all[index]? = some record ∧
    (∀ other ≠ index, (log.record entry).1.all[other]? = log.all[other]?) ∧
      match log.all[index]? with
      | some old => record = old.addReport entry.report
      | none => record = { entry with reports := [entry.report] }
  returned : (log.record entry).2 = true ↔
    (log.record entry).1.all.length = log.all.length + 1

/-- Those of the calls that `record` answers with `true`, in order. -/
def created (log : AuditLog) : List AuditRecordInput → List AuditRecordInput
  | [] => []
  | entry :: calls =>
    if (log.record entry).2 then entry :: (log.record entry).1.created calls
    else (log.record entry).1.created calls

/-- The number of reports in all records together. -/
def reportCount (log : AuditLog) : Nat := (log.all.map fun record => record.reports.length).sum

variable {log : AuditLog} {entry : AuditRecordInput}

/-- Adding a report replaces its record in place. -/
theorem all_put_addReport {record : AuditRecord} (h : log.get record.eventId = some record)
    (report : AuditReport) :
    ∃ index, log.all[index]? = some record ∧
      (log.put (record.addReport report)).all = log.all.set index (record.addReport report) := by
  obtain ⟨index, found, written⟩ := JsMap.values_set_of_get? h
  exact ⟨index, found, written (record.addReport report)⟩

/-- What a call does to the listing. -/
theorem all_record (log : AuditLog) (entry : AuditRecordInput) :
    ((log.record entry).2 = true ∧
        (log.record entry).1.all = log.all ++ [{ entry with reports := [entry.report] }]) ∨
      ((log.record entry).2 = false ∧ ∃ index record, log.all[index]? = some record ∧
        (log.record entry).1.all = log.all.set index (record.addReport entry.report)) := by
  rcases log.record_cases entry with ⟨stored, h, hw⟩ | ⟨found, _, _, h, hw⟩ | ⟨fresh, _, hw⟩
  · have own : log.get stored.eventId = some stored := by
      rw [show stored.eventId = entry.eventId from log.keyed _ _ h, h]
    obtain ⟨index, hi, all⟩ := all_put_addReport own entry.report
    rw [hw]
    exact Or.inr ⟨rfl, index, stored, hi, all⟩
  · have own := log.mem_all_iff.mp (log.openSessionEnd_spec h).1
    obtain ⟨index, hi, all⟩ := all_put_addReport own entry.report
    rw [hw]
    exact Or.inr ⟨rfl, index, found, hi, all⟩
  · rw [hw]
    exact Or.inl ⟨rfl, all_put_fresh fresh⟩

/-- A call appends one report, in a record of its own or in an old one. -/
theorem record_appendsOne (log : AuditLog) (entry : AuditRecordInput) : log.AppendsOne entry := by
  rcases log.all_record entry with ⟨returned, all⟩ | ⟨returned, index, old, found, all⟩
  · constructor
    · refine ⟨log.all.length, { entry with reports := [entry.report] }, ?_, ?_, ?_⟩
      · rw [all, List.getElem?_concat_length]
      · intro other different
        rw [all]
        rcases Nat.lt_or_gt_of_ne different with h | h
        · exact List.getElem?_append_left h
        · rw [List.getElem?_eq_none (by rw [List.length_append, List.length_singleton]; omega),
            List.getElem?_eq_none (by omega)]
      · rw [List.getElem?_eq_none (Nat.le_refl _)]
    · rw [returned, all, List.length_append, List.length_singleton]
      simp
  · constructor
    · refine ⟨index, old.addReport entry.report, ?_, ?_, ?_⟩
      · rw [all, List.getElem?_set_self (List.getElem?_eq_some_iff.mp found).1]
      · intro other different
        rw [all, List.getElem?_set_ne (Ne.symm different)]
      · rw [found]
    · rw [returned, all, List.length_set]
      simp

/-- No call takes a record away or changes more than its reports. -/
theorem record_grows (log : AuditLog) (entry : AuditRecordInput) :
    log.Grows (log.record entry).1 := by
  obtain ⟨place, record, written, others, put⟩ := (log.record_appendsOne entry).one
  intro index old found
  by_cases same : index = place
  · subst same
    rw [found] at put
    exact ⟨record, written, [entry.report], put⟩
  · rw [others index same]
    exact ⟨old, found, [], by rw [List.append_nil]⟩

/-- Every call is one report more. -/
theorem reportCount_record (log : AuditLog) (entry : AuditRecordInput) :
    (log.record entry).1.reportCount = log.reportCount + 1 := by
  rcases log.all_record entry with ⟨_, all⟩ | ⟨_, index, old, found, all⟩
  · rw [reportCount, all, List.map_append, List.sum_append]
    rfl
  · obtain ⟨bound, h⟩ := List.getElem?_eq_some_iff.mp found
    have split : log.all = log.all.take index ++ old :: log.all.drop (index + 1) := by
      rw [← h, ← List.drop_eq_getElem_cons bound, List.take_append_drop]
    rw [reportCount, reportCount, all, List.set_eq_take_append_cons_drop, if_pos bound]
    conv_rhs => rw [split]
    simp only [List.map_append, List.map_cons, List.sum_append, List.sum_cons,
      AuditRecord.addReport, List.length_append, List.length_singleton]
    omega

/-- The first report of a record is the one it was created with. -/
def FirstIsOwn (log : AuditLog) : Prop :=
  ∀ record ∈ log.all, record.reports.head? = some record.report

/-- Every record keeps the report it was made of as its first. -/
theorem FirstIsOwn.record (own : log.FirstIsOwn) (entry : AuditRecordInput) :
    (log.record entry).1.FirstIsOwn := by
  intro record hm
  rcases log.all_record entry with ⟨_, all⟩ | ⟨_, index, old, found, all⟩
  · rw [all] at hm
    rcases List.mem_append.mp hm with hm | hm
    · exact own record hm
    · rw [List.mem_singleton.mp hm]
      rfl
  · rw [all] at hm
    rcases List.mem_or_eq_of_mem_set hm with hm | rfl
    · exact own record hm
    · have first := own old (List.mem_of_getElem? found)
      show (old.reports ++ [entry.report]).head? = some old.report
      rw [List.head?_append, first]
      rfl

/-- A call that returns true has created a record, and no other call has. -/
theorem entries_record_returned (log : AuditLog) (entry : AuditRecordInput) :
    (log.record entry).1.entries =
      if (log.record entry).2 then log.entries ++ [entry] else log.entries := by
  rcases log.record_cases entry with ⟨stored, h, hw⟩ | ⟨found, _, _, h, hw⟩ | ⟨fresh, _, hw⟩
  · have own : log.get stored.eventId = some stored := by
      rw [show stored.eventId = entry.eventId from log.keyed _ _ h, h]
    rw [hw]
    exact entries_put_addReport own entry.report
  · rw [hw]
    exact entries_put_addReport (log.mem_all_iff.mp (log.openSessionEnd_spec h).1) entry.report
  · rw [hw, entries, all_put_fresh fresh, List.map_append]
    rfl

theorem Grows.refl (log : AuditLog) : log.Grows log :=
  fun _ old found => ⟨old, found, [], by rw [List.append_nil]⟩

/-- A log that grows twice has grown. -/
theorem Grows.trans {before middle after : AuditLog} (first : before.Grows middle)
    (second : middle.Grows after) : before.Grows after := by
  intro index old found
  obtain ⟨record, hRecord, reports, rfl⟩ := first index old found
  obtain ⟨last, hLast, more, rfl⟩ := second index _ hRecord
  exact ⟨_, hLast, reports ++ more, by rw [List.append_assoc]⟩

/-- The log of a history grows into that of a longer one. -/
theorem recordAll_grows (past later : List AuditRecordInput) :
    (recordAll past).Grows (recordAll (past ++ later)) := by
  induction later using List.reverseRecOn with
  | nil =>
      rw [List.append_nil]
      exact .refl _
  | append_singleton later entry ih =>
      rw [← List.append_assoc, recordAll_concat]
      exact ih.trans (record_grows _ entry)

/-- There are as many reports as calls. -/
theorem reportCount_recordAll (calls : List AuditRecordInput) :
    (recordAll calls).reportCount = calls.length := by
  induction calls using List.reverseRecOn with
  | nil => rfl
  | append_singleton calls entry ih =>
      rw [recordAll_concat, reportCount_record, ih, List.length_append, List.length_singleton]

/-- In every history each record begins with the report it was made of. -/
theorem recordAll_firstIsOwn (calls : List AuditRecordInput) : (recordAll calls).FirstIsOwn := by
  induction calls using List.reverseRecOn with
  | nil =>
      intro record hm
      cases hm
  | append_singleton calls entry ih =>
      rw [recordAll_concat]
      exact ih.record entry

/-- The records of a history are those its calls created, in order. -/
theorem entries_foldl_record (log : AuditLog) (calls : List AuditRecordInput) :
    (calls.foldl (fun log entry => (log.record entry).1) log).entries =
      log.entries ++ log.created calls := by
  induction calls generalizing log with
  | nil => exact (List.append_nil _).symm
  | cons entry calls ih =>
      rw [List.foldl_cons, ih, entries_record_returned, created]
      split
      · rw [List.append_assoc]
        rfl
      · rfl

/-- After any calls: every record of an earlier point is in its place, extended
by reports at the end alone; each call appended one report to one record, and
was answered `true` when it created it; there are as many reports as calls, the
first report of a record is its own, and the listing is in order of creation. -/
theorem recordAll_ledger (calls : List AuditRecordInput) :
    (∀ past, past <+: calls → (recordAll past).Grows (recordAll calls)) ∧
      (∀ past entry, past ++ [entry] <+: calls → (recordAll past).AppendsOne entry) ∧
      (recordAll calls).reportCount = calls.length ∧
      (recordAll calls).FirstIsOwn ∧
      (recordAll calls).entries = empty.created calls := by
  refine ⟨?_, ?_, reportCount_recordAll calls, recordAll_firstIsOwn calls, ?_⟩
  · rintro past ⟨later, rfl⟩
    exact recordAll_grows past later
  · intro past entry _
    exact record_appendsOne _ entry
  · exact entries_foldl_record empty calls

end AuditLog

end Copresence
