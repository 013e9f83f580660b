import Copresence.Services.AuditLog

/-! When the reports of two sweeps leave the same log: an end that is folded
into the record of an earlier one leaves its own detail out. -/
namespace Copresence

open Collections

/-- A record without its reports. -/
def AuditRecord.unreported (record : AuditRecord) : AuditRecord := { record with reports := [] }

/-- An entry without the time its participant was last seen at. -/
def AuditRecordInput.untimed (entry : AuditRecordInput) : AuditRecordInput :=
  { entry with detail := entry.detail.map fun detail => { detail with lastSeenAt := none } }

namespace AuditLog

/-- The scan for an open end does not look at reports. -/
theorem scanRecord_unreported (sid : SessionId) (pid : ParticipantId)
    (found : Option AuditRecord × Option AuditRecord) (record : AuditRecord) :
    Prod.map (Option.map AuditRecord.unreported) (Option.map AuditRecord.unreported)
        (scanRecord sid pid found record) =
      scanRecord sid pid (Prod.map (Option.map AuditRecord.unreported)
        (Option.map AuditRecord.unreported) found) record.unreported := by
  have newer : ∀ latest : Option AuditRecord,
      (later latest record).map AuditRecord.unreported =
        later (latest.map AuditRecord.unreported) record.unreported := by
    intro latest
    cases latest with
    | none => rfl
    | some best =>
        show Option.map _ (if record.recordedAt > best.recordedAt then _ else _) =
          if record.recordedAt > best.recordedAt then _ else _
        split <;> rfl
  have same : record.unreported.kind = record.kind := rfl
  rw [scanRecord, scanRecord, same]
  by_cases foreign : record.sid ≠ sid ∨ record.pid ≠ pid
  · rw [if_pos foreign, if_pos (show record.unreported.sid ≠ sid ∨ record.unreported.pid ≠ pid
      from foreign)]
  · rw [if_neg foreign, if_neg (show ¬(record.unreported.sid ≠ sid ∨ record.unreported.pid ≠ pid)
      from foreign)]
    cases record.kind with
    | sessionStart => exact Prod.ext (newer found.1) rfl
    | sessionEnd => exact Prod.ext rfl (newer found.2)
    | _ => rfl

/-- The open end of what the scan has found. -/
def openEnd : Option AuditRecord × Option AuditRecord → Option AuditRecord
  | (_, none) => none
  | (some latestStart, some latestEnd) =>
    if latestStart.recordedAt > latestEnd.recordedAt then none else some latestEnd
  | (none, some latestEnd) => some latestEnd

theorem openSessionEnd_eq (log : AuditLog) (sid : SessionId) (pid : ParticipantId) :
    log.openSessionEnd sid pid = openEnd (log.all.foldl (scanRecord sid pid) (none, none)) := by
  rw [openSessionEnd]
  generalize log.all.foldl (scanRecord sid pid) (none, none) = found
  obtain ⟨latestStart, latestEnd⟩ := found
  cases latestEnd with
  | none => rfl
  | some latestEnd => cases latestStart <;> rfl

theorem openEnd_unreported (found : Option AuditRecord × Option AuditRecord) :
    (openEnd (Prod.map (Option.map AuditRecord.unreported) (Option.map AuditRecord.unreported)
      found)).isSome = (openEnd found).isSome := by
  obtain ⟨latestStart, latestEnd⟩ := found
  cases latestEnd with
  | none => cases latestStart <;> rfl
  | some latestEnd =>
      cases latestStart with
      | none => rfl
      | some latestStart =>
          show Option.isSome (if latestStart.recordedAt > latestEnd.recordedAt then _ else _) =
            Option.isSome (if latestStart.recordedAt > latestEnd.recordedAt then _ else _)
          split <;> rfl

/-- Whether a session's end is open depends on the records, not their reports. -/
theorem openSessionEnd_isSome_congr {first second : AuditLog}
    (same : first.all.map AuditRecord.unreported = second.all.map AuditRecord.unreported)
    (sid : SessionId) (pid : ParticipantId) :
    (first.openSessionEnd sid pid).isSome = (second.openSessionEnd sid pid).isSome := by
  have scanned : ∀ log : AuditLog, (log.openSessionEnd sid pid).isSome =
      (openEnd ((log.all.map AuditRecord.unreported).foldl (scanRecord sid pid)
        (none, none))).isSome := by
    intro log
    rw [openSessionEnd_eq, ← openEnd_unreported, List.foldl_map]
    congr 2
    exact (List.foldl_hom (Prod.map (Option.map AuditRecord.unreported)
      (Option.map AuditRecord.unreported)) fun found record =>
        (scanRecord_unreported sid pid found record).symm).symm
  rw [scanned, scanned, same]

variable {log : AuditLog} {entry : AuditRecordInput}

theorem get_put (record : AuditRecord) (eventId : EventId) :
    (log.put record).get eventId =
      if eventId = record.eventId then some record else log.get eventId :=
  JsMap.get?_set ..

/-- A record keeps its detail, whatever is recorded later. -/
theorem get_record_detail {eventId : EventId} {stored : AuditRecord}
    (h : log.get eventId = some stored) (entry : AuditRecordInput) :
    ∃ kept, (log.record entry).1.get eventId = some kept ∧ kept.detail = stored.detail := by
  have hId := log.keyed eventId stored h
  obtain ⟨written, hWritten, hw⟩ := log.record_written entry
  rw [hw, get_put]
  by_cases he : eventId = written.eventId
  · have grown := hWritten.replaces stored (log.mem_all_iff.mpr (by rw [hId]; exact h))
      (hId.trans he)
    exact ⟨written, if_pos he, by rw [grown]; rfl⟩
  · exact ⟨stored, by rw [if_neg he, h], rfl⟩

theorem get_foldl_record_detail {eventId : EventId} {stored : AuditRecord}
    (h : log.get eventId = some stored) (entries : List AuditRecordInput) :
    ∃ kept, (entries.foldl (fun log entry => (log.record entry).1) log).get eventId = some kept ∧
      kept.detail = stored.detail := by
  induction entries generalizing log stored with
  | nil => exact ⟨stored, h, rfl⟩
  | cons entry entries ih =>
      obtain ⟨next, hNext, same⟩ := get_record_detail h entry
      obtain ⟨kept, hKept, later⟩ := ih hNext
      exact ⟨kept, hKept, later.trans same⟩

/-- Recording an entry gives a record to no other new id. -/
theorem get_record_isSome {eventId : EventId} (another : eventId ≠ entry.eventId) :
    ((log.record entry).1.get eventId).isSome = (log.get eventId).isSome := by
  obtain ⟨written, hWritten, hw⟩ := log.record_written entry
  rw [hw, get_put]
  split
  · next he =>
      cases hWritten with
      | @extended stored h =>
          have hId : stored.eventId = entry.eventId := log.keyed _ _ h
          exact absurd (he.trans hId) another
      | @folded found fresh isEnd h =>
          have hm := (log.openSessionEnd_spec h).1
          have stored : log.get eventId = some found := by
            rw [he]
            exact log.mem_all_iff.mp hm
          rw [stored]
          rfl
      | created => exact absurd he another
  · rfl

/-- Nor does it open or close a session of anybody else. -/
theorem openSessionEnd_record_isSome {sid : SessionId} {pid : ParticipantId}
    (another : ¬(entry.sid = sid ∧ entry.pid = pid)) :
    ((log.record entry).1.openSessionEnd sid pid).isSome =
      (log.openSessionEnd sid pid).isSome := by
  obtain ⟨written, hWritten, hw⟩ := log.record_written entry
  rw [hw]
  have extend : ∀ stored, log.get stored.eventId = some stored →
      ((log.put (stored.addReport entry.report)).openSessionEnd sid pid).isSome =
        (log.openSessionEnd sid pid).isSome := by
    intro stored h
    apply openSessionEnd_isSome_congr
    have found : (log.records.mapValues AuditRecord.unreported).get? stored.eventId =
        some stored.unreported := by
      rw [JsMap.get?_mapValues]
      exact congrArg (Option.map AuditRecord.unreported) h
    rw [all, all, ← JsMap.values_mapValues, ← JsMap.values_mapValues, put, JsMap.set_mapValues]
    exact congrArg JsMap.values (JsMap.set_of_get? found)
  cases hWritten with
  | @extended stored h => exact extend stored (by rw [log.keyed _ _ h]; exact h)
  | @folded found fresh isEnd h => exact extend found (log.mem_all_iff.mp (log.openSessionEnd_spec h).1)
  | created fresh =>
      have listed : (log.put { entry with reports := [entry.report] }).all =
          log.all ++ [{ entry with reports := [entry.report] }] := by
        rw [all, JsMap.values, put, JsMap.entries_set_of_get?_none fresh, List.map_append]
        rfl
      rw [openSessionEnd_eq, openSessionEnd_eq, listed, List.foldl_append, List.foldl_cons,
        List.foldl_nil, scanRecord, if_pos]
      exact not_and_or.mp another

section Alike

variable {other : AuditRecordInput} (alike : entry.untimed = other.untimed)

include alike

theorem alike_eventId : entry.eventId = other.eventId := by
  have h := congrArg AuditRecordInput.eventId alike
  exact h

theorem alike_who : entry.sid = other.sid ∧ entry.pid = other.pid := by
  have hs := congrArg AuditRecordInput.sid alike
  have hp := congrArg AuditRecordInput.pid alike
  exact ⟨hs, hp⟩

theorem alike_report : entry.report = other.report := by
  have h := congrArg AuditRecordInput.report alike
  exact h

theorem alike_kind : entry.kind = other.kind := by
  have h := congrArg AuditRecordInput.kind alike
  exact h

/-- Entries that differ only in times differ in nothing if their details agree. -/
theorem eq_of_alike (same : entry.detail = other.detail) : entry = other := by
  cases entry
  cases other
  simp only [AuditRecordInput.untimed, AuditRecordInput.mk.injEq] at alike same ⊢
  exact ⟨alike.1, alike.2.1, alike.2.2.1, alike.2.2.2.1, alike.2.2.2.2.1, alike.2.2.2.2.2.1, same⟩

/-- Ends with a new id leave the same log, whatever follows, exactly when they
are the same or are folded, and what follows does the same. -/
theorem foldl_record_end_iff (isEnd : entry.kind = .sessionEnd)
    (fresh : log.get entry.eventId = none) (entries others : List AuditRecordInput) :
    entries.foldl (fun log entry => (log.record entry).1) (log.record entry).1 =
        others.foldl (fun log entry => (log.record entry).1) (log.record other).1 ↔
      (entry = other ∨ (log.openSessionEnd entry.sid entry.pid).isSome) ∧
        entries.foldl (fun log entry => (log.record entry).1) (log.record entry).1 =
          others.foldl (fun log entry => (log.record entry).1) (log.record entry).1 := by
  have otherFresh : log.get other.eventId = none := by rw [← alike_eventId alike, fresh]
  have otherEnd : other.kind = .sessionEnd := by rw [← alike_kind alike, isEnd]
  rw [get] at fresh otherFresh
  cases hOpen : log.openSessionEnd entry.sid entry.pid with
  | some found =>
      have otherOpen : log.openSessionEnd other.sid other.pid = some found := by
        rw [← (alike_who alike).1, ← (alike_who alike).2, hOpen]
      have same : (log.record entry).1 = (log.record other).1 := by
        rw [record, record, fresh, otherFresh, convergent, convergent, if_pos isEnd, if_pos otherEnd,
          hOpen, otherOpen, alike_report alike]
      rw [same]
      simp
  | none =>
      have otherOpen : log.openSessionEnd other.sid other.pid = none := by
        rw [← (alike_who alike).1, ← (alike_who alike).2, hOpen]
      have stored : (log.record entry).1 = log.put { entry with reports := [entry.report] } := by
        rw [record, fresh, convergent, if_pos isEnd, hOpen]
      have otherStored : (log.record other).1 = log.put { other with reports := [other.report] } := by
        rw [record, otherFresh, convergent, if_pos otherEnd, otherOpen]
      by_cases same : entry = other
      · rw [same]
        simp
      · have own : (log.record entry).1.get entry.eventId =
            some { entry with reports := [entry.report] } := by
          rw [stored, get_put]
          exact if_pos rfl
        have otherOwn : (log.record other).1.get entry.eventId =
            some { other with reports := [other.report] } := by
          rw [otherStored, get_put]
          exact if_pos (alike_eventId alike)
        obtain ⟨kept, hKept, detail⟩ := get_foldl_record_detail own entries
        obtain ⟨otherKept, hOther, otherDetail⟩ := get_foldl_record_detail otherOwn others
        constructor
        · intro h
          rw [h, hOther] at hKept
          rw [Option.some.inj hKept] at otherDetail
          exact absurd (eq_of_alike alike (detail.symm.trans otherDetail)) same
        · rintro ⟨same' | folded, _⟩
          · exact absurd same' same
          · cases folded

end Alike

/-- Two lists of ends under new ids, one a session and participant, leave the
same log exactly when those that differ are folded into ends the log has. -/
theorem foldl_ends_eq_iff {entries others : List AuditRecordInput}
    (alike : List.Forall₂ (fun entry other : AuditRecordInput => entry.untimed = other.untimed)
      entries others)
    (ends : ∀ entry ∈ entries, entry.kind = .sessionEnd)
    (fresh : ∀ entry ∈ entries, log.get entry.eventId = none)
    (ids : (entries.map AuditRecordInput.eventId).Nodup)
    (who : (entries.map fun entry => (entry.sid, entry.pid)).Nodup) :
    entries.foldl (fun log entry => (log.record entry).1) log =
        others.foldl (fun log entry => (log.record entry).1) log ↔
      ∀ pair ∈ entries.zip others,
        pair.1 = pair.2 ∨ (log.openSessionEnd pair.1.sid pair.1.pid).isSome := by
  induction alike generalizing log with
  | nil => simp
  | @cons entry other entries others pair rest ih =>
      rw [List.map_cons, List.nodup_cons] at ids who
      have newId : ∀ later ∈ entries, later.eventId ≠ entry.eventId := by
        intro later hl he
        exact ids.1 (he ▸ List.mem_map_of_mem hl)
      have newWho : ∀ later ∈ entries, ¬(entry.sid = later.sid ∧ entry.pid = later.pid) := by
        rintro later hl ⟨hs, hp⟩
        exact who.1 (List.mem_map.mpr ⟨later, hl, by rw [hs, hp]⟩)
      have stillFresh : ∀ later ∈ entries, (log.record entry).1.get later.eventId = none := by
        intro later hl
        rw [← Option.not_isSome_iff_eq_none, get_record_isSome (newId later hl),
          fresh later (List.mem_cons_of_mem _ hl)]
        simp
      have later := ih (fun later hl => ends later (List.mem_cons_of_mem _ hl)) stillFresh ids.2
        who.2
      rw [List.foldl_cons, List.foldl_cons, foldl_record_end_iff pair
        (ends entry List.mem_cons_self) (fresh entry List.mem_cons_self), later, List.zip_cons_cons,
        List.forall_mem_cons]
      refine and_congr Iff.rfl (forall_congr' fun both => imp_congr_right fun hb => ?_)
      rw [openSessionEnd_record_isSome (newWho both.1 (List.of_mem_zip hb).1)]

end AuditLog

end Copresence
