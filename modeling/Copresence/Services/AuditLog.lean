import Copresence.Lib.JsMap
import Copresence.Protocol.Messages

/-! The audit log: idempotent on `eventId`, with reports of one session's end
folded into the record that closed the instance. -/
namespace Copresence

open Collections

/-- Which reporting path a record came from. -/
inductive AuditSource where
  | client
  | socket
  | inferred
deriving DecidableEq, Repr

/-- One path's report of a logical event. -/
structure AuditReport where
  source : AuditSource
  recordedAt : Int
deriving DecidableEq, Repr

/-- The two keys any caller puts into `detail`. -/
structure AuditDetail where
  reason : String
  lastSeenAt : Option Int := none
deriving DecidableEq, Repr

structure AuditRecordInput where
  eventId : EventId
  sid : SessionId
  pid : ParticipantId
  kind : AuditEventKind
  source : AuditSource
  recordedAt : Int
  detail : Option AuditDetail := none
deriving DecidableEq, Repr

structure AuditRecord extends AuditRecordInput where
  reports : List AuditReport
deriving DecidableEq, Repr

def AuditRecordInput.report (entry : AuditRecordInput) : AuditReport :=
  { source := entry.source, recordedAt := entry.recordedAt }

def AuditRecord.addReport (record : AuditRecord) (report : AuditReport) : AuditRecord :=
  { record with reports := record.reports ++ [report] }

/-- Every record is stored under its own event id. -/
structure AuditLog where
  records : JsMap EventId AuditRecord
  keyed : ∀ eventId record, records.get? eventId = some record → record.eventId = eventId

namespace AuditLog

def empty : AuditLog := ⟨JsMap.empty, by simp⟩

def has (log : AuditLog) (eventId : EventId) : Bool := log.records.has eventId

def get (log : AuditLog) (eventId : EventId) : Option AuditRecord := log.records.get? eventId

def all (log : AuditLog) : List AuditRecord := log.records.values

/-- The write every branch of `record` ends with. -/
def put (log : AuditLog) (record : AuditRecord) : AuditLog :=
  ⟨log.records.set record.eventId record, by
    intro eventId stored h
    rw [JsMap.get?_set] at h
    split at h
    · next he => rw [← Option.some.inj h, he]
    · exact log.keyed eventId stored h⟩

/-- Keep the record with the later `recordedAt`; a tie keeps the earlier one
in the listing. -/
def later (latest : Option AuditRecord) (record : AuditRecord) : Option AuditRecord :=
  match latest with
  | none => some record
  | some best => if record.recordedAt > best.recordedAt then some record else some best

/-- One step of the scan in `openSessionEnd`: the latest start and end so far. -/
def scanRecord (sid : SessionId) (pid : ParticipantId)
    (found : Option AuditRecord × Option AuditRecord) (record : AuditRecord) :
    Option AuditRecord × Option AuditRecord :=
  if record.sid ≠ sid ∨ record.pid ≠ pid then found
  else match record.kind with
    | .sessionStart => (later found.1 record, found.2)
    | .sessionEnd => (found.1, later found.2 record)
    | _ => found

/-- The `session.end` that already closes the open instance of `(sid, pid)`,
unless a strictly newer start has reopened it. -/
def openSessionEnd (log : AuditLog) (sid : SessionId) (pid : ParticipantId) :
    Option AuditRecord :=
  match log.all.foldl (scanRecord sid pid) (none, none) with
  | (_, none) => none
  | (some latestStart, some latestEnd) =>
    if latestStart.recordedAt > latestEnd.recordedAt then none else some latestEnd
  | (none, some latestEnd) => some latestEnd

def convergent (log : AuditLog) (entry : AuditRecordInput) : Option AuditRecord :=
  if entry.kind = .sessionEnd then log.openSessionEnd entry.sid entry.pid else none

/-- `false` when the report converges onto an existing record. -/
def record (log : AuditLog) (entry : AuditRecordInput) : AuditLog × Bool :=
  match log.records.get? entry.eventId with
  | some existingById => (log.put (existingById.addReport entry.report), false)
  | none =>
    match log.convergent entry with
    | some convergent => (log.put (convergent.addReport entry.report), false)
    | none => (log.put { entry with reports := [entry.report] }, true)

/-- The log contains this report, in a record with its event id or in the
`session.end` it was folded into. -/
def Holds (log : AuditLog) (entry : AuditRecordInput) : Prop :=
  ∃ record ∈ log.all, entry.report ∈ record.reports ∧
    (record.eventId = entry.eventId ∨
      (entry.kind = .sessionEnd ∧ record.kind = .sessionEnd ∧ record.sid = entry.sid ∧
        record.pid = entry.pid))

variable (log : AuditLog)

/-- The records listed are those found under their ids. -/
theorem mem_all_iff {record : AuditRecord} :
    record ∈ log.all ↔ log.records.get? record.eventId = some record := by
  rw [all, JsMap.mem_values_iff]
  constructor
  · intro ⟨eventId, h⟩
    rw [log.keyed eventId record h]
    exact h
  · intro h
    exact ⟨_, h⟩

/-- Putting a record replaces the one of its id and no other. -/
theorem mem_put {record other : AuditRecord} :
    other ∈ (log.put record).all ↔
      other = record ∨ (other.eventId ≠ record.eventId ∧ other ∈ log.all) := by
  rw [mem_all_iff, mem_all_iff, put, JsMap.get?_set]
  split
  · next h =>
      constructor
      · intro he
        exact Or.inl (Option.some.inj he).symm
      · intro hOr
        rcases hOr with rfl | ⟨hne, _⟩
        · rfl
        · exact absurd h hne
  · next h =>
      constructor
      · intro he
        exact Or.inr ⟨h, he⟩
      · intro hOr
        rcases hOr with rfl | ⟨_, he⟩
        · exact absurd rfl h
        · exact he

/-- What the scan has found is in what it has seen. -/
theorem later_mem {seen : List AuditRecord} {latest : Option AuditRecord} {record : AuditRecord}
    {P : AuditRecord → Prop} (hLatest : ∀ best, latest = some best → best ∈ seen ∧ P best)
    (hRecord : P record) :
    ∀ best, later latest record = some best → best ∈ seen ++ [record] ∧ P best := by
  intro best h
  have newest : best = record → best ∈ seen ++ [record] ∧ P best := by
    intro he
    rw [he]
    exact ⟨List.mem_append_right _ (List.mem_singleton_self _), hRecord⟩
  cases hl : latest with
  | none =>
      rw [hl] at h
      exact newest (Option.some.inj h).symm
  | some old =>
      rw [hl, later] at h
      split at h
      · exact newest (Option.some.inj h).symm
      · obtain ⟨hm, hp⟩ := hLatest old hl
        rw [← Option.some.inj h]
        exact ⟨List.mem_append_left _ hm, hp⟩

/-- A `session.end` of this participant in this session. -/
def IsEndOf (sid : SessionId) (pid : ParticipantId) (record : AuditRecord) : Prop :=
  record.kind = .sessionEnd ∧ record.sid = sid ∧ record.pid = pid

/-- The scan finds an end of the pair among the records it has seen. -/
theorem foldl_scanRecord (sid : SessionId) (pid : ParticipantId) (records : List AuditRecord)
    {seen : List AuditRecord} {found : Option AuditRecord × Option AuditRecord}
    (ends : ∀ best, found.2 = some best → best ∈ seen ∧ IsEndOf sid pid best) :
    ∀ best, (records.foldl (scanRecord sid pid) found).2 = some best →
      best ∈ seen ++ records ∧ IsEndOf sid pid best := by
  induction records generalizing seen found with
  | nil => simpa using ends
  | cons record records ih =>
      have turn : ∀ best, (scanRecord sid pid found record).2 = some best →
          best ∈ seen ++ [record] ∧ IsEndOf sid pid best := by
        have kept : ∀ best, found.2 = some best →
            best ∈ seen ++ [record] ∧ IsEndOf sid pid best := fun best h =>
          ⟨List.mem_append_left _ (ends best h).1, (ends best h).2⟩
        rw [scanRecord]
        split
        · exact kept
        · next own =>
            obtain ⟨hSid, hPid⟩ := not_or.mp own
            cases hk : record.kind with
            | sessionEnd => exact later_mem ends ⟨hk, not_not.mp hSid, not_not.mp hPid⟩
            | _ => exact kept
      have rest := ih turn
      rw [List.append_assoc] at rest
      exact rest

/-- The open end that is found is a record of the log, and an end of the pair. -/
theorem openSessionEnd_spec {sid : SessionId} {pid : ParticipantId} {record : AuditRecord}
    (h : log.openSessionEnd sid pid = some record) :
    record ∈ log.all ∧ IsEndOf sid pid record := by
  have ends : ∀ best, (log.all.foldl (scanRecord sid pid) (none, none)).2 = some best →
      best ∈ [] ++ log.all ∧ IsEndOf sid pid best := foldl_scanRecord sid pid log.all (by simp)
  unfold openSessionEnd at h
  split at h
  · cases h
  · next hf =>
      rw [hf] at ends
      split at h
      · cases h
      · exact ends record h
  · next hf =>
      rw [hf] at ends
      exact ends record h

/-- The record a report ends up in: the one stored under its event id, else
the end it is folded into, else its own. -/
inductive Written (entry : AuditRecordInput) : AuditRecord → Prop where
  | extended {stored : AuditRecord} (h : log.get entry.eventId = some stored) :
      Written entry (stored.addReport entry.report)
  | folded {found : AuditRecord} (fresh : log.get entry.eventId = none)
      (isEnd : entry.kind = .sessionEnd) (h : log.openSessionEnd entry.sid entry.pid = some found) :
      Written entry (found.addReport entry.report)
  | created (fresh : log.get entry.eventId = none) :
      Written entry { entry with reports := [entry.report] }

/-- Recording writes one record. -/
theorem record_written (entry : AuditRecordInput) :
    ∃ written, log.Written entry written ∧ (log.record entry).1 = log.put written := by
  rw [record]
  split
  · next existingById h => exact ⟨_, .extended h, rfl⟩
  · next absent =>
      split
      · next found h =>
          unfold convergent at h
          split at h
          · next isEnd => exact ⟨_, .folded absent isEnd h, rfl⟩
          · cases h
      · exact ⟨_, .created absent, rfl⟩

/-- The record that was stored in its place, if any, had everything else. -/
theorem Written.replaces {log : AuditLog} {entry : AuditRecordInput} {written : AuditRecord}
    (h : log.Written entry written) :
    ∀ old ∈ log.all, old.eventId = written.eventId → written = old.addReport entry.report := by
  have extend : ∀ stored ∈ log.all, ∀ old ∈ log.all,
      old.eventId = (stored.addReport entry.report).eventId →
        stored.addReport entry.report = old.addReport entry.report := by
    intro stored hs old ho he
    rw [mem_all_iff] at hs ho
    rw [he] at ho
    rw [Option.some.inj (hs.symm.trans ho)]
  cases h with
  | @extended stored h =>
      have hId := log.keyed _ _ h
      exact extend stored (log.mem_all_iff.mpr (by rw [hId]; exact h))
  | folded _ _ h => exact extend _ (log.openSessionEnd_spec h).1
  | created fresh =>
      intro old ho he
      rw [mem_all_iff, he] at ho
      rw [get] at fresh
      rw [fresh] at ho
      cases ho

/-- The written record has the report. -/
theorem Written.reported {log : AuditLog} {entry : AuditRecordInput} {written : AuditRecord}
    (h : log.Written entry written) : entry.report ∈ written.reports := by
  cases h with
  | extended => exact List.mem_append_right _ (List.mem_singleton_self _)
  | folded => exact List.mem_append_right _ (List.mem_singleton_self _)
  | created => exact List.mem_singleton_self _

/-- A record that took a report is another record than before. -/
theorem Written.not_mem {log : AuditLog} {entry : AuditRecordInput} {written : AuditRecord}
    (h : log.Written entry written) : written ∉ log.all := by
  intro hm
  have grown := congrArg (fun record => record.reports.length) (h.replaces written hm rfl)
  simp [AuditRecord.addReport] at grown

/-- The written record has the report's id, unless the report joined an end. -/
theorem Written.named {log : AuditLog} {entry : AuditRecordInput} {written : AuditRecord}
    (h : log.Written entry written) :
    written.eventId = entry.eventId ∨
      (entry.kind = .sessionEnd ∧ IsEndOf entry.sid entry.pid written) := by
  cases h with
  | @extended stored h =>
      have hId : stored.eventId = entry.eventId := log.keyed _ _ h
      exact Or.inl hId
  | folded _ isEnd h => exact Or.inr ⟨isEnd, (log.openSessionEnd_spec h).2⟩
  | created => exact Or.inl rfl

/-- What was recorded, the log holds. -/
theorem record_holds (entry : AuditRecordInput) : (log.record entry).1.Holds entry := by
  obtain ⟨written, h, hw⟩ := log.record_written entry
  rw [hw]
  exact ⟨written, (log.mem_put).mpr (Or.inl rfl), h.reported, h.named⟩

/-- A report stays in the log whatever is recorded later. -/
theorem Holds.record {log : AuditLog} {entry : AuditRecordInput} (h : log.Holds entry)
    (other : AuditRecordInput) : (log.record other).1.Holds entry := by
  obtain ⟨record, hm, reported, named⟩ := h
  obtain ⟨written, hWritten, hw⟩ := log.record_written other
  rw [hw]
  by_cases he : record.eventId = written.eventId
  · have grown := hWritten.replaces record hm he
    refine ⟨written, (log.mem_put).mpr (Or.inl rfl), ?_⟩
    rw [grown]
    exact ⟨List.mem_append_left _ reported, named⟩
  · exact ⟨record, (log.mem_put).mpr (Or.inr ⟨he, hm⟩), reported, named⟩

/-- The log still holds it after any further records. -/
theorem Holds.foldl {log : AuditLog} {entry : AuditRecordInput} (h : log.Holds entry)
    (entries : List AuditRecordInput) :
    (entries.foldl (fun log entry => (log.record entry).1) log).Holds entry := by
  induction entries generalizing log with
  | nil => exact h
  | cons other entries ih => exact ih (h.record other)

/-- The log holds every entry of a list that was recorded. -/
theorem holds_of_mem_foldl {log : AuditLog} {entry : AuditRecordInput}
    {entries : List AuditRecordInput} (h : entry ∈ entries) :
    (entries.foldl (fun log entry => (log.record entry).1) log).Holds entry := by
  induction entries generalizing log with
  | nil => cases h
  | cons first entries ih =>
      rcases List.mem_cons.mp h with rfl | h
      · exact (log.record_holds entry).foldl entries
      · exact ih h

end AuditLog

end Copresence
