import Copresence.Properties.Reaping
import Copresence.Services.AuditEntries

/-! When the reconciler infers an end. It reads the audit log alone, so a
live participant is safe from it only through what the log says. -/
namespace Copresence

open Collections

namespace AuditReconciler

/-- The records of this kind that the sweep groups under a key. -/
def under (kind : AuditEventKind) (k : String) (log : AuditLog) : List AuditRecord :=
  log.all.filter fun record => record.kind = kind ∧ key record = k

/-- The records under a key are those of its kind whose key it is. -/
theorem mem_under {kind : AuditEventKind} {k : String} {log : AuditLog} {record : AuditRecord} :
    record ∈ under kind k log ↔ record ∈ log.all ∧ record.kind = kind ∧ key record = k := by
  rw [under, List.mem_filter, decide_eq_true_iff]

/-- Keeping the latest compares it with what stands under its own key. -/
theorem get?_keepLatest (stored : JsMap String AuditRecord) (record : AuditRecord) (k : String) :
    (keepLatest stored record).get? k =
      if key record = k then AuditLog.later (stored.get? k) record else stored.get? k := by
  by_cases own : key record = k
  · rw [if_pos own, ← own, keepLatest]
    cases h : stored.get? (key record) with
    | none => exact JsMap.get?_set_self ..
    | some existing =>
        show JsMap.get? (if record.recordedAt > existing.recordedAt then _ else _) _ =
          if record.recordedAt > existing.recordedAt then _ else _
        split
        · exact JsMap.get?_set_self ..
        · exact h
  · have other : ∀ kept, (kept = stored.set (key record) record ∨ kept = stored) →
        kept.get? k = stored.get? k := by
      rintro kept (rfl | rfl)
      · exact JsMap.get?_set_ne _ _ fun he => own he.symm
      · rfl
    rw [if_neg own]
    apply other
    rw [keepLatest]
    split
    · exact Or.inl rfl
    · split
      · exact Or.inl rfl
      · exact Or.inr rfl

/-- The scan keeps the latest start and the latest end under each key. -/
theorem foldl_scan_get? (records : List AuditRecord) (k : String) :
    (records.foldl scan (JsMap.empty, JsMap.empty)).1.get? k =
        ((records.filter fun record => record.kind = .sessionStart ∧ key record = k).argmax
          fun record => record.recordedAt) ∧
      (records.foldl scan (JsMap.empty, JsMap.empty)).2.get? k =
        ((records.filter fun record => record.kind = .sessionEnd ∧ key record = k).argmax
          fun record => record.recordedAt) := by
  induction records using List.reverseRecOn with
  | nil => exact ⟨rfl, rfl⟩
  | append_singleton records record ih =>
      rw [List.foldl_append, List.foldl_cons, List.foldl_nil, scan, AuditLog.argmax_filter_concat,
        AuditLog.argmax_filter_concat, ← ih.1, ← ih.2]
      cases record.kind <;> simp [get?_keepLatest]

/-- The first loop finds the first of the latest starts and ends of every key. -/
theorem latest_get? (log : AuditLog) (k : String) :
    (latest log).1.get? k = (under .sessionStart k log).argmax (fun record => record.recordedAt) ∧
      (latest log).2.get? k = (under .sessionEnd k log).argmax fun record => record.recordedAt :=
  foldl_scan_get? log.all k

/-- The second loop closes the first of the latest starts of its key, if it is
old and no end of the key is as late. -/
theorem mem_overdueStarts {log : AuditLog} {ttlMs now : Int} {start : AuditRecord} :
    start ∈ overdueStarts log ttlMs now ↔
      start ∈ (under .sessionStart (key start) log).argmax (fun record => record.recordedAt) ∧
        (∀ ended ∈ under .sessionEnd (key start) log, ended.recordedAt < start.recordedAt) ∧
          ttlMs ≤ now - start.recordedAt := by
  have listed : start ∈ (latest log).1.values ↔
      start ∈ (under .sessionStart (key start) log).argmax (fun record => record.recordedAt) := by
    rw [JsMap.mem_values_iff]
    constructor
    · intro ⟨k, h⟩
      rw [(latest_get? log k).1] at h
      obtain ⟨_, _, rfl⟩ := mem_under.mp (List.argmax_mem h)
      exact h
    · intro h
      exact ⟨key start, (latest_get? log _).1.trans h⟩
  have closed : overdue (latest log).2 ttlMs now start = true ↔
      (∀ ended ∈ under .sessionEnd (key start) log, ended.recordedAt < start.recordedAt) ∧
        ttlMs ≤ now - start.recordedAt := by
    rw [overdue, (latest_get? log _).2]
    cases hEnd : (under .sessionEnd (key start) log).argmax fun record => record.recordedAt with
    | none =>
        rw [List.argmax_eq_none.mp hEnd]
        simp
    | some ended =>
        have newest : (∀ other ∈ under .sessionEnd (key start) log,
            other.recordedAt < start.recordedAt) ↔ ended.recordedAt < start.recordedAt := by
          constructor
          · intro h
            exact h ended (List.argmax_mem hEnd)
          · intro h other hm
            have older : other.recordedAt ≤ ended.recordedAt :=
              List.le_of_mem_argmax (f := fun record : AuditRecord => record.recordedAt) hm hEnd
            exact lt_of_le_of_lt older h
        rw [newest]
        simp
  rw [overdueStarts, List.mem_filter, listed, closed]

/-- The log's most recent `session.start` of the pair is at least `ttlMs` old
and no `session.end` of the pair is as late. -/
def LeftOpen (log : AuditLog) (ttlMs now : Int) (sid : SessionId) (pid : ParticipantId) : Prop :=
  ∃ start ∈ log.all, (start.sid = sid ∧ start.pid = pid ∧ start.kind = .sessionStart) ∧
    ttlMs ≤ now - start.recordedAt ∧
    ∀ other ∈ log.all, other.sid = sid → other.pid = pid →
      (other.kind = .sessionStart → other.recordedAt ≤ start.recordedAt) ∧
        (other.kind = .sessionEnd → other.recordedAt < start.recordedAt)

/-- An overdue start is one that was left open. -/
theorem leftOpen_of_mem_overdueStarts {log : AuditLog} {ttlMs now : Int} {start : AuditRecord}
    (h : start ∈ overdueStarts log ttlMs now) :
    LeftOpen log ttlMs now start.sid start.pid := by
  obtain ⟨latest, notClosed, old⟩ := mem_overdueStarts.mp h
  obtain ⟨hSeen, hKind, _⟩ := mem_under.mp (List.argmax_mem latest)
  refine ⟨start, hSeen, ⟨rfl, rfl, hKind⟩, old, ?_⟩
  intro other hOther hSid hPid
  have sameKey : key other = key start := by rw [key, key, hSid, hPid]
  constructor
  · intro isStart
    exact List.le_of_mem_argmax (f := fun record : AuditRecord => record.recordedAt)
      (mem_under.mpr ⟨hOther, isStart, sameKey⟩) latest
  · intro isEnd
    exact notClosed other (mem_under.mpr ⟨hOther, isEnd, sameKey⟩)

/-- After any run, a sweep infers an end for a pair only if the log has left
it open for a whole TTL, whether or not the participant is live. -/
theorem sweep_ends_leftOpen (cfg : Config) (events : List Stamped) (now : Int) (sid : SessionId)
    (pid : ParticipantId)
    (ended : ∃ entry ∈ (Server.initial.run cfg events).recordedSince
      (sweep cfg now (Server.initial.run cfg events)), entry.sid = sid ∧ entry.pid = pid) :
    LeftOpen (Server.initial.run cfg events).auditLog cfg.ttlMs now sid pid := by
  obtain ⟨entry, hm, rfl, rfl⟩ := ended
  rw [sweep_recordedSince, inferredEnds] at hm
  obtain ⟨⟨start, index⟩, hStart, rfl⟩ := List.mem_map.mp hm
  exact leftOpen_of_mem_overdueStarts (List.fst_mem_of_mem_zipIdx hStart)

open Scenario

/-- A participant whose `session.start` is old and whose cursor still moves. -/
def longReader : List Stamped :=
  arrival 0 1 session alice 1 ++
    [⟨1, .message 1 (startFrame session alice 2 1 ⟨"e", nonempty_e⟩)⟩,
      ⟨150, .message 1 (cursorFrame session alice 3 150 1 4)⟩]

theorem longReader_ended :
    ∃ entry ∈ (Server.initial.run (config 100) longReader).recordedSince
      (sweep (config 100) 151 (Server.initial.run (config 100) longReader)),
      entry.sid = session ∧ entry.pid = alice := by
  decide

/-- The reconciler ends the session of a participant heard from a moment ago. -/
theorem sweep_ends_live :
    (∀ stamped ∈ longReader, stamped.Sendable) ∧
      (Observed.run (config 100) Observed.initial longReader).Active (151 - 100) session alice 1 ∧
      ∃ entry ∈ (Observed.run (config 100) Observed.initial longReader).server.recordedSince
        (sweep (config 100) 151 (Observed.run (config 100) Observed.initial longReader).server),
        entry.sid = session ∧ entry.pid = alice ∧ entry.kind = .sessionEnd ∧
          entry.source = .inferred :=
  ⟨by decide, ⟨by decide, by decide, by decide, by decide⟩, by decide⟩

theorem sweep_ends_leftOpen_longReader :
    LeftOpen (Server.initial.run (config 100) longReader).auditLog 100 151 session alice :=
  sweep_ends_leftOpen (config 100) longReader 151 session alice longReader_ended

end AuditReconciler

end Copresence
