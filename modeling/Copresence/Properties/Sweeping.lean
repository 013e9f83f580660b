import Copresence.Properties.Reconciling

/-! What a sweep of the reconciler leaves behind. It groups records by a
concatenated key, so a pair can be hidden by another with the same key. -/
namespace Copresence

open Collections

namespace AuditLog

variable {log : AuditLog}

/-- Ends of distinct pairs without an open end are all recorded. -/
theorem entries_foldl_record_ends {ends : List AuditRecordInput}
    (isEnd : ∀ entry ∈ ends, entry.kind = .sessionEnd)
    (fresh : ∀ entry ∈ ends, log.get entry.eventId = none)
    (ids : (ends.map AuditRecordInput.eventId).Nodup)
    (pairs : (ends.map fun entry => (entry.sid, entry.pid)).Nodup)
    (notOpen : ∀ entry ∈ ends, openEntry log.entries entry.sid entry.pid = none) :
    (ends.foldl (fun log entry => (log.record entry).1) log).entries = log.entries ++ ends := by
  induction ends generalizing log with
  | nil => exact (List.append_nil _).symm
  | cons entry ends ih =>
      rw [List.map_cons, List.nodup_cons] at ids pairs
      have added : (log.record entry).1.entries = log.entries ++ [entry] := by
        rw [entries_record, fresh entry List.mem_cons_self, notOpen entry List.mem_cons_self]
        simp
      have stillFresh : ∀ later ∈ ends, (log.record entry).1.get later.eventId = none := by
        intro later hm
        have another : later.eventId ≠ entry.eventId := fun he =>
          ids.1 (he ▸ List.mem_map_of_mem hm)
        rw [← Option.not_isSome_iff_eq_none, get_record_isSome another,
          fresh later (List.mem_cons_of_mem _ hm)]
        simp
      have stillNotOpen : ∀ later ∈ ends,
          openEntry (log.record entry).1.entries later.sid later.pid = none := by
        intro later hm
        have another : ∀ kind, ¬(entry.kind = kind ∧ entry.sid = later.sid ∧
            entry.pid = later.pid) := by
          rintro kind ⟨_, hSid, hPid⟩
          exact pairs.1 (List.mem_map.mpr ⟨later, hm, by rw [hSid, hPid]⟩)
        rw [added, openEntry, pairEntries_concat_other (another _),
          pairEntries_concat_other (another _)]
        exact notOpen later (List.mem_cons_of_mem _ hm)
      rw [List.foldl_cons, ih (fun later hm => isEnd later (List.mem_cons_of_mem _ hm)) stillFresh
        ids.2 pairs.2 stillNotOpen, added, List.append_assoc]
      rfl

end AuditLog

namespace AuditReconciler

/-- A pair that was left open has no end that a report could join. -/
theorem LeftOpen.openEntry_none {log : AuditLog} {ttlMs now : Int} {sid : SessionId}
    {pid : ParticipantId} (h : LeftOpen log ttlMs now sid pid) :
    openEntry log.entries sid pid = none := by
  obtain ⟨start, hm, ⟨hSid, hPid, hKind⟩, _, newest⟩ := h
  rw [openEntry_eq_none_iff]
  intro ended hEnded
  obtain ⟨hIn, isEnd, endSid, endPid⟩ := mem_pairEntries.mp hEnded
  obtain ⟨record, hRecord, rfl⟩ := List.mem_map.mp hIn
  exact ⟨start.toAuditRecordInput,
    mem_pairEntries.mpr ⟨List.mem_map_of_mem hm, hKind, hSid, hPid⟩,
    (newest record hRecord endSid endPid).2 isEnd⟩

section Ends

variable {cfg : Config} {now : Int}

theorem inferredEnds_cons (generated : Nat) (start : AuditRecord) (starts : List AuditRecord) :
    inferredEnds cfg now generated (start :: starts) =
      inferredEnd start now (cfg.generateId generated) ::
        inferredEnds cfg now (generated + 1) starts := by
  rw [inferredEnds, List.zipIdx_cons]
  rfl

/-- Every inferred end is that of one of the starts, under a drawn id. -/
theorem mem_inferredEnds {generated : Nat} {starts : List AuditRecord} {entry : AuditRecordInput}
    (h : entry ∈ inferredEnds cfg now generated starts) :
    ∃ start ∈ starts, ∃ index, generated ≤ index ∧
      entry = inferredEnd start now (cfg.generateId index) := by
  obtain ⟨⟨start, index⟩, hm, rfl⟩ := List.mem_map.mp h
  exact ⟨start, List.fst_mem_of_mem_zipIdx hm, index, List.le_snd_of_mem_zipIdx hm, rfl⟩

/-- The ends are inferred under the ids drawn one after the other. -/
theorem inferredEnds_eventIds (generated : Nat) (starts : List AuditRecord) :
    (inferredEnds cfg now generated starts).map AuditRecordInput.eventId =
      (List.range' generated starts.length).map cfg.generateId := by
  induction starts generalizing generated with
  | nil => rfl
  | cons start starts ih =>
      rw [inferredEnds_cons, List.map_cons, ih, List.length_cons, List.range'_succ, List.map_cons]
      rfl

/-- One end is inferred for the pair of each start. -/
theorem inferredEnds_pairs (generated : Nat) (starts : List AuditRecord) :
    (inferredEnds cfg now generated starts).map (fun entry => (entry.sid, entry.pid)) =
      starts.map fun start => (start.sid, start.pid) := by
  induction starts generalizing generated with
  | nil => rfl
  | cons start starts ih =>
      rw [inferredEnds_cons, List.map_cons, ih]
      rfl

/-- Closing starts records their ends and draws an id for each. -/
theorem foldl_closeStart_drawn (starts : List AuditRecord) (server : Server) :
    (starts.foldl (closeStart cfg now) server).auditLog =
        (inferredEnds cfg now server.generated starts).foldl
          (fun log entry => (log.record entry).1) server.auditLog ∧
      (starts.foldl (closeStart cfg now) server).generated = server.generated + starts.length := by
  induction starts generalizing server with
  | nil => exact ⟨rfl, rfl⟩
  | cons start starts ih =>
      obtain ⟨log, drawn⟩ := ih (closeStart cfg now server start)
      rw [List.foldl_cons, inferredEnds_cons, log, drawn, List.length_cons]
      refine ⟨rfl, ?_⟩
      show server.generated + 1 + starts.length = server.generated + (starts.length + 1)
      omega

/-- After a sweep the log has the ends of the overdue starts. -/
theorem sweep_auditLog (server : Server) :
    (sweep cfg now server).auditLog =
      (inferredEnds cfg now server.generated (overdueStarts server.auditLog cfg.ttlMs now)).foldl
        (fun log entry => (log.record entry).1) server.auditLog :=
  (foldl_closeStart_drawn _ server).1

theorem sweep_generated (server : Server) :
    (sweep cfg now server).generated =
      server.generated + (overdueStarts server.auditLog cfg.ttlMs now).length :=
  (foldl_closeStart_drawn _ server).2

end Ends

/-- Every key has one latest start, so every pair has at most one. -/
theorem overdueStarts_pairs (log : AuditLog) (ttlMs now : Int) :
    ((overdueStarts log ttlMs now).map fun start => (start.sid, start.pid)).Nodup := by
  have keyed : (latest log).1.values.map key = (latest log).1.keys := by
    apply JsMap.values_map_eq_keys
    intro k start h
    rw [(latest_get? log k).1] at h
    exact (mem_under.mp (List.argmax_mem h)).2.2
  have distinct : ((overdueStarts log ttlMs now).map key).Nodup := by
    rw [overdueStarts]
    apply (List.filter_sublist.map key).nodup
    rw [keyed]
    exact JsMap.nodup_keys _
  have keys : (overdueStarts log ttlMs now).map key =
      ((overdueStarts log ttlMs now).map fun start => (start.sid, start.pid)).map
        fun pair => pair.1.value ++ ":" ++ pair.2.value := by
    rw [List.map_map]
    rfl
  rw [keys] at distinct
  exact List.Nodup.of_map _ distinct

section Sweep

variable {cfg : Config} {now : Int} {server : Server} (unique : Function.Injective cfg.generateId)
  (undrawn : ∀ drawn, server.generated ≤ drawn →
    server.auditLog.get (cfg.generateId drawn) = none)

include unique undrawn

/-- Ids not drawn yet are fresh, so every inferred end gets its own record. -/
theorem sweep_entries :
    (sweep cfg now server).auditLog.entries = server.auditLog.entries ++
      inferredEnds cfg now server.generated (overdueStarts server.auditLog cfg.ttlMs now) := by
  rw [sweep_auditLog]
  apply AuditLog.entries_foldl_record_ends
  · intro entry hm
    obtain ⟨start, _, index, _, rfl⟩ := mem_inferredEnds hm
    rfl
  · intro entry hm
    obtain ⟨start, _, index, later, rfl⟩ := mem_inferredEnds hm
    exact undrawn index later
  · rw [inferredEnds_eventIds]
    exact (List.nodup_range' ..).map unique
  · rw [inferredEnds_pairs]
    exact overdueStarts_pairs _ _ _
  · intro entry hm
    obtain ⟨start, hStart, index, _, rfl⟩ := mem_inferredEnds hm
    exact (leftOpen_of_mem_overdueStarts hStart).openEntry_none

/-- Nor has the sweep used ids that are still to be drawn. -/
theorem sweep_undrawn (drawn : Nat) (later : (sweep cfg now server).generated ≤ drawn) :
    (sweep cfg now server).auditLog.get (cfg.generateId drawn) = none := by
  rw [sweep_generated] at later
  rw [← Option.not_isSome_iff_eq_none, AuditLog.get_isSome_iff, sweep_entries unique undrawn,
    List.map_append, inferredEnds_eventIds, List.mem_append]
  rintro (h | h)
  · rw [← AuditLog.get_isSome_iff, undrawn drawn (by omega)] at h
    cases h
  · obtain ⟨index, hm, he⟩ := List.mem_map.mp h
    rw [unique he] at hm
    have below := (List.mem_range'_1.mp hm).2
    omega

end Sweep

/-- The latest start of this pair among the entries. -/
def LatestStart (entries : List AuditRecordInput) (sid : SessionId) (pid : ParticipantId)
    (start : AuditRecordInput) : Prop :=
  start ∈ pairEntries .sessionStart sid pid entries ∧
    ∀ other ∈ pairEntries .sessionStart sid pid entries, other.recordedAt ≤ start.recordedAt

/-- An end of the pair is at least as late as its latest start. -/
def Closed (entries : List AuditRecordInput) (sid : SessionId) (pid : ParticipantId) : Prop :=
  ∃ ended ∈ pairEntries .sessionEnd sid pid entries,
    ∀ start ∈ pairEntries .sessionStart sid pid entries, start.recordedAt ≤ ended.recordedAt

/-- What a sweep promises: `closes` that no old start is left open, `adds` that
it records one end for a pair at most, and none for a pair that was closed or
whose latest start is within the grace period; `again` that a second sweep adds
nothing for a pair that is closed by then. -/
structure Settles (cfg : Config) (now : Int) (server : Server) : Prop where
  closes : ∀ sid pid start, LatestStart server.auditLog.entries sid pid start →
    start.recordedAt ≤ now - cfg.ttlMs →
      ∃ ended ∈ pairEntries .sessionEnd sid pid (sweep cfg now server).auditLog.entries,
        start.recordedAt ≤ ended.recordedAt
  adds : ∃ added, (sweep cfg now server).auditLog.entries = server.auditLog.entries ++ added ∧
    (added.map fun entry => (entry.sid, entry.pid)).Nodup ∧
      ∀ entry ∈ added, ¬ Closed server.auditLog.entries entry.sid entry.pid ∧
        ∃ start, LatestStart server.auditLog.entries entry.sid entry.pid start ∧
          start.recordedAt ≤ now - cfg.ttlMs
  again : ∀ later, now ≤ later → ∃ added,
    (sweep cfg later (sweep cfg now server)).auditLog.entries =
        (sweep cfg now server).auditLog.entries ++ added ∧
      ∀ entry ∈ added, ¬ Closed (sweep cfg now server).auditLog.entries entry.sid entry.pid

/-- Wherever the pair is left open, the first of the latest starts under its
concatenated key is its own, and no end under that key is as late. -/
def Unshadowed (log : AuditLog) (ttlMs now : Int) : Prop :=
  ∀ sid pid, LeftOpen log ttlMs now sid pid →
    ∃ start ∈ (under .sessionStart (sid.value ++ ":" ++ pid.value) log).argmax
        fun record => record.recordedAt,
      start.sid = sid ∧ start.pid = pid ∧
        ∀ ended ∈ under .sessionEnd (sid.value ++ ":" ++ pid.value) log,
          ended.recordedAt < start.recordedAt

section LeftOpen

variable {log : AuditLog} {ttlMs now : Int} {sid : SessionId} {pid : ParticipantId}

/-- A pair is left open when its latest start is old and it is not closed. -/
theorem leftOpen_iff :
    LeftOpen log ttlMs now sid pid ↔
      ¬ Closed log.entries sid pid ∧
        ∃ start, LatestStart log.entries sid pid start ∧ start.recordedAt ≤ now - ttlMs := by
  constructor
  · intro ⟨start, hm, ⟨hSid, hPid, hKind⟩, old, newest⟩
    have listed := mem_pairEntries.mpr ⟨List.mem_map_of_mem (f := AuditRecord.toAuditRecordInput) hm,
      hKind, hSid, hPid⟩
    have others : ∀ kind, ∀ other ∈ pairEntries kind sid pid log.entries, ∃ record ∈ log.all,
        record.toAuditRecordInput = other ∧ record.kind = kind ∧ record.sid = sid ∧
          record.pid = pid := by
      intro kind other ho
      obtain ⟨hIn, ofKind, ofSid, ofPid⟩ := mem_pairEntries.mp ho
      obtain ⟨record, hRecord, rfl⟩ := List.mem_map.mp hIn
      exact ⟨record, hRecord, rfl, ofKind, ofSid, ofPid⟩
    constructor
    · intro ⟨ended, hEnded, settled⟩
      obtain ⟨record, hRecord, rfl, isEnd, ofSid, ofPid⟩ := others _ ended hEnded
      have earlier := (newest record hRecord ofSid ofPid).2 isEnd
      exact absurd (settled _ listed) (not_le.mpr earlier)
    · refine ⟨start.toAuditRecordInput, ⟨listed, ?_⟩, by omega⟩
      intro other ho
      obtain ⟨record, hRecord, rfl, isStart, ofSid, ofPid⟩ := others _ other ho
      exact (newest record hRecord ofSid ofPid).1 isStart
  · intro ⟨notClosed, start, ⟨hm, newest⟩, old⟩
    obtain ⟨hIn, hKind, hSid, hPid⟩ := mem_pairEntries.mp hm
    obtain ⟨record, hRecord, rfl⟩ := List.mem_map.mp hIn
    refine ⟨record, hRecord, ⟨hSid, hPid, hKind⟩, by omega, ?_⟩
    intro other hOther ofSid ofPid
    have listed : ∀ kind, other.kind = kind →
        other.toAuditRecordInput ∈ pairEntries kind sid pid log.entries := fun kind ofKind =>
      mem_pairEntries.mpr ⟨List.mem_map_of_mem hOther, ofKind, ofSid, ofPid⟩
    constructor
    · intro isStart
      exact newest _ (listed _ isStart)
    · intro isEnd
      by_contra late
      apply notClosed
      refine ⟨_, listed _ isEnd, fun earlier he => ?_⟩
      have bound := newest earlier he
      have late' := not_lt.mp late
      exact bound.trans late'

end LeftOpen

section Settles

variable {cfg : Config} {now : Int} {server : Server} (unique : Function.Injective cfg.generateId)
  (undrawn : ∀ drawn, server.generated ≤ drawn →
    server.auditLog.get (cfg.generateId drawn) = none)

include unique undrawn

/-- A sweep adds at most one end for a pair, and only where the latest start was
left open. -/
theorem sweep_adds : ∃ added,
    (sweep cfg now server).auditLog.entries = server.auditLog.entries ++ added ∧
      (added.map fun entry => (entry.sid, entry.pid)).Nodup ∧
        ∀ entry ∈ added, ¬ Closed server.auditLog.entries entry.sid entry.pid ∧
          ∃ start, LatestStart server.auditLog.entries entry.sid entry.pid start ∧
            start.recordedAt ≤ now - cfg.ttlMs := by
  refine ⟨_, sweep_entries unique undrawn, ?_, ?_⟩
  · rw [inferredEnds_pairs]
    exact overdueStarts_pairs _ _ _
  · intro entry hm
    obtain ⟨start, hStart, index, _, rfl⟩ := mem_inferredEnds hm
    exact leftOpen_iff.mp (leftOpen_of_mem_overdueStarts hStart)

/-- An end of the pair recorded by the sweep is one of an overdue start. -/
theorem mem_sweep_ends {sid : SessionId} {pid : ParticipantId} {ended : AuditRecordInput} :
    ended ∈ pairEntries .sessionEnd sid pid (sweep cfg now server).auditLog.entries ↔
      ended ∈ pairEntries .sessionEnd sid pid server.auditLog.entries ∨
        ended ∈ inferredEnds cfg now server.generated
            (overdueStarts server.auditLog cfg.ttlMs now) ∧
          ended.sid = sid ∧ ended.pid = pid := by
  rw [mem_pairEntries, mem_pairEntries, sweep_entries unique undrawn, List.mem_append]
  constructor
  · rintro ⟨hm | hm, isEnd, own⟩
    · exact Or.inl ⟨hm, isEnd, own⟩
    · exact Or.inr ⟨hm, own⟩
  · rintro (⟨hm, isEnd, own⟩ | ⟨hm, own⟩)
    · exact ⟨Or.inl hm, isEnd, own⟩
    · obtain ⟨start, _, index, _, rfl⟩ := mem_inferredEnds hm
      exact ⟨Or.inr hm, rfl, own⟩

/-- Only a pair hidden behind another is left open. -/
theorem closes_iff_unshadowed
    (past : ∀ entry ∈ server.auditLog.entries, entry.recordedAt ≤ now) :
    (∀ sid pid start, LatestStart server.auditLog.entries sid pid start →
      start.recordedAt ≤ now - cfg.ttlMs →
        ∃ ended ∈ pairEntries .sessionEnd sid pid (sweep cfg now server).auditLog.entries,
          start.recordedAt ≤ ended.recordedAt) ↔
      Unshadowed server.auditLog cfg.ttlMs now := by
  constructor
  · intro closes sid pid left
    obtain ⟨notClosed, start, ⟨hm, newest⟩, old⟩ := leftOpen_iff.mp left
    obtain ⟨ended, hEnded, late⟩ := closes sid pid start ⟨hm, newest⟩ old
    rcases (mem_sweep_ends unique undrawn).mp hEnded with hEnded | ⟨hEnded, own⟩
    · exact absurd ⟨ended, hEnded, fun other ho => (newest other ho).trans late⟩ notClosed
    · obtain ⟨first, hFirst, index, _, rfl⟩ := mem_inferredEnds hEnded
      obtain ⟨rfl, rfl⟩ : first.sid = sid ∧ first.pid = pid := own
      obtain ⟨latest, ends, _⟩ := mem_overdueStarts.mp hFirst
      exact ⟨first, latest, rfl, rfl, ends⟩
  · intro unshadowed sid pid start latest old
    by_cases closed : Closed server.auditLog.entries sid pid
    · obtain ⟨ended, hEnded, settled⟩ := closed
      exact ⟨ended, (mem_sweep_ends unique undrawn).mpr (Or.inl hEnded), settled start latest.1⟩
    · obtain ⟨first, hFirst, rfl, rfl, ends⟩ :=
        unshadowed sid pid (leftOpen_iff.mpr ⟨closed, start, latest, old⟩)
      obtain ⟨hIn, hKind, _⟩ := mem_under.mp (List.argmax_mem hFirst)
      have listed : first.toAuditRecordInput ∈
          pairEntries .sessionStart first.sid first.pid server.auditLog.entries :=
        mem_pairEntries.mpr ⟨List.mem_map_of_mem hIn, hKind, rfl, rfl⟩
      have earlier : first.recordedAt ≤ start.recordedAt := latest.2 _ listed
      have overdue : first ∈ overdueStarts server.auditLog cfg.ttlMs now :=
        mem_overdueStarts.mpr ⟨hFirst, ends, by omega⟩
      have paired := @inferredEnds_pairs cfg now server.generated
        (overdueStarts server.auditLog cfg.ttlMs now)
      have hm : (first.sid, first.pid) ∈ (overdueStarts server.auditLog cfg.ttlMs now).map
          fun start => (start.sid, start.pid) := List.mem_map_of_mem overdue
      rw [← paired] at hm
      obtain ⟨ended, hEnded, own⟩ := List.mem_map.mp hm
      obtain ⟨hSid, hPid⟩ := Prod.mk.inj own
      refine ⟨ended, (mem_sweep_ends unique undrawn).mpr (Or.inr ⟨hEnded, hSid, hPid⟩), ?_⟩
      obtain ⟨_, _, _, _, rfl⟩ := mem_inferredEnds hEnded
      exact past start (mem_pairEntries.mp latest.1).1

end Settles

/-- For every log that calls have led to and every time none of them is later
than, a sweep settles the log exactly when no pair that it should close is
hidden behind another under the same concatenated key. -/
theorem settles_iff (cfg : Config) (now : Int) (server : Server) (calls : List AuditRecordInput)
    (reached : server.auditLog = AuditLog.recordAll calls)
    (past : ∀ call ∈ calls, call.recordedAt ≤ now) (unique : Function.Injective cfg.generateId)
    (undrawn : ∀ drawn, server.generated ≤ drawn →
      server.auditLog.get (cfg.generateId drawn) = none) :
    Settles cfg now server ↔ Unshadowed server.auditLog cfg.ttlMs now := by
  have entriesPast : ∀ entry ∈ server.auditLog.entries, entry.recordedAt ≤ now := by
    intro entry hm
    rw [reached] at hm
    exact past entry ((AuditLog.entries_recordAll_sublist calls).subset hm)
  rw [← closes_iff_unshadowed unique undrawn entriesPast]
  constructor
  · exact Settles.closes
  · intro closes
    refine ⟨closes, sweep_adds unique undrawn, ?_⟩
    intro later _
    obtain ⟨added, hAdded, _, spared⟩ := @sweep_adds cfg later _ unique
      (sweep_undrawn unique undrawn)
    exact ⟨added, hAdded, fun entry hm => (spared entry hm).1⟩

open Scenario

/-- Two pairs whose ids are different and whose keys are the same. -/
def sameKey : List AuditRecordInput :=
  [clientEntry ⟨"a:b", by decide⟩ ⟨"c", by decide⟩ 1 .sessionStart 0,
    clientEntry ⟨"a", nonempty_a⟩ ⟨"b:c", by decide⟩ 2 .sessionStart 5]

/-- A server with this log that has drawn no id yet. -/
def recordedServer (calls : List AuditRecordInput) : Server :=
  { Server.initial with auditLog := AuditLog.recordAll calls }

def distinct : Config := { ttlMs := 50, generateId := longerId }

theorem sameKey_undrawn (drawn : Nat) :
    (recordedServer sameKey).auditLog.get (distinct.generateId drawn) = none := by
  apply AuditLog.get_recordAll_fresh
  have numbered : ∀ eventId ∈ sameKey.map AuditRecordInput.eventId,
      (eventId.value.toList.all fun letter => letter = 'g') = false := by
    decide
  intro hm
  have letters := numbered _ hm
  rw [show distinct.generateId drawn = longerId drawn from rfl, longerId_toList] at letters
  simp at letters

/-- The earlier start stays open: only the later one's pair gets an end. -/
theorem sameKey_left_open :
    (∀ call ∈ sameKey, call.recordedAt ≤ 100) ∧ ¬ Settles distinct 100 (recordedServer sameKey) := by
  refine ⟨by decide, fun settles => ?_⟩
  obtain ⟨ended, hm, _⟩ := settles.closes ⟨"a:b", by decide⟩ ⟨"c", by decide⟩
    (clientEntry ⟨"a:b", by decide⟩ ⟨"c", by decide⟩ 1 .sessionStart 0)
    ⟨by decide, by decide⟩ (by decide)
  have nothing : pairEntries .sessionEnd ⟨"a:b", by decide⟩ ⟨"c", by decide⟩
      (sweep distinct 100 (recordedServer sameKey)).auditLog.entries = [] := by decide
  rw [nothing] at hm
  cases hm

theorem settles_iff_sameKey :
    Settles distinct 100 (recordedServer sameKey) ↔
      Unshadowed (recordedServer sameKey).auditLog distinct.ttlMs 100 :=
  settles_iff distinct 100 (recordedServer sameKey) sameKey rfl (by decide) longerId_injective
    fun drawn _ => sameKey_undrawn drawn

end AuditReconciler

end Copresence
