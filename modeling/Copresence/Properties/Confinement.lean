import Copresence.Server.Audits

/-! What one frame can touch: the roster entry, the registration and the audit
records of its own connection's participant. -/
namespace Copresence

namespace Server

/-- The participant a frame acts for: the connection's own or, on a connection
that has none yet, the one its hello names. -/
def ActsFor (ctx : ConnectionContext) (frame : RawFrame) (pid : ParticipantId) : Prop :=
  ctx.pid = some pid ∨
    (ctx.pid = none ∧ ∃ msg, decodeInbound frame = .ok (.hello msg) ∧ msg.pid = pid)

/-- Whatever is not of this connection's participant is as it was before. -/
structure Confined (before after : Server) (ctx : ConnectionContext) (pid : ParticipantId) :
    Prop where
  identified : ∀ known, ctx.pid = some known →
    (after.contexts ctx.socket).bind ConnectionContext.pid = some known
  entries : ∀ sid other, ¬(sid = ctx.sid ∧ other = pid) →
    after.entryOf sid other = before.entryOf sid other
  registrations : ∀ other, other ≠ pid →
    after.hub.registration other = before.hub.registration other
  records : ∀ record : AuditRecord, ¬(record.sid = ctx.sid ∧ record.pid = pid) →
    (record ∈ after.auditLog.all ↔ record ∈ before.auditLog.all)

/-- The step put the report into a record of its own session, participant and
kind. -/
def Filed (before after : Server) (entry : AuditRecordInput) : Prop :=
  ∃ record ∈ after.auditLog.all, record ∉ before.auditLog.all ∧ entry.report ∈ record.reports ∧
    record.sid = entry.sid ∧ record.pid = entry.pid ∧ record.kind = entry.kind

/-- A record stored under this id, if any, is of this session, participant and kind. -/
def OwnId (log : AuditLog) (entry : AuditRecordInput) : Prop :=
  ∀ stored, log.get entry.eventId = some stored →
    stored.sid = entry.sid ∧ stored.pid = entry.pid ∧ stored.kind = entry.kind

end Server

namespace AuditLog

variable {log : AuditLog} {entry : AuditRecordInput}

theorem Written.own {written : AuditRecord} (h : log.Written entry written)
    (own : Server.OwnId log entry) :
    written.sid = entry.sid ∧ written.pid = entry.pid ∧ written.kind = entry.kind := by
  cases h with
  | @extended stored h =>
      have kept : stored.sid = entry.sid ∧ stored.pid = entry.pid ∧ stored.kind = entry.kind :=
        own stored h
      exact kept
  | folded _ isEnd h =>
      obtain ⟨kind, sid, pid⟩ := (log.openSessionEnd_spec h).2
      exact ⟨sid, pid, kind.trans isEnd.symm⟩
  | created => exact ⟨rfl, rfl, rfl⟩

/-- Under an id of its own, a report leaves everybody else's records alone. -/
theorem mem_record_iff (own : Server.OwnId log entry) {record : AuditRecord}
    (another : ¬(record.sid = entry.sid ∧ record.pid = entry.pid)) :
    record ∈ (log.record entry).1.all ↔ record ∈ log.all := by
  obtain ⟨written, h, hw⟩ := log.record_written entry
  obtain ⟨sid, pid, _⟩ := h.own own
  rw [hw, mem_put]
  constructor
  · intro hOr
    rcases hOr with rfl | ⟨_, hm⟩
    · exact absurd ⟨sid, pid⟩ another
    · exact hm
  · intro hm
    by_cases he : record.eventId = written.eventId
    · have grown := h.replaces record hm he
      rw [grown] at sid pid
      exact absurd ⟨sid, pid⟩ another
    · exact Or.inr ⟨he, hm⟩

end AuditLog

namespace Server

variable {cfg : Config} {server : Server} {stamped : Stamped} {socket : SocketId}
  {frame : RawFrame} {ctx : ConnectionContext} {pid : ParticipantId}

/-- A report is filed under its own name exactly when its id is its own. -/
theorem filed_record_iff (entry : AuditRecordInput) :
    (∃ record ∈ (server.auditLog.record entry).1.all, record ∉ server.auditLog.all ∧
      entry.report ∈ record.reports ∧ record.sid = entry.sid ∧ record.pid = entry.pid ∧
        record.kind = entry.kind) ↔ OwnId server.auditLog entry := by
  obtain ⟨written, h, hw⟩ := server.auditLog.record_written entry
  rw [hw]
  constructor
  · intro ⟨record, hm, isNew, _, sid, pid, kind⟩ stored hs
    rcases (AuditLog.mem_put _).mp hm with rfl | ⟨_, old⟩
    · have hId : stored.eventId = entry.eventId := server.auditLog.keyed _ _ hs
      cases h with
      | extended h =>
          rw [hs] at h
          rw [Option.some.inj h]
          exact ⟨sid, pid, kind⟩
      | folded fresh => rw [fresh] at hs; cases hs
      | created fresh => rw [fresh] at hs; cases hs
    · exact absurd old isNew
  · intro own
    exact ⟨written, (AuditLog.mem_put _).mpr (Or.inl rfl), h.not_mem, h.reported, h.own own⟩

theorem dispatch_auditLog (now : Int) (ctx : ConnectionContext) (server : Server)
    (msg : InboundMessage) :
    (dispatch now ctx server msg).auditLog =
      match msg with
      | .audit msg => (server.auditLog.record (auditEntry msg ctx.sid now)).1
      | _ => server.auditLog := by
  cases msg with
  | audit msg => rfl
  | hello msg =>
      show (handleHello now ctx msg server).auditLog = _
      rw [handleHello_eq]
      rfl
  | bye msg =>
      show (removeFromSession now ctx msg.pid _).auditLog = _
      rw [removeFromSession_eq]
      rfl
  | ping msg =>
      show (handlePing now ctx msg server).auditLog = _
      rw [handlePing]
      split <;> rfl
  | cursor msg =>
      obtain ⟨registry, h⟩ := handlePresence_eq server ctx (.cursor msg)
      show (handlePresence ctx (.cursor msg) server).auditLog = _
      rw [h]
  | scroll msg =>
      obtain ⟨registry, h⟩ := handlePresence_eq server ctx (.scroll msg)
      show (handlePresence ctx (.scroll msg) server).auditLog = _
      rw [h]
  | ack msg => rfl

end Server

namespace Server

variable {cfg : Config} {server : Server} {stamped : Stamped} {socket : SocketId}
  {frame : RawFrame} {ctx : ConnectionContext} {pid : ParticipantId}

/-- An accepted frame is of its own connection and names the participant it
acts for. -/
theorem received_own (he : stamped.event = .message socket frame)
    (hl : server.liveContext socket = some ctx) (acts : ActsFor ctx frame pid)
    {found : ConnectionContext} {msg : InboundMessage}
    (h : server.received stamped = some (found, msg)) : found = ctx ∧ msg.pid = pid := by
  obtain ⟨other, sent, hs, hf, hj⟩ := received_eq_some h
  cases he.symm.trans hs
  obtain rfl := Option.some.inj (hl.symm.trans hf)
  obtain ⟨decoded, _, identified, _⟩ := judge_accepted hj
  refine ⟨rfl, ?_⟩
  rcases acts with known | ⟨_, hello, hd, rfl⟩
  · exact identified pid known
  · obtain rfl := Except.ok.inj (decoded.symm.trans hd)
    rfl

theorem action_within (he : stamped.event = .message socket frame)
    (hl : server.liveContext socket = some ctx) (acts : ActsFor ctx frame pid) :
    (server.action stamped).Within ctx pid := by
  rw [action, he]
  dsimp only
  cases hr : server.received stamped with
  | none => trivial
  | some pair =>
      obtain ⟨found, msg⟩ := pair
      obtain ⟨rfl, rfl⟩ := received_own he hl acts hr
      exact Action.ofMessage_within found msg

/-- Only an accepted audit frame writes to the log. -/
theorem frame_auditLog (he : stamped.event = .message socket frame)
    (hl : server.liveContext socket = some ctx) :
    (server.step cfg stamped).auditLog =
      match server.received stamped with
      | some (_, .audit msg) =>
        (server.auditLog.record (auditEntry msg ctx.sid stamped.time)).1
      | _ => server.auditLog := by
  cases hr : server.received stamped with
  | none =>
      rcases step_of_rejected cfg he hl hr with ⟨code, detail, hs⟩ | hs
      · rw [hs]
        rw [sendError]
        split <;> rfl
      · rw [hs]
        rfl
  | some pair =>
      obtain ⟨found, msg⟩ := pair
      obtain ⟨other, sent, hs, hf, hj⟩ := received_eq_some hr
      cases he.symm.trans hs
      obtain rfl := Option.some.inj (hl.symm.trans hf)
      obtain ⟨_, _, _, guarded, same, hs⟩ := step_of_received cfg hr
      rw [hs, dispatch_auditLog, identity_sid same]
      cases msg <;> rfl

theorem frame_confined (wf : server.WellFormed) (he : stamped.event = .message socket frame)
    (hl : server.liveContext socket = some ctx) (acts : ActsFor ctx frame pid)
    (own : ∀ msg, server.received stamped = some (ctx, .audit msg) →
      OwnId server.auditLog (auditEntry msg ctx.sid stamped.time)) :
    server.Confined (server.step cfg stamped) ctx pid := by
  have effect := step_effect cfg server stamped
  have within := action_within he hl acts
  have live := (live_of_liveContext hl).1
  refine ⟨?_, ?_, ?_, ?_⟩
  · intro known hk
    have same : known = pid := by
      rcases acts with h | ⟨h, _⟩
      · exact Option.some.inj (hk.symm.trans h)
      · rw [hk] at h
        cases h
    subst same
    have kept := within.onIdentity stamped.time hk
    have found : server.identity? ctx.socket = some ctx.identity := by
      rw [identity?, live.1, Option.map_some]
    rw [← found, ← effect.identity?, identity?, Option.bind_map] at kept
    exact kept
  · intro sid other another
    rw [effect.entryOf wf, within.onEntry _ _ another]
  · intro other another
    have noSweep : server.action stamped ≠ .reap := by
      intro swept
      rw [swept] at within
      exact within
    rw [effect.registration noSweep, within.onRegistration another]
  · intro record another
    rw [frame_auditLog he hl]
    split
    · next found msg hr =>
        obtain ⟨rfl, rfl⟩ := received_own he hl acts hr
        exact AuditLog.mem_record_iff (own msg hr) another
    · exact Iff.rfl

/-- A frame touches only what is its own participant's, and its report is filed
under its own name, exactly when no record of another session, participant or
kind is stored under the event id of the report it carries. -/
theorem frame_confined_iff (cfg : Config) (events : List Stamped) (stamped : Stamped)
    (socket : SocketId) (frame : RawFrame) (ctx : ConnectionContext) (pid : ParticipantId)
    (he : stamped.event = .message socket frame)
    (hl : (initial.run cfg events).liveContext socket = some ctx)
    (acts : ActsFor ctx frame pid) :
    ((initial.run cfg events).Confined ((initial.run cfg events).step cfg stamped) ctx pid ∧
      ∀ msg, (initial.run cfg events).received stamped = some (ctx, .audit msg) →
        (initial.run cfg events).Filed ((initial.run cfg events).step cfg stamped)
          (auditEntry msg ctx.sid stamped.time)) ↔
    ∀ msg, (initial.run cfg events).received stamped = some (ctx, .audit msg) →
      OwnId (initial.run cfg events).auditLog (auditEntry msg ctx.sid stamped.time) := by
  have filed : ∀ msg, (initial.run cfg events).received stamped = some (ctx, .audit msg) →
      ((initial.run cfg events).Filed ((initial.run cfg events).step cfg stamped)
        (auditEntry msg ctx.sid stamped.time) ↔
      OwnId (initial.run cfg events).auditLog (auditEntry msg ctx.sid stamped.time)) := by
    intro msg hr
    rw [Filed, frame_auditLog he hl, hr]
    exact filed_record_iff _
  constructor
  · intro ⟨_, stored⟩ msg hr
    exact (filed msg hr).mp (stored msg hr)
  · intro own
    exact ⟨frame_confined (run_wellFormed cfg initial_wellFormed events) he hl acts own,
      fun msg hr => (filed msg hr).mpr (own msg hr)⟩

open Scenario

/-- Two participants; the first has reported the start of its session. -/
def reportedStart : List Stamped :=
  arrival 0 1 session alice 1 ++ arrival 0 2 session bob 1 ++
    [⟨5, .message 1 (startFrame session alice 2 5 ⟨"e", nonempty_e⟩)⟩]

/-- The second reports its own start under the id the first has used. -/
def borrowedId : Stamped := ⟨9, .message 2 (startFrame session bob 2 9 ⟨"e", nonempty_e⟩)⟩

def bobContext : ConnectionContext :=
  { socket := 2, sid := session, pid := some bob, sequenceGuard := { lastSeen := some 1 }
    connectedAt := 0 }

def aliceStart : AuditRecord :=
  { eventId := ⟨"e", nonempty_e⟩, sid := session, pid := alice, kind := .sessionStart
    source := .client, recordedAt := 5, reports := [{ source := .client, recordedAt := 5 }] }

theorem borrowedId_found :
    (initial.run (config 100) reportedStart).liveContext 2 = some bobContext := by
  decide

def bobStart : AuditMessage :=
  { envelope session bob 2 9 with eventId := ⟨"e", nonempty_e⟩, body := .sessionStart }

/-- The other participant's record is changed, and none is filed for this one. -/
theorem borrowedId_unconfined :
    (initial.run (config 100) reportedStart).received borrowedId =
        some (bobContext, .audit bobStart) ∧
      ¬(initial.run (config 100) reportedStart).Confined
        ((initial.run (config 100) reportedStart).step (config 100) borrowedId) bobContext bob ∧
      ¬(initial.run (config 100) reportedStart).Filed
        ((initial.run (config 100) reportedStart).step (config 100) borrowedId)
        (auditEntry bobStart session 9) := by
  refine ⟨by decide, ?_, ?_⟩
  · intro confined
    have kept := confined.records aliceStart (by decide)
    have before : aliceStart ∈ (initial.run (config 100) reportedStart).auditLog.all := by decide
    have gone : aliceStart ∉ ((initial.run (config 100) reportedStart).step (config 100)
        borrowedId).auditLog.all := by decide
    exact gone (kept.mpr before)
  · rw [Filed]
    decide

/-- A start reported under a fresh id stays with its own participant. -/
theorem frame_confined_iff_fresh :
    (initial.run (config 100) reportedStart).Confined
        ((initial.run (config 100) reportedStart).step (config 100)
          ⟨9, .message 2 (startFrame session bob 2 9 ⟨"f", by decide⟩)⟩) bobContext bob := by
  have exact_when := frame_confined_iff (config 100) reportedStart
    ⟨9, .message 2 (startFrame session bob 2 9 ⟨"f", by decide⟩)⟩ 2 _ bobContext bob rfl
    borrowedId_found (Or.inl rfl)
  apply (exact_when.mpr _).1
  intro msg hr stored hs
  have sent : (initial.run (config 100) reportedStart).received
      ⟨9, .message 2 (startFrame session bob 2 9 ⟨"f", by decide⟩)⟩ =
        some (bobContext, .audit { bobStart with eventId := ⟨"f", by decide⟩ }) := by decide
  have free : (initial.run (config 100) reportedStart).auditLog.get ⟨"f", by decide⟩ = none := by
    decide
  cases sent.symm.trans hr
  cases free.symm.trans hs

end Server

end Copresence
