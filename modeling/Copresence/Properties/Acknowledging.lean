import Copresence.Server.Audits

/-! Audit reports on a live socket: which of them the log takes, and which are
acknowledged on the socket they came on. -/
namespace Copresence

def OutboundMessage.Acknowledges (eventId : EventId) : OutboundMessage → Prop
  | .auditAck ack => ack.eventId = eventId
  | _ => False

instance (eventId : EventId) : (message : OutboundMessage) → Decidable (message.Acknowledges eventId)
  | .auditAck ack => inferInstanceAs (Decidable (ack.eventId = eventId))
  | .welcome _ | .join _ | .leave _ | .patch _ | .snapshot _ | .pong _ | .error _ =>
    inferInstanceAs (Decidable False)

namespace Server

/-- An audit frame that decodes comes on an open connection of its participant. -/
structure AuditArrives (server : Server) (stamped : Stamped) (ctx : ConnectionContext)
    (msg : AuditMessage) : Prop where
  frame : ∃ frame, stamped.event = .message ctx.socket frame ∧
    decodeInbound frame = .ok (.audit msg)
  found : server.liveContext ctx.socket = some ctx
  isOpen : server.isOpen ctx.socket = true
  own : ctx.pid = some msg.pid

/-- The log has a report of this event, by this participant of this session. -/
def Reports (server : Server) (sid : SessionId) (msg : AuditMessage) : Prop :=
  ∃ entry ∈ server.recorded, (entry.eventId = msg.eventId ∧ entry.kind = msg.body.kind ∧
    entry.sid = sid ∧ entry.pid = msg.pid) ∧ server.auditLog.Holds entry

/-- One of these writes is an acknowledgement of the event to this socket. -/
def Acks (writes : List Write) (socket : SocketId) (eventId : EventId) : Prop :=
  ∃ write ∈ writes, write.socket = socket ∧ write.message.Acknowledges eventId

instance (writes : List Write) (socket : SocketId) (eventId : EventId) :
    Decidable (Acks writes socket eventId) :=
  inferInstanceAs (Decidable (∃ write ∈ writes, _))

/-- The hub reaches the participant over this socket. -/
def RegisteredAt (server : Server) (pid : ParticipantId) (socket : SocketId) : Prop :=
  ∃ connection, server.hub.registration pid = some connection ∧ connection.socket = socket

theorem acks_append {first second : List Write} {socket : SocketId} {eventId : EventId} :
    Acks (first ++ second) socket eventId ↔
      Acks first socket eventId ∨ Acks second socket eventId := by
  simp only [Acks, List.mem_append, or_and_right, exists_or]

section Arrival

variable {cfg : Config} {server : Server} {stamped : Stamped} {ctx : ConnectionContext}
  {msg : AuditMessage}

/-- Such a frame is left to the connection's guard. -/
theorem AuditArrives.judge (arrives : server.AuditArrives stamped ctx msg) :
    ∃ frame, stamped.event = .message ctx.socket frame ∧
      afterGuard ctx frame = { ctx with sequenceGuard := (ctx.sequenceGuard.accept msg.seq).1 } ∧
      judge ctx frame =
        if (ctx.sequenceGuard.accept msg.seq).2 then .accepted (.audit msg) else .unordered := by
  obtain ⟨frame, he, hd⟩ := arrives.frame
  have same : (InboundMessage.audit msg).pid = msg.pid := rfl
  refine ⟨frame, he, ?_, ?_⟩
  · simp [afterGuard, hd, arrives.own, same]
    rfl
  · simp [Copresence.judge, hd, arrives.own, same]
    rfl

/-- A number that is not newer makes the step do nothing to log and sockets. -/
theorem AuditArrives.step_refused (arrives : server.AuditArrives stamped ctx msg)
    (stale : ¬ctx.sequenceGuard.Newer msg.seq) :
    server.step cfg stamped =
      server.setContext { ctx with sequenceGuard := (ctx.sequenceGuard.accept msg.seq).1 } := by
  obtain ⟨frame, he, hg, hj⟩ := arrives.judge
  rw [if_neg (mt (ctx.sequenceGuard.accept_snd _).mp stale)] at hj
  rw [step, he]
  dsimp only
  rw [message, arrives.found]
  dsimp only
  rw [handleRealtimeMessage, hj, hg]

theorem AuditArrives.step_accepted (arrives : server.AuditArrives stamped ctx msg)
    (newer : ctx.sequenceGuard.Newer msg.seq) :
    server.step cfg stamped =
      handleAuditMessage stamped.time
        { ctx with sequenceGuard := (ctx.sequenceGuard.accept msg.seq).1 } msg
        (server.setContext { ctx with sequenceGuard := (ctx.sequenceGuard.accept msg.seq).1 }) := by
  obtain ⟨frame, he, hg, hj⟩ := arrives.judge
  rw [if_pos ((ctx.sequenceGuard.accept_snd _).mpr newer)] at hj
  rw [step, he]
  dsimp only
  rw [message, arrives.found]
  dsimp only
  rw [handleRealtimeMessage, hj, hg]
  rfl

theorem AuditArrives.written_refused (arrives : server.AuditArrives stamped ctx msg)
    (stale : ¬ctx.sequenceGuard.Newer msg.seq) : server.written cfg stamped = [] := by
  rw [written, arrives.step_refused stale]
  exact List.drop_length

/-- The acknowledgement goes where the hub has the participant, which need not
be the socket the report came on. -/
theorem AuditArrives.written_accepted (arrives : server.AuditArrives stamped ctx msg)
    (newer : ctx.sequenceGuard.Newer msg.seq) :
    server.written cfg stamped =
      server.hub.sendTo server.isOpen msg.pid
        (.auditAck { sid := ctx.sid, seq := 0, ts := stamped.time, eventId := msg.eventId }) := by
  rw [written, arrives.step_accepted newer]
  exact List.drop_left

theorem AuditArrives.acks_written_iff (arrives : server.AuditArrives stamped ctx msg) :
    Acks (server.written cfg stamped) ctx.socket msg.eventId ↔
      ctx.sequenceGuard.Newer msg.seq ∧ server.RegisteredAt msg.pid ctx.socket := by
  by_cases newer : ctx.sequenceGuard.Newer msg.seq
  · rw [arrives.written_accepted newer]
    constructor
    · intro ⟨write, hw, here, _⟩
      obtain ⟨connection, hc, _, rfl⟩ := BroadcastHub.mem_sendTo.mp hw
      exact ⟨newer, connection, hc, here⟩
    · intro ⟨_, connection, hc, here⟩
      have reached : server.isOpen connection.socket = true := by
        rw [here]
        exact arrives.isOpen
      exact ⟨_, BroadcastHub.mem_sendTo.mpr ⟨connection, hc, reached, rfl⟩, here, rfl⟩
  · rw [arrives.written_refused newer]
    simp [Acks, newer]

theorem Reports.step {sid : SessionId} (reports : server.Reports sid msg) :
    (server.step cfg stamped).Reports sid msg := by
  obtain ⟨entry, hm, same, held⟩ := reports
  have audits := step_audits cfg server stamped
  obtain ⟨added, hAdded, _⟩ := audits.recorded
  refine ⟨entry, ?_, same, audits.holds held⟩
  rw [hAdded]
  exact List.mem_append_left _ hm

/-- What the guard lets through is in the log afterwards, first report or not. -/
theorem AuditArrives.reports_iff (arrives : server.AuditArrives stamped ctx msg) :
    (server.step cfg stamped).Reports ctx.sid msg ↔
      ctx.sequenceGuard.Newer msg.seq ∨ server.Reports ctx.sid msg := by
  constructor
  · intro reports
    by_cases newer : ctx.sequenceGuard.Newer msg.seq
    · exact Or.inl newer
    · rw [arrives.step_refused newer] at reports
      exact Or.inr reports
  · intro h
    rcases h with newer | reports
    · rw [arrives.step_accepted newer]
      refine ⟨auditEntry msg ctx.sid stamped.time, ?_, ⟨rfl, rfl, rfl, rfl⟩, ?_⟩
      · exact List.mem_append_right _ (List.mem_singleton_self _)
      · exact AuditLog.record_holds server.auditLog (auditEntry msg ctx.sid stamped.time)
    · exact reports.step

end Arrival

/-- A report that arrives is recorded and acknowledged on its socket exactly
when the connection's guard takes its number and the hub still has the
participant on that socket. Counting what the socket was sent before, a report
may instead have been acknowledged and recorded already. -/
theorem report_acknowledged_iff (cfg : Config) (events : List Stamped) (stamped : Stamped)
    (ctx : ConnectionContext) (msg : AuditMessage)
    (arrives : (initial.run cfg events).AuditArrives stamped ctx msg) :
    (((initial.run cfg events).step cfg stamped).Reports ctx.sid msg ∧
        Acks ((initial.run cfg events).written cfg stamped) ctx.socket msg.eventId ↔
      ctx.sequenceGuard.Newer msg.seq ∧
        (initial.run cfg events).RegisteredAt msg.pid ctx.socket) ∧
    (((initial.run cfg events).step cfg stamped).Reports ctx.sid msg ∧
        Acks ((initial.run cfg events).step cfg stamped).outbound ctx.socket msg.eventId ↔
      ctx.sequenceGuard.Newer msg.seq ∧
          (initial.run cfg events).RegisteredAt msg.pid ctx.socket ∨
        (ctx.sequenceGuard.Newer msg.seq ∨ (initial.run cfg events).Reports ctx.sid msg) ∧
          Acks (initial.run cfg events).outbound ctx.socket msg.eventId) := by
  rw [outbound_step, acks_append, arrives.reports_iff, arrives.acks_written_iff]
  tauto

open Scenario

/-- A participant reaped while its socket stays open. -/
def reapedOpen : List Stamped := arrival 0 1 session alice 1 ++ [⟨150, .reap⟩]

def report : AuditMessage :=
  { envelope session alice 2 151 with eventId := ⟨"e", nonempty_e⟩, body := .sessionStart }

/-- The connection as the reaper leaves it. -/
def reapedContext : ConnectionContext :=
  { socket := 1, sid := session, pid := some alice, sequenceGuard := { lastSeen := some 1 }
    connectedAt := 0 }

theorem reapedOpen_arrives :
    (initial.run (config 100) reapedOpen).AuditArrives ⟨151, .message 1 (.parsed (.audit report))⟩
      reapedContext report where
  frame := ⟨_, rfl, by decide⟩
  found := by decide
  isOpen := by decide
  own := rfl

/-- The report is taken, and neither it nor its resend, after a hello that has
brought the participant back, is ever acknowledged. -/
theorem reapedOpen_unacknowledged :
    (initial.run (config 100) reapedOpen).AuditArrives ⟨151, .message 1 (.parsed (.audit report))⟩
        reapedContext report ∧
      ¬Acks ((initial.run (config 100) reapedOpen).step (config 100)
        ⟨151, .message 1 (.parsed (.audit report))⟩).outbound 1 report.eventId ∧
      ¬Acks ((initial.run (config 100) (reapedOpen ++
        [⟨151, .message 1 (.parsed (.audit report))⟩, ⟨160, .message 1 (helloFrame session alice 3 160)⟩,
          ⟨170, .message 1 (.parsed (.audit report))⟩])).outbound) 1 report.eventId :=
  ⟨reapedOpen_arrives, by decide, by decide⟩

theorem report_acknowledged_iff_reapedOpen :
    ¬(((initial.run (config 100) reapedOpen).step (config 100)
          ⟨151, .message 1 (.parsed (.audit report))⟩).Reports session report ∧
        Acks ((initial.run (config 100) reapedOpen).written (config 100)
          ⟨151, .message 1 (.parsed (.audit report))⟩) 1 report.eventId) := by
  have exact_when := (report_acknowledged_iff (config 100) reapedOpen _ reapedContext report
    reapedOpen_arrives).1
  have gone : (initial.run (config 100) reapedOpen).hub.registration report.pid = none := by decide
  intro acknowledged
  obtain ⟨_, connection, registered, _⟩ := exact_when.mp acknowledged
  rw [gone] at registered
  cases registered

end Server

end Copresence
