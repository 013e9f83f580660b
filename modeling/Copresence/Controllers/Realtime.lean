import Copresence.Server.State

/-! The realtime controllers. Each takes the connection's context and message
and acts on the services; `now` is the clock during the call. -/
namespace Copresence

open Collections

/-- The announcement a session gets for a departure. -/
def leaveMessage (sid : SessionId) (pid : ParticipantId) (now : Int) : OutboundMessage :=
  .leave { sid, seq := 0, ts := now, pid }

/-- The announcement for an arrival; it carries no coordinates. -/
def joinMessage (sid : SessionId) (participant : Participant) (now : Int) : OutboundMessage :=
  .join
    { sid, seq := 0, ts := now
      participant :=
        { pid := participant.pid, color := participant.color,
          lastSeenAt := participant.lastSeenAt } }

/-- Registers or re-registers the participant, answers with `welcome`, and
announces a genuinely new one to the others. -/
def handleHello (now : Int) (ctx : ConnectionContext) (msg : HelloMessage) (server : Server) :
    Server :=
  let (session, created) := server.registry.getOrCreate ctx.sid now
  let wasAlreadyPresent := session.participants.has msg.pid
  let next := (applyEvent session (.hello msg)).state
  let registered :=
    { server.setContext { ctx with pid := some msg.pid } with
      registry := created.save next
      hub := server.hub.register { pid := msg.pid, sid := ctx.sid, socket := ctx.socket } }
  let welcomed := registered.sendTo msg.pid (.welcome (toWelcome next msg.pid 0 now))
  if wasAlreadyPresent then welcomed
  else
    match next.participants.get? msg.pid with
    | none => welcomed
    | some participant =>
      welcomed.broadcastToSession ctx.sid (joinMessage ctx.sid participant now) (some msg.pid)

/-- Shared by both ways a connection ends. -/
def removeFromSession (now : Int) (ctx : ConnectionContext) (pid : ParticipantId)
    (server : Server) : Server :=
  let unregistered := { server with hub := server.hub.unregister pid }
  match server.registry.get ctx.sid with
  | none => unregistered
  | some session =>
    if session.participants.has pid then
      Server.broadcastToSession
        { unregistered with registry := server.registry.save (removeParticipant session pid) }
        ctx.sid (leaveMessage ctx.sid pid now) (some pid)
    else unregistered

def handleBye (now : Int) (ctx : ConnectionContext) (msg : ByeMessage) (server : Server) :
    Server :=
  removeFromSession now ctx msg.pid (server.setContext { ctx with leftExplicitly := true })

def handlePing (now : Int) (ctx : ConnectionContext) (msg : PingMessage) (server : Server) :
    Server :=
  match ctx.pid with
  | none => server
  | some pid =>
    server.sendTo pid (.pong { sid := ctx.sid, seq := 0, ts := now, pingTs := msg.ts })

/-- What the server notes when it observes a close it was not told of. -/
def socketEnd (ctx : ConnectionContext) (pid : ParticipantId) (now : Int) (eventId : EventId) :
    AuditRecordInput :=
  { eventId, sid := ctx.sid, pid, kind := .sessionEnd, source := .socket, recordedAt := now
    detail := some { reason := "connection closed without bye" } }

/-- The raw 'close' event, whether or not `bye` was ever received. -/
def handleDisconnect (cfg : Config) (now : Int) (ctx : ConnectionContext) (server : Server) :
    Server :=
  match ctx.pid with
  | none => server
  | some pid =>
    removeFromSession now ctx pid
      (if ctx.leftExplicitly then server else server.recordGenerated cfg (socketEnd ctx pid now))

/-- Cursor and scroll ingest: fold the event into the session and save. -/
def handlePresence (ctx : ConnectionContext) (event : SessionEvent) (server : Server) : Server :=
  match server.registry.get ctx.sid with
  | none => server
  | some session =>
    { server with registry := server.registry.save (applyEvent session event).state }

def handleCursor (ctx : ConnectionContext) (msg : CursorMessage) (server : Server) : Server :=
  handlePresence ctx (.cursor msg) server

def handleScroll (ctx : ConnectionContext) (msg : ScrollMessage) (server : Server) : Server :=
  handlePresence ctx (.scroll msg) server

/-- The reason a `session.end` carries into the record's detail. -/
def AuditBody.detail : AuditBody → Option AuditDetail
  | .sessionEnd reason => some { reason := reason.text }
  | _ => none

def auditEntry (msg : AuditMessage) (sid : SessionId) (now : Int) : AuditRecordInput :=
  { eventId := msg.eventId, sid, pid := msg.pid, kind := msg.body.kind, source := .client
    recordedAt := now, detail := msg.body.detail }

def recordAuditMessage (now : Int) (msg : AuditMessage) (sid : SessionId) (server : Server) :
    Server :=
  server.record (auditEntry msg sid now)

/-- Always acknowledged, including for a duplicate. -/
def handleAuditMessage (now : Int) (ctx : ConnectionContext) (msg : AuditMessage)
    (server : Server) : Server :=
  (recordAuditMessage now msg ctx.sid server).sendTo msg.pid
    (.auditAck { sid := ctx.sid, seq := 0, ts := now, eventId := msg.eventId })

inductive BeaconStatus where
  | ok (eventId : EventId)
  | decodeFailed (error : DecodeError)
  | notAudit
deriving DecidableEq, Repr

/-- `POST /audit/beacon`: the HTTP response is the acknowledgement. -/
def beacon (now : Int) (frame : RawFrame) (server : Server) : Server × BeaconStatus :=
  match decodeInbound frame with
  | .error error => (server, .decodeFailed error)
  | .ok (.audit msg) => (recordAuditMessage now msg msg.sid server, .ok msg.eventId)
  | .ok _ => (server, .notAudit)

end Copresence
