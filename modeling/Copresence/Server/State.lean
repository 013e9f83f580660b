import Copresence.Models.SequenceGuard
import Copresence.Services.AuditLog
import Copresence.Services.TickScheduler
import Mathlib.Logic.Function.Basic

/-! The state of one server process: the services the composition root builds
once, and one context and one socket for each accepted connection. -/
namespace Copresence

/-- What the composition root fixes. `generateId` gives the id of each call
in turn. -/
structure Config where
  ttlMs : Int
  generateId : Nat → EventId

/-- `closed` is reached when the 'close' event has been handled; a socket may
stop being open before that. -/
inductive ReadyState where
  | open
  | closing
  | closed
deriving DecidableEq, Repr

/-- One per connection; `pid` is unset until `hello` is processed. -/
structure ConnectionContext where
  socket : SocketId
  sid : SessionId
  pid : Option ParticipantId := none
  sequenceGuard : SequenceGuard := {}
  connectedAt : Int
  leftExplicitly : Bool := false
deriving DecidableEq

def createConnectionContext (socket : SocketId) (sid : SessionId) (now : Int) :
    ConnectionContext :=
  { socket, sid, connectedAt := now }

/-- `outbound` lists every message handed to a socket so far and `recorded`
every entry handed to the audit log, both in order; `generated` counts the
ids drawn. Each context is stored under its own socket. -/
structure Server where
  registry : SessionRegistry
  hub : BroadcastHub
  auditLog : AuditLog
  scheduler : TickScheduler
  contexts : SocketId → Option ConnectionContext
  readyState : SocketId → ReadyState
  generated : Nat
  outbound : List Write
  recorded : List AuditRecordInput
  keyed : ∀ socket ctx, contexts socket = some ctx → ctx.socket = socket

namespace Server

def initial : Server where
  registry := SessionRegistry.empty
  hub := BroadcastHub.empty
  auditLog := AuditLog.empty
  scheduler := {}
  contexts := fun _ => none
  readyState := fun _ => .closed
  generated := 0
  outbound := []
  recorded := []
  keyed := by simp

def isOpen (server : Server) (socket : SocketId) : Bool := server.readyState socket = .open

def setContext (server : Server) (ctx : ConnectionContext) : Server :=
  { server with
    contexts := Function.update server.contexts ctx.socket (some ctx)
    keyed := by
      intro socket stored h
      rw [Function.update_apply] at h
      split at h
      · next he => rw [← Option.some.inj h, he]
      · exact server.keyed socket stored h }

/-- Append writes to the sockets' history. -/
def emit (server : Server) (writes : List Write) : Server :=
  { server with outbound := server.outbound ++ writes }

def sendTo (server : Server) (pid : ParticipantId) (message : OutboundMessage) : Server :=
  server.emit (server.hub.sendTo server.isOpen pid message)

def broadcastToSession (server : Server) (sid : SessionId) (message : OutboundMessage)
    (exclude : Option ParticipantId) : Server :=
  server.emit (server.hub.broadcastToSession server.isOpen sid message exclude)

def record (server : Server) (entry : AuditRecordInput) : Server :=
  { server with
    auditLog := (server.auditLog.record entry).1
    recorded := server.recorded ++ [entry] }

/-- Record an entry under the next generated id. -/
def recordGenerated (server : Server) (cfg : Config) (entry : EventId → AuditRecordInput) :
    Server :=
  { server.record (entry (cfg.generateId server.generated)) with
    generated := server.generated + 1 }

/-- The session rosters seen through the registry. -/
def entryOf (server : Server) (sid : SessionId) (pid : ParticipantId) : Option Entry :=
  server.registry.entryOf sid pid

def participant? (server : Server) (sid : SessionId) (pid : ParticipantId) : Option Participant :=
  server.registry.participant? sid pid

def InRoster (server : Server) (sid : SessionId) (pid : ParticipantId) : Prop :=
  (server.entryOf sid pid).isSome

/-- A participant is looked up by way of its entry. -/
theorem participant?_eq (server : Server) (sid : SessionId) (pid : ParticipantId) :
    server.participant? sid pid = (server.entryOf sid pid).map Entry.participant :=
  server.registry.participant?_eq sid pid

instance (server : Server) (sid : SessionId) (pid : ParticipantId) :
    Decidable (server.InRoster sid pid) := by
  rw [InRoster]
  infer_instance

@[simp] theorem emit_registry (server : Server) (writes : List Write) :
    (server.emit writes).registry = server.registry := rfl

/-- Writing a context replaces that of its socket and no other. -/
@[simp] theorem setContext_contexts (server : Server) (ctx : ConnectionContext)
    (socket : SocketId) :
    (server.setContext ctx).contexts socket =
      if socket = ctx.socket then some ctx else server.contexts socket :=
  Function.update_apply _ _ _ _

end Server

end Copresence
