import Copresence.Lib.Run
import Copresence.Protocol.Schemas
import Copresence.Server.RealtimeRouter

/-! Runs of one server process: what the outside world and the timers can do
to it, and the history of frames the router accepted. -/
namespace Copresence

/-- Everything a server reacts to. `closing` is a socket that stops being open
before its 'close' event is handled by `close`. -/
inductive ServerEvent where
  | connect (socket : SocketId) (sid : SessionId)
  | message (socket : SocketId) (frame : RawFrame)
  | closing (socket : SocketId)
  | close (socket : SocketId)
  | tick
  | reap
  | reconcile
  | beacon (frame : RawFrame)
deriving DecidableEq

/-- An event and the server clock when it is handled. -/
structure Stamped where
  time : Int
  event : ServerEvent
deriving DecidableEq

namespace Server

def setReadyState (server : Server) (socket : SocketId) (state : ReadyState) : Server :=
  { server with readyState := Function.update server.readyState socket state }

/-- The 'connection' handler; a socket id is taken once. -/
def connect (now : Int) (socket : SocketId) (sid : SessionId) (server : Server) : Server :=
  match server.contexts socket with
  | some _ => server
  | none =>
    (server.setContext (createConnectionContext socket sid now)).setReadyState socket .open

/-- The context of a socket whose 'close' event has not been handled. -/
def liveContext (server : Server) (socket : SocketId) : Option ConnectionContext :=
  if server.readyState socket = .closed then none else server.contexts socket

def message (now : Int) (socket : SocketId) (frame : RawFrame) (server : Server) : Server :=
  match server.liveContext socket with
  | none => server
  | some ctx => handleRealtimeMessage now ctx frame server

def closing (socket : SocketId) (server : Server) : Server :=
  if server.isOpen socket then server.setReadyState socket .closing else server

def close (cfg : Config) (now : Int) (socket : SocketId) (server : Server) : Server :=
  match server.liveContext socket with
  | none => server
  | some ctx => handleDisconnect cfg now ctx (server.setReadyState socket .closed)

def tick (now : Int) (server : Server) : Server :=
  let (scheduler, registry, writes) :=
    server.scheduler.tick server.registry server.hub server.isOpen now
  { server with scheduler, registry, outbound := server.outbound ++ writes }

def step (cfg : Config) (server : Server) (stamped : Stamped) : Server :=
  match stamped.event with
  | .connect socket sid => server.connect stamped.time socket sid
  | .message socket frame => server.message stamped.time socket frame
  | .closing socket => server.closing socket
  | .close socket => server.close cfg stamped.time socket
  | .tick => server.tick stamped.time
  | .reap => Reaper.sweep cfg stamped.time server
  | .reconcile => AuditReconciler.sweep cfg stamped.time server
  | .beacon frame => (beacon stamped.time frame server).1

def run (cfg : Config) : Server → List Stamped → Server := Transition.run (step cfg)

end Server

/-- The frame this event makes the router pass on to a controller, and the
context it arrived on. -/
def Server.received (server : Server) (stamped : Stamped) :
    Option (ConnectionContext × InboundMessage) :=
  match stamped.event with
  | .message socket frame =>
    (server.liveContext socket).bind fun ctx =>
      match judge ctx frame with
      | .accepted msg => some (ctx, msg)
      | _ => none
  | _ => none

/-- A frame the router passed on to a controller. -/
structure Accepted where
  time : Int
  socket : SocketId
  sid : SessionId
  msg : InboundMessage
deriving DecidableEq

def acceptedFrame (server : Server) (stamped : Stamped) : Option Accepted :=
  (server.received stamped).map fun (ctx, msg) =>
    { time := stamped.time, socket := ctx.socket, sid := ctx.sid, msg }

/-- A server with the frames accepted so far, latest first. -/
structure Observed where
  server : Server
  accepted : List Accepted

namespace Observed

def initial : Observed := { server := Server.initial, accepted := [] }

def step (cfg : Config) (observed : Observed) (stamped : Stamped) : Observed where
  server := observed.server.step cfg stamped
  accepted := (acceptedFrame observed.server stamped).toList ++ observed.accepted

def run (cfg : Config) : Observed → List Stamped → Observed := Transition.run (step cfg)

/-- Watching does not disturb: the server part runs as it would unobserved. -/
theorem run_server (cfg : Config) (observed : Observed) (events : List Stamped) :
    (run cfg observed events).server = observed.server.run cfg events :=
  Transition.run_map (fun _ _ => rfl) observed events

end Observed

/-- The message this event hands to the server. -/
def ServerEvent.sent : ServerEvent → Option InboundMessage
  | .message _ (.parsed msg) | .beacon (.parsed msg) => some msg
  | _ => none

/-- A client can send this: the schemas let through what it writes of its message. -/
def Stamped.Sendable (stamped : Stamped) : Prop :=
  ∀ msg ∈ stamped.event.sent, Schema.InboundMessageSchema msg.toJson = .valid msg

instance (stamped : Stamped) : Decidable stamped.Sendable :=
  decidable_of_iff (∀ msg ∈ stamped.event.sent, msg.InRange)
    (forall₂_congr fun _ _ => Schema.inbound_toJson_iff.symm)

namespace Scenario

def session : SessionId := ⟨"s", nonempty_s⟩

def otherSession : SessionId := ⟨"t", nonempty_t⟩

def alice : ParticipantId := ⟨"a", nonempty_a⟩

def bob : ParticipantId := ⟨"b", nonempty_b⟩

/-- Every drawn id is a numeral behind a letter. -/
def freshId (drawn : Nat) : EventId :=
  ⟨"g" ++ toString drawn, by intro h; simpa using congrArg String.length h⟩

/-- Ids that their lengths tell apart. -/
def longerId (drawn : Nat) : EventId :=
  ⟨String.ofList (List.replicate (drawn + 1) 'g'), by
    intro h
    have letters := congrArg String.toList h
    simp at letters⟩

theorem longerId_toList (drawn : Nat) :
    (longerId drawn).value.toList = List.replicate (drawn + 1) 'g' := by
  rw [longerId, String.toList_ofList]

theorem longerId_injective : Function.Injective longerId := by
  intro drawn other same
  have letters := congrArg (fun eventId => eventId.value.toList.length) same
  simpa [longerId_toList] using letters

def config (ttlMs : Int) : Config := { ttlMs, generateId := freshId }

def envelope (sid : SessionId) (pid : ParticipantId) (seq ts : Int) : Envelope :=
  { v := protocolVersion, sid, pid, seq, ts }

def helloFrame (sid : SessionId) (pid : ParticipantId) (seq ts : Int) : RawFrame :=
  .parsed (.hello
    { envelope sid pid seq ts with
      docWidth := 1, docHeight := 1, dpr := 1, visibilityState := .visible })

def cursorFrame (sid : SessionId) (pid : ParticipantId) (seq ts : Int) (x y : ℚ) : RawFrame :=
  .parsed (.cursor { envelope sid pid seq ts with x, y })

/-- Of the numbers in a cursor frame, the schemas ask that each is in its range. -/
theorem sendable_cursorFrame {time : Int} {socket : SocketId} {sid : SessionId}
    {pid : ParticipantId} {seq ts : Int} {x y : ℚ} :
    Stamped.Sendable ⟨time, .message socket (cursorFrame sid pid seq ts x y)⟩ ↔
      (Countable seq ∧ Countable ts) ∧ (0 ≤ x ∧ x ≤ 1) ∧ 0 ≤ y := by
  have written : Stamped.Sendable ⟨time, .message socket (cursorFrame sid pid seq ts x y)⟩ ↔
      (InboundMessage.cursor { envelope sid pid seq ts with x, y }).InRange := by
    rw [← Schema.inbound_toJson_iff]
    simp [Stamped.Sendable, ServerEvent.sent, cursorFrame]
  rw [written]
  constructor
  · rintro ⟨inRange, own⟩
    exact ⟨⟨inRange.seq, inRange.ts⟩, own⟩
  · rintro ⟨⟨seqRange, tsRange⟩, own⟩
    have version : 0 < protocolVersion ∧ (protocolVersion : Int) ≤ maxSafeInteger := by decide
    exact ⟨⟨version, seqRange, tsRange⟩, own⟩

def startFrame (sid : SessionId) (pid : ParticipantId) (seq ts : Int) (eventId : EventId) :
    RawFrame :=
  .parsed (.audit { envelope sid pid seq ts with eventId, body := .sessionStart })

def helloEvent (pid : ParticipantId) (ts : Int) : SessionEvent :=
  .hello { envelope session pid 0 ts with
    docWidth := 1, docHeight := 1, dpr := 1, visibilityState := .visible }

def cursorEvent (pid : ParticipantId) (seq : Int) (x y : ℚ) : SessionEvent :=
  .cursor { envelope session pid seq 0 with x, y }

def scrollEvent (pid : ParticipantId) (seq : Int) (scrollX scrollY : ℚ) : SessionEvent :=
  .scroll { envelope session pid seq 0 with scrollX, scrollY }

def byeEvent (pid : ParticipantId) (seq : Int) : SessionEvent := .bye { envelope session pid seq 0 with }

/-- What a client reports under an id. -/
def clientEntry (sid : SessionId) (pid : ParticipantId) (drawn : Nat) (kind : AuditEventKind)
    (recordedAt : Int) : AuditRecordInput :=
  { eventId := freshId drawn, sid, pid, kind, source := .client, recordedAt }

/-- A connection opened at `time` and introduced by a hello. -/
def arrival (time : Int) (socket : SocketId) (sid : SessionId) (pid : ParticipantId)
    (seq : Int) : List Stamped :=
  [⟨time, .connect socket sid⟩, ⟨time, .message socket (helloFrame sid pid seq time)⟩]

end Scenario

end Copresence
