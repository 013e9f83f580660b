import Copresence.Server.SweepEffects

/-! One step of the server as one of nine actions on the rosters, the
registrations and the connections, and the equations of each action. -/
namespace Copresence

open Collections

/-- What a step amounts to. Rejected frames, `ping`, `ack`, audit reports and
the reconciler are `idle`: they move no roster, registration or connection. -/
inductive Action where
  | idle
  | connect (socket : SocketId) (sid : SessionId)
  | closing (socket : SocketId)
  | hello (ctx : ConnectionContext) (msg : HelloMessage)
  | presence (ctx : ConnectionContext) (event : SessionEvent)
  | bye (ctx : ConnectionContext) (pid : ParticipantId)
  | close (ctx : ConnectionContext)
  | tick
  | reap

def Action.ofMessage (ctx : ConnectionContext) : InboundMessage → Action
  | .hello msg => .hello ctx msg
  | .cursor msg => .presence ctx (.cursor msg)
  | .scroll msg => .presence ctx (.scroll msg)
  | .bye msg => .bye ctx msg.pid
  | .ack _ => .idle
  | .ping _ => .idle
  | .audit _ => .idle

/-- The timer behind an action, for the two that move rosters or scheduler. -/
def Action.timer : Action → Option ServerEvent
  | .tick => some .tick
  | .reap => some .reap
  | _ => none

/-- A context without its sequence guard. -/
def ConnectionContext.identity (ctx : ConnectionContext) : ConnectionContext :=
  { ctx with sequenceGuard := {} }

section Identity

variable {first second : ConnectionContext} (h : first.identity = second.identity)

include h

/-- The guard does not say which socket a context is of. -/
theorem identity_socket : first.socket = second.socket := by
  have hs := congrArg ConnectionContext.socket h
  exact hs

/-- The guard does not say which session a context is for. -/
theorem identity_sid : first.sid = second.sid := by
  have hs := congrArg ConnectionContext.sid h
  exact hs

end Identity

namespace Server

def action (server : Server) (stamped : Stamped) : Action :=
  match stamped.event with
  | .connect socket sid => if server.contexts socket = none then .connect socket sid else .idle
  | .message _ _ =>
    match server.received stamped with
    | none => .idle
    | some (ctx, msg) => .ofMessage ctx msg
  | .closing socket => if server.isOpen socket then .closing socket else .idle
  | .close socket =>
    match server.liveContext socket with
    | none => .idle
    | some ctx => .close ctx
  | .tick => .tick
  | .reap => .reap
  | .reconcile => .idle
  | .beacon _ => .idle

/-- A timer's action comes from that timer alone. -/
theorem event_of_timer {server : Server} {stamped : Stamped} {event : ServerEvent}
    (h : (server.action stamped).timer = some event) : stamped.event = event := by
  unfold action at h
  split at h
  · split at h <;> cases h
  · split at h
    · cases h
    · next msg _ => cases msg <;> cases h
  · split at h <;> cases h
  · split at h <;> cases h
  · next he => exact he.trans (Option.some.inj h)
  · next he => exact he.trans (Option.some.inj h)
  · cases h
  · cases h

/-- The reaper's action comes from its timer alone. -/
theorem action_eq_reap {server : Server} {stamped : Stamped} (h : server.action stamped = .reap) :
    stamped.event = .reap := by
  have timed : (server.action stamped).timer = some .reap := by rw [h]; rfl
  exact event_of_timer timed

/-- A tick is the action of its timer and of nothing else. -/
theorem action_eq_tick_iff {server : Server} {stamped : Stamped} :
    server.action stamped = .tick ↔ stamped.event = .tick := by
  constructor
  · intro h
    have timed : (server.action stamped).timer = some .tick := by rw [h]; rfl
    exact event_of_timer timed
  · intro h
    rw [action, h]

def identity? (server : Server) (socket : SocketId) : Option ConnectionContext :=
  (server.contexts socket).map ConnectionContext.identity

/-- The connection whose context this is has not been closed. -/
def Live (server : Server) (ctx : ConnectionContext) : Prop :=
  server.contexts ctx.socket = some ctx ∧ server.readyState ctx.socket ≠ .closed

/-- A context found live is that of its socket, which is not closed. -/
theorem live_of_liveContext {server : Server} {socket : SocketId} {ctx : ConnectionContext}
    (h : server.liveContext socket = some ctx) : server.Live ctx ∧ ctx.socket = socket := by
  unfold liveContext at h
  split at h
  · cases h
  · next hOpen =>
      obtain rfl := server.keyed socket ctx h
      exact ⟨⟨h, hOpen⟩, rfl⟩

/-- Messages that concern one connection only and no roster. -/
def IsReply (message : OutboundMessage) : Prop :=
  message.t = .pong ∨ message.t = .auditAck ∨ message.t = .error

/-- Nothing but sequence guards, audit records and replies moved. -/
structure Quiet (before after : Server) : Prop where
  registry : after.registry = before.registry
  hub : after.hub = before.hub
  scheduler : after.scheduler = before.scheduler
  readyState : after.readyState = before.readyState
  identity : after.identity? = before.identity?
  replies : ∃ writes, after.outbound = before.outbound ++ writes ∧
    ∀ write ∈ writes, IsReply write.message

/-- The state with the context a frame is dispatched with: the same
connection, its guard perhaps moved on. -/
theorem quiet_setContext {server : Server} {ctx guarded : ConnectionContext}
    (live : server.Live ctx) (same : guarded.identity = ctx.identity) :
    server.Quiet (server.setContext guarded) := by
  have hSocket := identity_socket same
  refine ⟨rfl, rfl, rfl, rfl, ?_, [], (List.append_nil _).symm, by simp⟩
  funext socket
  rw [identity?, setContext_contexts, hSocket]
  split
  · next hs => rw [identity?, hs, live.1, Option.map_some, Option.map_some, same]
  · rfl

theorem quiet_refl (server : Server) : server.Quiet server :=
  ⟨rfl, rfl, rfl, rfl, rfl, [], (List.append_nil _).symm, by simp⟩

/-- Writing replies is quiet. -/
theorem quiet_emit (server : Server) {writes : List Write}
    (replies : ∀ write ∈ writes, IsReply write.message) : server.Quiet (server.emit writes) :=
  ⟨rfl, rfl, rfl, rfl, rfl, writes, rfl, replies⟩

/-- A record is quiet. -/
theorem quiet_record (server : Server) (entry : AuditRecordInput) :
    server.Quiet (server.record entry) :=
  ⟨rfl, rfl, rfl, rfl, rfl, [], (List.append_nil _).symm, by simp⟩

/-- Two quiet steps are quiet together. -/
theorem Quiet.trans {first second third : Server} (h : first.Quiet second)
    (h' : second.Quiet third) : first.Quiet third := by
  refine ⟨h'.registry.trans h.registry, h'.hub.trans h.hub, h'.scheduler.trans h.scheduler,
    h'.readyState.trans h.readyState, h'.identity.trans h.identity, ?_⟩
  obtain ⟨early, hEarly, earlyReplies⟩ := h.replies
  obtain ⟨late, hLate, lateReplies⟩ := h'.replies
  refine ⟨early ++ late, by rw [hLate, hEarly, List.append_assoc], fun write hw => ?_⟩
  rcases List.mem_append.mp hw with hw | hw
  · exact earlyReplies write hw
  · exact lateReplies write hw

/-- What is sent to one participant is that message. -/
theorem message_of_mem_sendTo {hub : BroadcastHub} {isOpen : SocketId → Bool}
    {pid : ParticipantId} {message : OutboundMessage} {write : Write}
    (h : write ∈ hub.sendTo isOpen pid message) : write.message = message := by
  obtain ⟨connection, _, _, rfl⟩ := BroadcastHub.mem_sendTo.mp h
  rfl

/-- The effect of each action, with the facts the router checked on the way. -/
inductive Effect (cfg : Config) (server : Server) (now : Int) : Action → Server → Prop where
  | idle {after : Server} (quiet : server.Quiet after) : Effect cfg server now .idle after
  | connect {socket : SocketId} {sid : SessionId} (fresh : server.contexts socket = none) :
      Effect cfg server now (.connect socket sid)
        ((server.setContext (createConnectionContext socket sid now)).setReadyState socket .open)
  | closing {socket : SocketId} (wasOpen : server.isOpen socket = true) :
      Effect cfg server now (.closing socket) (server.setReadyState socket .closing)
  | hello {ctx guarded : ConnectionContext} {msg : HelloMessage} (live : server.Live ctx)
      (same : guarded.identity = ctx.identity)
      (identified : ∀ pid, ctx.pid = some pid → msg.pid = pid) :
      Effect cfg server now (.hello ctx msg)
        (handleHello now guarded msg (server.setContext guarded))
  | presence {ctx guarded : ConnectionContext} {event : SessionEvent} (live : server.Live ctx)
      (same : guarded.identity = ctx.identity) (isPresence : event.IsPresence)
      (identified : ctx.pid = some event.pid) :
      Effect cfg server now (.presence ctx event)
        (handlePresence guarded event (server.setContext guarded))
  | bye {ctx guarded : ConnectionContext} {pid : ParticipantId} (live : server.Live ctx)
      (same : guarded.identity = ctx.identity) (identified : ctx.pid = some pid) :
      Effect cfg server now (.bye ctx pid)
        (removeFromSession now guarded pid
          ((server.setContext guarded).setContext { guarded with leftExplicitly := true }))
  | close {ctx : ConnectionContext} (live : server.Live ctx) :
      Effect cfg server now (.close ctx)
        (handleDisconnect cfg now ctx (server.setReadyState ctx.socket .closed))
  | tick : Effect cfg server now .tick (server.tick now)
  | reap : Effect cfg server now .reap (Reaper.sweep cfg now server)

/-- A socket that connects had no context. -/
theorem Effect.fresh {cfg : Config} {server after : Server} {now : Int} {socket : SocketId}
    {sid : SessionId} (effect : Effect cfg server now (.connect socket sid) after) :
    server.contexts socket = none := by
  cases effect with
  | connect fresh => exact fresh

/-- What the server has received of an event is a frame accepted on a live connection. -/
theorem received_eq_some {server : Server} {stamped : Stamped} {ctx : ConnectionContext}
    {msg : InboundMessage} (h : server.received stamped = some (ctx, msg)) :
    ∃ socket frame, stamped.event = .message socket frame ∧
      server.liveContext socket = some ctx ∧ judge ctx frame = .accepted msg := by
  unfold received at h
  split at h
  · next socket frame he =>
      obtain ⟨found, hl, hj⟩ := Option.bind_eq_some_iff.mp h
      split at hj
      · next accepted ha =>
          cases hj
          exact ⟨socket, frame, he, hl, ha⟩
      · cases hj
  · cases h

/-- An accepted frame is dispatched on its own connection's context. -/
theorem step_of_received (cfg : Config) {server : Server} {stamped : Stamped}
    {ctx : ConnectionContext} {msg : InboundMessage}
    (h : server.received stamped = some (ctx, msg)) :
    server.Live ctx ∧ (ctx.pid = none → msg.isHello = true) ∧
      (∀ pid, ctx.pid = some pid → msg.pid = pid) ∧
      ∃ guarded, guarded.identity = ctx.identity ∧
        server.step cfg stamped = dispatch stamped.time guarded (server.setContext guarded) msg := by
  obtain ⟨socket, frame, he, hl, hj⟩ := received_eq_some h
  obtain ⟨_, hHello, hPid, _⟩ := judge_accepted hj
  obtain ⟨sequenceGuard, hg⟩ := afterGuard_cases ctx frame
  refine ⟨(live_of_liveContext hl).1, hHello, hPid, afterGuard ctx frame, by rw [hg]; rfl, ?_⟩
  rw [step, he]
  dsimp only
  rw [message, hl]
  dsimp only
  rw [handleRealtimeMessage, hj]

/-- A frame that is not accepted is answered with an error, or dropped. -/
theorem step_of_rejected (cfg : Config) {server : Server} {stamped : Stamped} {socket : SocketId}
    {frame : RawFrame} {ctx : ConnectionContext} (he : stamped.event = .message socket frame)
    (hl : server.liveContext socket = some ctx) (h : server.received stamped = none) :
    (∃ code detail, server.step cfg stamped = sendError stamped.time ctx code detail server) ∨
      server.step cfg stamped = server.setContext (afterGuard ctx frame) := by
  rw [received, he] at h
  dsimp only at h
  rw [hl, Option.bind_some] at h
  rw [step, he]
  dsimp only
  rw [message, hl]
  dsimp only
  rw [handleRealtimeMessage]
  cases hj : judge ctx frame with
  | refused code detail => exact Or.inl ⟨code, detail, rfl⟩
  | unordered => exact Or.inr rfl
  | accepted msg =>
      rw [hj] at h
      cases h

/-- A frame that is not accepted moves nothing but the guard. -/
theorem quiet_of_not_received {cfg : Config} {server : Server} {stamped : Stamped}
    {socket : SocketId} {frame : RawFrame} (he : stamped.event = .message socket frame)
    (h : server.received stamped = none) : server.Quiet (server.step cfg stamped) := by
  cases hl : server.liveContext socket with
  | none =>
      rw [step, he]
      dsimp only
      rw [message, hl]
      exact quiet_refl server
  | some ctx =>
      rcases step_of_rejected cfg he hl h with ⟨code, detail, hs⟩ | hs
      · rw [hs]
        rw [sendError]
        split
        · apply quiet_emit server
          intro write hw
          rw [List.mem_singleton.mp hw]
          exact Or.inr (Or.inr rfl)
        · exact quiet_refl server
      · rw [hs]
        obtain ⟨sequenceGuard, hg⟩ := afterGuard_cases ctx frame
        exact quiet_setContext (live_of_liveContext hl).1 (by rw [hg]; rfl)

/-- A socket that has a context already is not opened again. -/
theorem connect_effect (cfg : Config) (server : Server) (now : Int) (socket : SocketId)
    (sid : SessionId) :
    Effect cfg server now (server.action ⟨now, .connect socket sid⟩)
      (server.connect now socket sid) := by
  show Effect cfg server now (if server.contexts socket = none then .connect socket sid else .idle) _
  rw [Server.connect]
  cases found : server.contexts socket with
  | none =>
      rw [if_pos rfl]
      exact .connect found
  | some ctx =>
      rw [if_neg (Option.some_ne_none ctx)]
      exact .idle (quiet_refl server)

/-- A ping moves nothing but the guard, and is answered at most by a pong. -/
theorem quiet_handlePing {server : Server} {ctx guarded : ConnectionContext}
    (live : server.Live ctx) (same : guarded.identity = ctx.identity) (now : Int)
    (msg : PingMessage) :
    server.Quiet (handlePing now guarded msg (server.setContext guarded)) := by
  have quiet := quiet_setContext live same
  rw [handlePing]
  split
  · exact quiet
  · apply quiet.trans
    apply quiet_emit
    intro write hw
    rw [message_of_mem_sendTo hw]
    exact Or.inl rfl

/-- An audit report moves nothing but the guard and the log, and is answered at
most by its acknowledgement. -/
theorem quiet_handleAuditMessage {server : Server} {ctx guarded : ConnectionContext}
    (live : server.Live ctx) (same : guarded.identity = ctx.identity) (now : Int)
    (msg : AuditMessage) :
    server.Quiet (handleAuditMessage now guarded msg (server.setContext guarded)) := by
  apply (quiet_setContext live same).trans
  apply (quiet_record _ (auditEntry msg guarded.sid now)).trans
  apply quiet_emit
  intro write hw
  rw [message_of_mem_sendTo hw]
  exact Or.inr (Or.inl rfl)

/-- Dispatching a message the guard let through has the message's effect. -/
theorem dispatch_effect (cfg : Config) {server : Server} {ctx guarded : ConnectionContext}
    (live : server.Live ctx) (same : guarded.identity = ctx.identity) {msg : InboundMessage}
    (introduced : ctx.pid = none → msg.isHello = true)
    (identified : ∀ pid, ctx.pid = some pid → msg.pid = pid) (now : Int) :
    Effect cfg server now (.ofMessage ctx msg)
      (dispatch now guarded (server.setContext guarded) msg) := by
  have known : msg.isHello = false → ctx.pid = some msg.pid := by
    intro notHello
    cases hc : ctx.pid with
    | none =>
        rw [introduced hc] at notHello
        cases notHello
    | some pid => rw [identified pid hc]
  cases msg with
  | hello msg => exact .hello live same identified
  | cursor msg => exact .presence live same trivial (known rfl)
  | scroll msg => exact .presence live same trivial (known rfl)
  | bye msg => exact .bye live same (known rfl)
  | ack msg => exact .idle (quiet_setContext live same)
  | ping msg => exact .idle (quiet_handlePing live same now msg)
  | audit msg => exact .idle (quiet_handleAuditMessage live same now msg)

/-- A frame has the effect of the message it is accepted as. -/
theorem message_effect (cfg : Config) (server : Server) (now : Int) (socket : SocketId)
    (frame : RawFrame) :
    Effect cfg server now (server.action ⟨now, .message socket frame⟩)
      (server.step cfg ⟨now, .message socket frame⟩) := by
  rw [action]
  dsimp only
  cases accepted : server.received ⟨now, .message socket frame⟩ with
  | none => exact .idle (quiet_of_not_received rfl accepted)
  | some pair =>
      obtain ⟨ctx, msg⟩ := pair
      obtain ⟨live, introduced, identified, guarded, same, moved⟩ := step_of_received cfg accepted
      rw [moved]
      exact dispatch_effect cfg live same introduced identified now

/-- Only an open socket begins to close. -/
theorem closing_effect (cfg : Config) (server : Server) (now : Int) (socket : SocketId) :
    Effect cfg server now (server.action ⟨now, .closing socket⟩) (server.closing socket) := by
  show Effect cfg server now (if server.isOpen socket then .closing socket else .idle) _
  rw [Server.closing]
  split
  · next wasOpen => exact .closing wasOpen
  · exact .idle (quiet_refl server)

/-- A socket that is closed already, or was never opened, is not closed again. -/
theorem close_effect (cfg : Config) (server : Server) (now : Int) (socket : SocketId) :
    Effect cfg server now (server.action ⟨now, .close socket⟩) (server.close cfg now socket) := by
  rw [action, Server.close]
  dsimp only
  cases found : server.liveContext socket with
  | none => exact .idle (quiet_refl server)
  | some ctx =>
      obtain ⟨live, rfl⟩ := live_of_liveContext found
      exact .close live

/-- The reconciler writes audit records only. -/
theorem quiet_reconcile (cfg : Config) (server : Server) (now : Int) :
    server.Quiet (AuditReconciler.sweep cfg now server) := by
  obtain ⟨registry, hub, scheduler, contexts, readyState, outbound⟩ :=
    AuditReconciler.sweep_frame cfg now server
  have identity : (AuditReconciler.sweep cfg now server).identity? = server.identity? := by
    funext socket
    rw [identity?, identity?, contexts]
  exact ⟨registry, hub, scheduler, readyState, identity, [],
    by rw [List.append_nil]; exact outbound, by simp⟩

/-- A beacon writes audit records only. -/
theorem quiet_beacon (server : Server) (now : Int) (frame : RawFrame) :
    server.Quiet (beacon now frame server).1 := by
  rw [beacon]
  split
  · exact quiet_refl server
  · exact quiet_record server _
  · exact quiet_refl server

/-- Every step has the effect of its action. -/
theorem step_effect (cfg : Config) (server : Server) (stamped : Stamped) :
    Effect cfg server stamped.time (server.action stamped) (server.step cfg stamped) := by
  obtain ⟨now, event⟩ := stamped
  cases event with
  | connect socket sid => exact connect_effect cfg server now socket sid
  | message socket frame => exact message_effect cfg server now socket frame
  | closing socket => exact closing_effect cfg server now socket
  | close socket => exact close_effect cfg server now socket
  | tick => exact .tick
  | reap => exact .reap
  | reconcile => exact .idle (quiet_reconcile cfg server now)
  | beacon frame => exact .idle (quiet_beacon server now frame)

/-- A step whose action is a tick is the tick. -/
theorem step_of_tick (cfg : Config) {server : Server} {stamped : Stamped}
    (isTick : server.action stamped = .tick) :
    server.step cfg stamped = server.tick stamped.time := by
  have effect := step_effect cfg server stamped
  rw [isTick] at effect
  generalize server.step cfg stamped = after at effect
  cases effect with
  | tick => rfl

end Server

end Copresence
