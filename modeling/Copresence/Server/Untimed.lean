import Copresence.Models.Untimed
import Copresence.Server.Effects
import Copresence.Services.AuditEnds

/-! The server without the times that clients report. Every event but a sweep
of the reaper commutes with leaving them out. -/
namespace Copresence

open Collections

namespace SessionRegistry

def untimed (registry : SessionRegistry) : SessionRegistry :=
  ⟨registry.sessions.mapValues Session.untimed, by
    intro sid session h
    rw [JsMap.get?_mapValues] at h
    obtain ⟨stored, hs, rfl⟩ := Option.map_eq_some_iff.mp h
    exact registry.keyed sid stored hs⟩

variable (registry : SessionRegistry)

/-- A session is looked up without its times. -/
theorem untimed_get (sid : SessionId) :
    registry.untimed.get sid = (registry.get sid).map Session.untimed :=
  JsMap.get?_mapValues ..

/-- Saving it writes no more than that. -/
theorem untimed_save (session : Session) :
    (registry.save session).untimed = registry.untimed.save session.untimed := by
  simp only [untimed, save, JsMap.set_mapValues]
  rfl

/-- Deleting it takes no less. -/
theorem untimed_delete (sid : SessionId) :
    (registry.delete sid).untimed = registry.untimed.delete sid := by
  simp only [untimed, delete, JsMap.delete_mapValues]

theorem untimed_all : registry.untimed.all = registry.all.map Session.untimed :=
  JsMap.values_mapValues ..

/-- A session that is new has no reported time in it. -/
theorem untimed_getOrCreate (sid : SessionId) (now : Int) :
    registry.untimed.getOrCreate sid now =
      ((registry.getOrCreate sid now).1.untimed, (registry.getOrCreate sid now).2.untimed) := by
  unfold getOrCreate
  rw [untimed_get]
  cases registry.get sid with
  | some existing => rfl
  | none => rw [untimed_save]; rfl

end SessionRegistry

def Write.untimed (write : Write) : Write := { write with message := write.message.untimed }

namespace BroadcastHub

variable (hub : BroadcastHub) (isOpen : SocketId → Bool)

/-- What a participant is sent depends on no reported time but the message's own. -/
theorem untimed_sendTo (pid : ParticipantId) (message : OutboundMessage) :
    (hub.sendTo isOpen pid message).map Write.untimed = hub.sendTo isOpen pid message.untimed := by
  unfold sendTo
  split
  · rfl
  · split <;> rfl

/-- What a session is sent depends on no reported time but the message's own. -/
theorem untimed_broadcast (sid : SessionId) (message : OutboundMessage)
    (exclude : Option ParticipantId) :
    (hub.broadcastToSession isOpen sid message exclude).map Write.untimed =
      hub.broadcastToSession isOpen sid message.untimed exclude := by
  rw [broadcastToSession, broadcastToSession, List.map_flatMap]
  congr 1
  funext pid
  split
  · rfl
  · exact untimed_sendTo hub isOpen pid message

end BroadcastHub

namespace TickScheduler

def TickState.untimed (state : TickState) : TickState :=
  { state with registry := state.registry.untimed }

variable (hub : BroadcastHub) (isOpen : SocketId → Bool)

/-- A patch is made of positions and flags, which have no times. -/
theorem untimed_tickSession (seq now : Int) (state : TickState) (session : Session) :
    TickState.untimed (tickSession hub isOpen seq now state session) =
      tickSession hub isOpen seq now (TickState.untimed state) session.untimed := by
  unfold tickSession
  rw [Session.toPatch_untimed]
  cases toPatch session seq now with
  | some patch =>
      simp only [TickState.untimed, SessionRegistry.untimed_save, Session.untimed_clearDirty]
      rfl
  | none =>
      have same : (TickState.untimed state).settling.get? session.untimed.sid =
          state.settling.get? session.sid := rfl
      dsimp only
      rw [same]
      cases state.settling.get? session.sid with
      | none => rfl
      | some settle =>
          dsimp only
          split
          · rfl
          · rfl

/-- A tick flushes the same without the times. -/
theorem untimed_tick (scheduler : TickScheduler) (registry : SessionRegistry) (now : Int) :
    scheduler.tick registry.untimed hub isOpen now =
      ((scheduler.tick registry hub isOpen now).1,
        (scheduler.tick registry hub isOpen now).2.1.untimed,
        (scheduler.tick registry hub isOpen now).2.2) := by
  have folded : ∀ (sessions : List Session) (state : TickState),
      (sessions.map Session.untimed).foldl (tickSession hub isOpen (scheduler.seq + 1) now)
          (TickState.untimed state) =
        TickState.untimed
          (sessions.foldl (tickSession hub isOpen (scheduler.seq + 1) now) state) := by
    intro sessions
    induction sessions with
    | nil => exact fun _ => rfl
    | cons session sessions ih =>
        intro state
        rw [List.map_cons, List.foldl_cons, List.foldl_cons, ← untimed_tickSession, ih]
  have whole := folded registry.all { registry, settling := scheduler.settling, writes := [] }
  unfold tick
  dsimp only
  rw [SessionRegistry.untimed_all]
  show (_, _, _) = _
  rw [show ({ registry := registry.untimed, settling := scheduler.settling, writes := [] } :
    TickState) = TickState.untimed { registry, settling := scheduler.settling, writes := [] }
    from rfl, whole]
  rfl

end TickScheduler

def ServerEvent.untimed : ServerEvent → ServerEvent
  | .message socket frame => .message socket frame.untimed
  | .beacon frame => .beacon frame.untimed
  | event => event

/-- The same event, its frame without its time; the server's clock stays. -/
def Stamped.untimed (stamped : Stamped) : Stamped :=
  { stamped with event := stamped.event.untimed }

def Verdict.untimed : Verdict → Verdict
  | .accepted msg => .accepted msg.untimed
  | verdict => verdict

/-- The router does not look at a frame's time. -/
theorem judge_untimed (ctx : ConnectionContext) (frame : RawFrame) :
    judge ctx frame.untimed = (judge ctx frame).untimed := by
  rw [judge, judge, decodeInbound_untimed]
  cases decodeInbound frame with
  | error error => rfl
  | ok msg =>
      dsimp only [Except.map]
      rw [InboundMessage.untimed_isHello, InboundMessage.untimed_pid, InboundMessage.untimed_seq]
      split
      · rfl
      · split
        · rfl
        · split <;> rfl

/-- The guard reads the number of a frame and not its time. -/
theorem afterGuard_untimed (ctx : ConnectionContext) (frame : RawFrame) :
    afterGuard ctx frame.untimed = afterGuard ctx frame := by
  rw [afterGuard, afterGuard, decodeInbound_untimed]
  cases decodeInbound frame with
  | error error => rfl
  | ok msg =>
      dsimp only [Except.map]
      rw [InboundMessage.untimed_isHello, InboundMessage.untimed_pid, InboundMessage.untimed_seq]

namespace Server

def untimed (server : Server) : Server :=
  { server with
    registry := server.registry.untimed
    outbound := server.outbound.map Write.untimed
    recorded := server.recorded.map AuditRecordInput.untimed }

variable (server : Server) (cfg : Config) (now : Int) (ctx : ConnectionContext)

/-- An entry without its times is that of the participant without them. -/
theorem untimed_entryOf (sid : SessionId) (pid : ParticipantId) :
    server.untimed.entryOf sid pid =
      (server.entryOf sid pid).map fun entry =>
        { entry with participant := entry.participant.untimed } := by
  show (server.registry.untimed.get sid).bind _ = Option.map _ ((server.registry.get sid).bind _)
  rw [SessionRegistry.untimed_get]
  cases server.registry.get sid with
  | none => rfl
  | some session =>
      show (session.untimed.participants.get? pid).map _ = Option.map _ (Option.map _ _)
      rw [Session.untimed_get?, Option.map_map, Option.map_map]
      rfl

/-- What is written loses its times one by one. -/
theorem untimed_emit (writes : List Write) :
    (server.emit writes).untimed = server.untimed.emit (writes.map Write.untimed) := by
  simp only [untimed, emit, List.map_append]

theorem untimed_sendTo (pid : ParticipantId) (message : OutboundMessage) :
    (server.sendTo pid message).untimed = server.untimed.sendTo pid message.untimed := by
  rw [sendTo, untimed_emit, BroadcastHub.untimed_sendTo]
  rfl

/-- An entry that carries no time is recorded as it is. -/
theorem untimed_record {entry : AuditRecordInput} (timeless : entry.untimed = entry) :
    (server.record entry).untimed = server.untimed.record entry := by
  simp only [untimed, record, List.map_append, List.map_cons, List.map_nil, timeless]

/-- The server's own records are under its own clock. -/
theorem untimed_recordGenerated {entry : EventId → AuditRecordInput}
    (timeless : ∀ eventId, (entry eventId).untimed = entry eventId) :
    (server.recordGenerated cfg entry).untimed = server.untimed.recordGenerated cfg entry := by
  rw [recordGenerated, recordGenerated]
  have recorded := server.untimed_record (timeless (cfg.generateId server.generated))
  exact congrArg (fun server : Server => { server with generated := server.generated + 1 }) recorded

/-- The reported time of a hello is when its participant was last seen, which is
left out. -/
theorem untimed_helloSession (msg : HelloMessage) :
    (server.helloSession now ctx msg).untimed =
      server.untimed.helloSession now ctx { msg with ts := 0 } := by
  rw [helloSession, helloSession, Session.untimed_applyEvent]
  show _ = (applyEvent (server.registry.untimed.getOrCreate ctx.sid now).1 _).state
  rw [SessionRegistry.untimed_getOrCreate]
  rfl

/-- A hello is handled the same without its time. -/
theorem untimed_hello (msg : HelloMessage) :
    (handleHello now ctx msg server).untimed =
      handleHello now ctx { msg with ts := 0 } server.untimed := by
  have session := server.untimed_helloSession now ctx msg
  have registry :
      ((server.registry.getOrCreate ctx.sid now).2.save (server.helloSession now ctx msg)).untimed =
        (server.registry.untimed.getOrCreate ctx.sid now).2.save
          (server.untimed.helloSession now ctx { msg with ts := 0 }) := by
    rw [SessionRegistry.untimed_save, session, SessionRegistry.untimed_getOrCreate]
  have registered : (server.helloRegistered now ctx msg).untimed =
      server.untimed.helloRegistered now ctx { msg with ts := 0 } :=
    congrArg (fun registry => { (server.untimed.setContext { ctx with pid := some msg.pid }) with
      registry
      hub := server.hub.register { pid := msg.pid, sid := ctx.sid, socket := ctx.socket } }) registry
  have writes : (server.helloWrites now ctx msg).map Write.untimed =
      server.untimed.helloWrites now ctx { msg with ts := 0 } := by
    rw [helloWrites, helloWrites, List.map_append, BroadcastHub.untimed_sendTo,
      Session.toWelcome_untimed, session, untimed_entryOf, Option.isSome_map]
    congr 1
    split
    · rfl
    · exact BroadcastHub.untimed_broadcast ..
  rw [handleHello_eq, handleHello_eq, untimed_emit, registered, writes]

/-- A removal reports the server's own time. -/
theorem untimed_removeFromSession (pid : ParticipantId) :
    (removeFromSession now ctx pid server).untimed =
      removeFromSession now ctx pid server.untimed := by
  have registry : (server.departed ctx pid).registry.untimed =
      (server.untimed.departed ctx pid).registry := by
    have same : server.untimed.registry = server.registry.untimed := rfl
    rw [departed, departed, same, SessionRegistry.untimed_get]
    cases server.registry.get ctx.sid with
    | none => rfl
    | some session =>
        dsimp only [Option.map_some]
        rw [Session.untimed_has, ← Session.untimed_removeParticipant]
        split
        · exact SessionRegistry.untimed_save ..
        · rfl
  have departed : (server.departed ctx pid).untimed = server.untimed.departed ctx pid :=
    congrArg (fun registry => { server.untimed with
      registry
      hub := server.hub.unregister pid }) registry
  have writes : (server.departureWrites now ctx pid).map Write.untimed =
      server.untimed.departureWrites now ctx pid := by
    rw [departureWrites, departureWrites, untimed_entryOf, Option.isSome_map]
    split
    · exact BroadcastHub.untimed_broadcast ..
    · rfl
  rw [removeFromSession_eq, removeFromSession_eq, untimed_emit, departed, writes]

/-- A movement's time is read nowhere. -/
theorem untimed_presence (event : SessionEvent) :
    (handlePresence ctx event server).untimed =
      handlePresence ctx event.untimed server.untimed := by
  have found : server.untimed.registry.get ctx.sid =
      (server.registry.get ctx.sid).map Session.untimed := SessionRegistry.untimed_get ..
  rw [handlePresence, handlePresence, found]
  cases server.registry.get ctx.sid with
  | none => rfl
  | some session =>
      have saved : (server.registry.save (applyEvent session event).state).untimed =
          server.registry.untimed.save (applyEvent session.untimed event.untimed).state := by
        rw [SessionRegistry.untimed_save, Session.untimed_applyEvent]
      exact congrArg (fun registry => { server.untimed with registry }) saved

/-- A pong gives back the ping's time, which is left out of both. -/
theorem untimed_ping (msg : PingMessage) :
    (handlePing now ctx msg server).untimed =
      handlePing now ctx { msg with ts := 0 } server.untimed := by
  unfold handlePing
  split
  · rfl
  · exact server.untimed_sendTo _ _

/-- What is recorded of a report is the server's time. -/
theorem auditEntry_timeless (msg : AuditMessage) (sid : SessionId) :
    (auditEntry msg sid now).untimed = auditEntry msg sid now := by
  rw [auditEntry, AuditRecordInput.untimed]
  cases msg.body <;> rfl

/-- A report is handled the same without its time. -/
theorem untimed_audit (msg : AuditMessage) :
    (handleAuditMessage now ctx msg server).untimed =
      handleAuditMessage now ctx { msg with ts := 0 } server.untimed := by
  have timeless := auditEntry_timeless now msg ctx.sid
  have recorded := server.untimed_record timeless
  rw [handleAuditMessage, untimed_sendTo]
  exact congrArg (fun server : Server => server.sendTo msg.pid (.auditAck
    { sid := ctx.sid, seq := 0, ts := now, eventId := msg.eventId })) recorded

/-- No handler depends on a reported time. -/
theorem untimed_dispatch (msg : InboundMessage) :
    (dispatch now ctx server msg).untimed = dispatch now ctx server.untimed msg.untimed := by
  cases msg with
  | audit msg => exact server.untimed_audit now ctx msg
  | hello msg => exact server.untimed_hello now ctx msg
  | bye msg => exact (server.setContext _).untimed_removeFromSession now ctx msg.pid
  | ping msg => exact server.untimed_ping now ctx msg
  | cursor msg => exact server.untimed_presence ctx (.cursor msg)
  | scroll msg => exact server.untimed_presence ctx (.scroll msg)
  | ack msg => rfl

/-- The router depends on no reported time. -/
theorem untimed_handleRealtimeMessage (frame : RawFrame) :
    (handleRealtimeMessage now ctx frame server).untimed =
      handleRealtimeMessage now ctx frame.untimed server.untimed := by
  rw [handleRealtimeMessage, handleRealtimeMessage, judge_untimed, afterGuard_untimed]
  cases judge ctx frame with
  | refused code detail =>
      show (sendError now ctx code detail server).untimed = sendError now ctx code detail _
      rw [sendError]
      show _ = if server.isOpen ctx.socket = true then _ else _
      split
      · exact server.untimed_emit _
      · rfl
  | unordered => rfl
  | accepted msg => exact (server.setContext _).untimed_dispatch now _ msg

/-- A close reads the server's clock. -/
theorem untimed_disconnect :
    (handleDisconnect cfg now ctx server).untimed =
      handleDisconnect cfg now ctx server.untimed := by
  unfold handleDisconnect
  split
  · rfl
  · next pid hp =>
      rw [untimed_removeFromSession]
      split
      · rfl
      · rw [untimed_recordGenerated _ _ fun _ => rfl]

theorem untimed_tick : (server.tick now).untimed = server.untimed.tick now := by
  have silent : (server.scheduler.tick server.registry server.hub server.isOpen now).2.2.map
      Write.untimed = (server.scheduler.tick server.registry server.hub server.isOpen now).2.2 := by
    rw [TickScheduler.tick_writes, List.map_flatMap]
    congr 1
    funext session
    rw [TickScheduler.tickWrites]
    split
    · rfl
    · exact BroadcastHub.untimed_broadcast ..
  have ticked := TickScheduler.untimed_tick server.hub server.isOpen server.scheduler
    server.registry now
  have still : server.untimed.isOpen = server.isOpen := rfl
  rw [tick, tick, still]
  simp only [untimed, ticked, List.map_append, silent]

/-- The reconciler reads the server's clock. -/
theorem untimed_reconcile :
    (AuditReconciler.sweep cfg now server).untimed =
      AuditReconciler.sweep cfg now server.untimed :=
  Transition.run_map (fun server _ =>
    server.untimed_recordGenerated cfg fun _ => rfl) server _

/-- A beacon's report is recorded under the server's time. -/
theorem untimed_beacon (frame : RawFrame) :
    (beacon now frame server).1.untimed = (beacon now frame.untimed server.untimed).1 := by
  rw [beacon, beacon, decodeInbound_untimed]
  cases decodeInbound frame with
  | error error => rfl
  | ok msg =>
      cases msg with
      | audit msg => exact server.untimed_record (auditEntry_timeless now msg msg.sid)
      | _ => rfl

/-- Every event but the reaper's sweep takes no notice of clients' times. -/
theorem untimed_step (stamped : Stamped) (noSweep : stamped.event ≠ .reap) :
    (server.step cfg stamped).untimed = server.untimed.step cfg stamped.untimed := by
  rw [step, step, Stamped.untimed]
  cases he : stamped.event with
  | connect socket sid =>
      have same : server.untimed.contexts socket = server.contexts socket := rfl
      dsimp only [ServerEvent.untimed]
      rw [connect, connect, same]
      cases server.contexts socket <;> rfl
  | message socket frame =>
      have same : server.untimed.liveContext socket = server.liveContext socket := rfl
      dsimp only [ServerEvent.untimed]
      rw [message, message, same]
      cases server.liveContext socket with
      | none => rfl
      | some ctx => exact server.untimed_handleRealtimeMessage stamped.time ctx frame
  | closing socket =>
      dsimp only [ServerEvent.untimed]
      rw [closing]
      show _ = if server.isOpen socket = true then _ else _
      split <;> rfl
  | close socket =>
      have same : server.untimed.liveContext socket = server.liveContext socket := rfl
      dsimp only [ServerEvent.untimed]
      rw [close, close, same]
      cases server.liveContext socket with
      | none => rfl
      | some ctx => exact (server.setReadyState socket .closed).untimed_disconnect cfg stamped.time ctx
  | tick => exact server.untimed_tick stamped.time
  | reap => exact absurd he noSweep
  | reconcile => exact server.untimed_reconcile cfg stamped.time
  | beacon frame => exact server.untimed_beacon stamped.time frame

end Server

end Copresence
