import Copresence.Lib.Unwinding
import Copresence.Server.Guards

/-! Servers that differ in what a rejected frame leaves behind, the gaps its
guard has listed and the error replies. No handler tells them apart. -/
namespace Copresence

/-- A context without the gaps its guard has listed. -/
def ConnectionContext.withoutGaps (ctx : ConnectionContext) : ConnectionContext :=
  { ctx with sequenceGuard := { lastSeen := ctx.sequenceGuard.lastSeen } }

def Write.isError (write : Write) : Bool :=
  match write.message with
  | .error _ => true
  | _ => false

/-- The history of a socket without its error frames. -/
def withoutErrors (writes : List Write) : List Write := writes.filter fun write => !write.isError

/-- Leaving out the error replies leaves the others in order. -/
theorem withoutErrors_append (first second : List Write) :
    withoutErrors (first ++ second) = withoutErrors first ++ withoutErrors second :=
  List.filter_append ..

section Alike

variable {ctx other : ConnectionContext} (alike : ctx.withoutGaps = other.withoutGaps)

include alike

theorem alike_socket : ctx.socket = other.socket := by
  have h := congrArg ConnectionContext.socket alike
  exact h

theorem alike_sid : ctx.sid = other.sid := by
  have h := congrArg ConnectionContext.sid alike
  exact h

theorem alike_pid : ctx.pid = other.pid := by
  have h := congrArg ConnectionContext.pid alike
  exact h

theorem alike_leftExplicitly : ctx.leftExplicitly = other.leftExplicitly := by
  have h := congrArg ConnectionContext.leftExplicitly alike
  exact h

/-- The guard's highest number is no gap, so it is in what the two share. -/
theorem alike_lastSeen : ctx.sequenceGuard.lastSeen = other.sequenceGuard.lastSeen := by
  have h := congrArg (fun ctx : ConnectionContext => ctx.sequenceGuard.lastSeen) alike
  exact h

/-- Whether a number is accepted depends on the highest number alone. -/
theorem accept_alike (seq : Int) :
    (ctx.sequenceGuard.accept seq).2 = (other.sequenceGuard.accept seq).2 := by
  rw [Bool.eq_iff_iff, SequenceGuard.accept_snd, SequenceGuard.accept_snd, SequenceGuard.Newer,
    alike_lastSeen alike]
  rfl

/-- The router decides the same whatever gaps are listed. -/
theorem judge_alike (frame : RawFrame) : judge ctx frame = judge other frame := by
  unfold judge
  simp only [alike_pid alike, accept_alike alike]

/-- Whether a frame fits its connection does not depend on the gaps. -/
theorem fits_alike {frame : RawFrame} {msg : InboundMessage} :
    Fits ctx frame msg ↔ Fits other frame msg := by
  have pids := alike_pid alike
  constructor
  · intro fits
    exact ⟨fits.decoded, pids ▸ fits.introduced, pids ▸ fits.own⟩
  · intro fits
    exact ⟨fits.decoded, pids ▸ fits.introduced, pids ▸ fits.own⟩

/-- The guard moves on alike, the gaps apart. -/
theorem afterGuard_alike (frame : RawFrame) :
    (afterGuard ctx frame).withoutGaps = (afterGuard other frame).withoutGaps := by
  by_cases fits : ∃ msg, Fits ctx frame msg
  · obtain ⟨msg, fits⟩ := fits
    have later : (ctx.sequenceGuard.accept msg.seq).1.lastSeen =
        (other.sequenceGuard.accept msg.seq).1.lastSeen := by
      rw [SequenceGuard.accept_lastSeen, SequenceGuard.accept_lastSeen, accept_alike alike,
        alike_lastSeen alike]
    have rest := alike
    rw [fits.route.2, ((fits_alike alike).mp fits).route.2]
    simp only [ConnectionContext.withoutGaps, ConnectionContext.mk.injEq] at rest ⊢
    exact ⟨rest.1, rest.2.1, rest.2.2.1, by rw [later], rest.2.2.2.2⟩
  · have misfit := not_exists.mp fits
    rw [(route_of_misfit misfit).2,
      (route_of_misfit fun msg h => misfit msg ((fits_alike alike).mpr h)).2]
    exact alike

end Alike

namespace Server

/-- Two servers that differ in gaps and error frames only. -/
structure Same (first second : Server) : Prop where
  registry : first.registry = second.registry
  hub : first.hub = second.hub
  auditLog : first.auditLog = second.auditLog
  scheduler : first.scheduler = second.scheduler
  readyState : first.readyState = second.readyState
  generated : first.generated = second.generated
  recorded : first.recorded = second.recorded
  contexts : ∀ socket, (first.contexts socket).map ConnectionContext.withoutGaps =
    (second.contexts socket).map ConnectionContext.withoutGaps
  outbound : withoutErrors first.outbound = withoutErrors second.outbound

section Same

variable {first second : Server} (same : Same first second)

theorem same_refl (server : Server) : Same server server :=
  ⟨rfl, rfl, rfl, rfl, rfl, rfl, rfl, fun _ => rfl, rfl⟩

/-- Servers that are alike can be compared through a third. -/
theorem Same.trans {third : Server} (h : Same first second) (h' : Same second third) :
    Same first third :=
  ⟨h.registry.trans h'.registry, h.hub.trans h'.hub, h.auditLog.trans h'.auditLog,
    h.scheduler.trans h'.scheduler, h.readyState.trans h'.readyState,
    h.generated.trans h'.generated, h.recorded.trans h'.recorded,
    fun socket => (h.contexts socket).trans (h'.contexts socket), h.outbound.trans h'.outbound⟩

/-- Being alike is mutual. -/
theorem Same.symm (same : Same first second) : Same second first :=
  ⟨same.registry.symm, same.hub.symm, same.auditLog.symm, same.scheduler.symm,
    same.readyState.symm, same.generated.symm, same.recorded.symm,
    fun socket => (same.contexts socket).symm, same.outbound.symm⟩

include same

/-- The same sockets are open in both. -/
theorem Same.isOpen : first.isOpen = second.isOpen := by
  funext socket
  rw [Server.isOpen, Server.isOpen, same.readyState]

/-- Both may write the same. -/
theorem Same.emit (writes : List Write) : Same (first.emit writes) (second.emit writes) :=
  { same with
    outbound := by
      show withoutErrors (first.outbound ++ writes) = withoutErrors (second.outbound ++ writes)
      rw [withoutErrors_append, withoutErrors_append, same.outbound] }

/-- One participant is sent the same by both, registered on the same socket. -/
theorem Same.sendTo (pid : ParticipantId) (message : OutboundMessage) :
    Same (first.sendTo pid message) (second.sendTo pid message) := by
  rw [Server.sendTo, Server.sendTo, same.hub, same.isOpen]
  exact same.emit _

/-- A session's peers are sent the same by both. -/
theorem Same.broadcast (sid : SessionId) (message : OutboundMessage)
    (exclude : Option ParticipantId) :
    Same (first.broadcastToSession sid message exclude)
      (second.broadcastToSession sid message exclude) := by
  rw [broadcastToSession, broadcastToSession, same.hub, same.isOpen]
  exact same.emit _

/-- Contexts that differ in their gaps only may be written to the two. -/
theorem Same.setContext {ctx other : ConnectionContext}
    (alike : ctx.withoutGaps = other.withoutGaps) :
    Same (first.setContext ctx) (second.setContext other) :=
  { same with
    contexts := by
      intro socket
      rw [setContext_contexts, setContext_contexts, alike_socket alike]
      split
      · rw [Option.map_some, Option.map_some, alike]
      · exact same.contexts socket }

/-- Both logs take the same record. -/
theorem Same.record (entry : AuditRecordInput) : Same (first.record entry) (second.record entry) :=
  { same with
    auditLog := by rw [Server.record, Server.record, same.auditLog]
    recorded := by rw [Server.record, Server.record, same.recorded] }

/-- Both draw the same id and record under it. -/
theorem Same.recordGenerated (cfg : Config) (entry : EventId → AuditRecordInput) :
    Same (first.recordGenerated cfg entry) (second.recordGenerated cfg entry) := by
  rw [Server.recordGenerated, Server.recordGenerated, same.generated]
  exact { same.record (entry (cfg.generateId second.generated)) with generated := rfl }

/-- A socket changes its state in both. -/
theorem Same.setReadyState (socket : SocketId) (state : ReadyState) :
    Same (first.setReadyState socket state) (second.setReadyState socket state) :=
  { same with
    readyState := by rw [Server.setReadyState, Server.setReadyState, same.readyState] }

section Handlers

variable {ctx other : ConnectionContext} (alike : ctx.withoutGaps = other.withoutGaps)

include alike

/-- A hello reads no gaps, so it does the same to both. -/
theorem Same.hello (now : Int) (msg : HelloMessage) :
    Same (handleHello now ctx msg first) (handleHello now other msg second) := by
  have session : first.helloSession now ctx msg = second.helloSession now other msg := by
    rw [helloSession, helloSession, same.registry, alike_sid alike]
  have identified : ({ ctx with pid := some msg.pid } : ConnectionContext).withoutGaps =
      ({ other with pid := some msg.pid } : ConnectionContext).withoutGaps := by
    simp only [ConnectionContext.withoutGaps, ConnectionContext.mk.injEq] at alike ⊢
    exact ⟨alike.1, alike.2.1, trivial, alike.2.2.2⟩
  have registered : Same (first.helloRegistered now ctx msg)
      (second.helloRegistered now other msg) :=
    { same.setContext identified with
      registry := by
        rw [helloRegistered, helloRegistered, same.registry, alike_sid alike, session]
      hub := by
        rw [helloRegistered, helloRegistered, same.hub, alike_sid alike, alike_socket alike] }
  have writes : first.helloWrites now ctx msg = second.helloWrites now other msg := by
    rw [helloWrites, helloWrites, registered.hub, same.isOpen, session, Server.entryOf,
      Server.entryOf, same.registry, alike_sid alike]
  rw [handleHello_eq, handleHello_eq, writes]
  exact registered.emit _

/-- Who is removed from one roster is removed from the other. -/
theorem Same.removeFromSession (now : Int) (pid : ParticipantId) :
    Same (removeFromSession now ctx pid first) (removeFromSession now other pid second) := by
  have departed : Same (first.departed ctx pid) (second.departed other pid) :=
    { same with
      registry := by rw [Server.departed, Server.departed, same.registry, alike_sid alike]
      hub := by rw [Server.departed, Server.departed, same.hub] }
  have writes : first.departureWrites now ctx pid = second.departureWrites now other pid := by
    rw [departureWrites, departureWrites, same.hub, same.isOpen, Server.entryOf, Server.entryOf,
      same.registry, alike_sid alike]
  rw [removeFromSession_eq, removeFromSession_eq, writes]
  exact departed.emit _

/-- A goodbye marks both connections as left before it removes. -/
theorem Same.bye (now : Int) (msg : ByeMessage) :
    Same (handleBye now ctx msg first) (handleBye now other msg second) := by
  have leaving : ({ ctx with leftExplicitly := true } : ConnectionContext).withoutGaps =
      ({ other with leftExplicitly := true } : ConnectionContext).withoutGaps := by
    simp only [ConnectionContext.withoutGaps, ConnectionContext.mk.injEq] at alike ⊢
    exact ⟨alike.1, alike.2.1, alike.2.2.1, alike.2.2.2.1, alike.2.2.2.2.1, trivial⟩
  exact (same.setContext leaving).removeFromSession alike now msg.pid

/-- A ping is answered alike. -/
theorem Same.ping (now : Int) (msg : PingMessage) :
    Same (handlePing now ctx msg first) (handlePing now other msg second) := by
  rw [handlePing, handlePing, alike_pid alike, alike_sid alike]
  cases other.pid with
  | none => exact same
  | some pid => exact same.sendTo pid _

/-- A movement reaches both rosters. -/
theorem Same.presence (event : SessionEvent) :
    Same (handlePresence ctx event first) (handlePresence other event second) := by
  rw [handlePresence, handlePresence, alike_sid alike, same.registry]
  cases second.registry.get other.sid with
  | none => exact same
  | some session => exact { same with registry := rfl }

/-- A report is recorded and acknowledged alike. -/
theorem Same.audit (now : Int) (msg : AuditMessage) :
    Same (handleAuditMessage now ctx msg first) (handleAuditMessage now other msg second) := by
  rw [handleAuditMessage, handleAuditMessage, alike_sid alike]
  exact (same.record _).sendTo msg.pid _

/-- A close reports the end of the session in both or in neither. -/
theorem Same.disconnect (cfg : Config) (now : Int) :
    Same (handleDisconnect cfg now ctx first) (handleDisconnect cfg now other second) := by
  have ends : ∀ pid, socketEnd ctx pid now = socketEnd other pid now := by
    intro pid
    funext eventId
    rw [socketEnd, socketEnd, alike_sid alike]
  rw [handleDisconnect, handleDisconnect, alike_pid alike, alike_leftExplicitly alike]
  cases other.pid with
  | none => exact same
  | some pid =>
      dsimp only
      rw [ends pid]
      by_cases explicit : other.leftExplicitly = true
      · rw [if_pos explicit, if_pos explicit]
        exact same.removeFromSession alike now pid
      · rw [if_neg explicit, if_neg explicit]
        exact (same.recordGenerated cfg _).removeFromSession alike now pid

/-- Every accepted message is handled alike. -/
theorem Same.dispatch (now : Int) (msg : InboundMessage) :
    Same (dispatch now ctx first msg) (dispatch now other second msg) := by
  cases msg with
  | audit msg => exact same.audit alike now msg
  | hello msg => exact same.hello alike now msg
  | bye msg => exact same.bye alike now msg
  | ping msg => exact same.ping alike now msg
  | cursor msg => exact same.presence alike (.cursor msg)
  | scroll msg => exact same.presence alike (.scroll msg)
  | ack msg => exact same

/-- An error reply is what the two may differ in, and nothing else of it is seen. -/
theorem Same.sendError (now : Int) (code : ErrorCode) (detail : String) :
    Same (sendError now ctx code detail first) (sendError now other code detail second) := by
  rw [Copresence.sendError, Copresence.sendError, same.isOpen, alike_socket alike, alike_sid alike]
  by_cases isOpen : second.isOpen other.socket = true
  · rw [if_pos isOpen, if_pos isOpen]
    exact same.emit _
  · rw [if_neg isOpen, if_neg isOpen]
    exact same

/-- The router judges a frame alike and hands it to the same handler. -/
theorem Same.handleRealtimeMessage (now : Int) (frame : RawFrame) :
    Same (handleRealtimeMessage now ctx frame first)
      (handleRealtimeMessage now other frame second) := by
  have guarded := afterGuard_alike alike frame
  rw [Copresence.handleRealtimeMessage, Copresence.handleRealtimeMessage, judge_alike alike]
  cases judge other frame with
  | refused code detail => exact same.sendError alike now code detail
  | unordered => exact same.setContext guarded
  | accepted msg => exact (same.setContext guarded).dispatch guarded now msg

end Handlers

/-- A socket has a live context on both or on neither. -/
theorem Same.liveContext (socket : SocketId) :
    (first.liveContext socket).map ConnectionContext.withoutGaps =
      (second.liveContext socket).map ConnectionContext.withoutGaps := by
  rw [Server.liveContext, Server.liveContext, same.readyState]
  by_cases closed : second.readyState socket = .closed
  · rw [if_pos closed, if_pos closed]
  · rw [if_neg closed, if_neg closed]
    exact same.contexts socket

/-- A socket is live in both, under contexts that are alike, or in neither. -/
theorem Same.liveContext_cases (socket : SocketId) :
    first.liveContext socket = none ∧ second.liveContext socket = none ∨
      ∃ ctx other, first.liveContext socket = some ctx ∧ second.liveContext socket = some other ∧
        ctx.withoutGaps = other.withoutGaps := by
  have h := same.liveContext socket
  cases hf : first.liveContext socket with
  | none =>
      rw [hf, Option.map_none] at h
      exact Or.inl ⟨rfl, Option.map_eq_none_iff.mp h.symm⟩
  | some ctx =>
      rw [hf, Option.map_some] at h
      obtain ⟨other, ho, alike⟩ := Option.map_eq_some_iff.mp h.symm
      exact Or.inr ⟨ctx, other, rfl, ho, alike.symm⟩

/-- A socket is fresh to both or to neither. -/
theorem Same.connect (now : Int) (socket : SocketId) (sid : SessionId) :
    Same (first.connect now socket sid) (second.connect now socket sid) := by
  have h := same.contexts socket
  rw [Server.connect, Server.connect]
  cases hf : first.contexts socket with
  | none =>
      rw [hf, Option.map_none] at h
      rw [Option.map_eq_none_iff.mp h.symm]
      exact (same.setContext rfl).setReadyState socket .open
  | some ctx =>
      rw [hf, Option.map_some] at h
      obtain ⟨other, ho, _⟩ := Option.map_eq_some_iff.mp h.symm
      rw [ho]
      exact same

/-- A frame meets alike contexts in the two. -/
theorem Same.message (now : Int) (socket : SocketId) (frame : RawFrame) :
    Same (first.message now socket frame) (second.message now socket frame) := by
  rw [Server.message, Server.message]
  rcases same.liveContext_cases socket with ⟨hf, hs⟩ | ⟨ctx, other, hf, hs, alike⟩
  · rw [hf, hs]
    exact same
  · rw [hf, hs]
    exact same.handleRealtimeMessage alike now frame

/-- A socket begins to close in both or in neither. -/
theorem Same.closing (socket : SocketId) : Same (first.closing socket) (second.closing socket) := by
  rw [Server.closing, Server.closing, same.isOpen]
  by_cases isOpen : second.isOpen socket = true
  · rw [if_pos isOpen, if_pos isOpen]
    exact same.setReadyState socket .closing
  · rw [if_neg isOpen, if_neg isOpen]
    exact same

/-- A close ends the connection in both. -/
theorem Same.close (cfg : Config) (now : Int) (socket : SocketId) :
    Same (first.close cfg now socket) (second.close cfg now socket) := by
  rw [Server.close, Server.close]
  rcases same.liveContext_cases socket with ⟨hf, hs⟩ | ⟨ctx, other, hf, hs, alike⟩
  · rw [hf, hs]
    exact same
  · rw [hf, hs]
    exact (same.setReadyState socket .closed).disconnect alike cfg now

/-- A tick flushes the same rosters to the same sockets. -/
theorem Same.tick (now : Int) : Same (first.tick now) (second.tick now) := by
  rw [Server.tick, Server.tick, same.scheduler, same.registry, same.hub, same.isOpen]
  have flushed := same.emit
    (second.scheduler.tick second.registry second.hub second.isOpen now).2.2
  exact { flushed with registry := rfl, hub := rfl, scheduler := rfl }

/-- The reaper reports and announces a removal in both. -/
theorem Same.announce (cfg : Config) (now : Int) (reaped : ReapedParticipant) :
    Same (Reaper.announce cfg now first reaped) (Reaper.announce cfg now second reaped) := by
  have unregistered : Same { first with hub := first.hub.unregister reaped.pid }
      { second with hub := second.hub.unregister reaped.pid } :=
    { same with hub := by rw [same.hub] }
  exact (unregistered.recordGenerated cfg _).broadcast reaped.sid _ _

/-- The sweep removes the same participants from both. -/
theorem Same.reap (cfg : Config) (now : Int) :
    Same (Reaper.sweep cfg now first) (Reaper.sweep cfg now second) := by
  rw [Reaper.sweep, Reaper.sweep, same.registry]
  have reaped : Same
      { first with registry := (second.registry.reapStale cfg.ttlMs now).1 }
      { second with registry := (second.registry.reapStale cfg.ttlMs now).1 } :=
    { same with registry := rfl }
  exact Transition.run_pointwise (fun _ _ gone same => same.announce cfg now gone) reaped _

/-- The reconciler reads the log, which is the same in both. -/
theorem Same.reconcile (cfg : Config) (now : Int) :
    Same (AuditReconciler.sweep cfg now first) (AuditReconciler.sweep cfg now second) := by
  rw [AuditReconciler.sweep, AuditReconciler.sweep, same.auditLog]
  exact Transition.run_pointwise (fun _ _ start same => same.recordGenerated cfg _) same _

/-- A beacon's report is recorded in both or in neither. -/
theorem Same.beacon (now : Int) (frame : RawFrame) :
    Same (beacon now frame first).1 (beacon now frame second).1 := by
  rw [Copresence.beacon, Copresence.beacon]
  cases decodeInbound frame with
  | error error => exact same
  | ok msg =>
      cases msg with
      | audit msg => exact same.record _
      | _ => exact same

/-- No event tells the two apart. -/
theorem Same.step (cfg : Config) (stamped : Stamped) :
    Same (first.step cfg stamped) (second.step cfg stamped) := by
  rw [Server.step, Server.step]
  cases stamped.event with
  | connect socket sid => exact same.connect stamped.time socket sid
  | message socket frame => exact same.message stamped.time socket frame
  | closing socket => exact same.closing socket
  | close socket => exact same.close cfg stamped.time socket
  | tick => exact same.tick stamped.time
  | reap => exact same.reap cfg stamped.time
  | reconcile => exact same.reconcile cfg stamped.time
  | beacon frame => exact same.beacon stamped.time frame

end Same

end Server

end Copresence
