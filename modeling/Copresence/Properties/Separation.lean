import Copresence.Properties.Announcements

/-! What one session is to the server: its roster, its peers and their
registrations, its settle entry, its connections and what is sent in it. No
handler running for another session touches any of it. -/
namespace Copresence

open Collections

/-- What these writes say in one session. -/
def toldIn (sid : SessionId) (writes : List Write) : List Write :=
  writes.filter fun write => write.message.envelope.sid = sid

section Told

variable {sid : SessionId}

/-- What is told in a session is told in the order it was written. -/
theorem toldIn_append (first second : List Write) :
    toldIn sid (first ++ second) = toldIn sid first ++ toldIn sid second :=
  List.filter_append ..

/-- A message that names another session tells this one nothing. -/
theorem toldIn_elsewhere {writes : List Write} {message : OutboundMessage}
    (said : ∀ write ∈ writes, write.message = message) (elsewhere : message.envelope.sid ≠ sid) :
    toldIn sid writes = [] := by
  rw [toldIn, List.filter_eq_nil_iff]
  intro write hw here
  rw [said write hw] at here
  exact elsewhere (of_decide_eq_true here)

/-- A message that names this session is told in it to all it was written to. -/
theorem toldIn_here {writes : List Write} {message : OutboundMessage}
    (said : ∀ write ∈ writes, write.message = message) (here : message.envelope.sid = sid) :
    toldIn sid writes = writes := by
  rw [toldIn, List.filter_eq_self]
  intro write hw
  rw [said write hw]
  exact decide_eq_true here

end Told

namespace BroadcastHub

/-- Registering somebody adds to the peers of one session only. -/
theorem bySession_register (hub : BroadcastHub) (connection : Connection) (sid : SessionId) :
    (hub.register connection).bySession.get? sid =
      if sid = connection.sid then some ((hub.peersOf sid).add connection.pid)
      else hub.bySession.get? sid := by
  rw [register, JsMap.get?_set]
  split
  · next same => rw [same]
  · rfl

/-- The peers of a session once one of them is gone; an empty set is dropped. -/
def peersWithout (pid : ParticipantId) (peers : JsSet ParticipantId) :
    Option (JsSet ParticipantId) :=
  if (JsMap.delete peers pid).size = 0 then none else some (JsMap.delete peers pid)

/-- Unregistering somebody takes from the peers of one session only, the one it
was registered for. -/
theorem bySession_unregister (hub : BroadcastHub) (pid : ParticipantId) (sid : SessionId) :
    (hub.unregister pid).bySession.get? sid =
      if (hub.registration pid).map Connection.sid = some sid then
        (hub.bySession.get? sid).bind (peersWithout pid)
      else hub.bySession.get? sid := by
  rw [unregister, registration]
  cases hub.connections.get? pid with
  | none => rfl
  | some connection =>
      simp only [Option.map_some, Option.some.injEq]
      cases hb : hub.bySession.get? connection.sid with
      | none =>
          dsimp only
          split
          · next same => rw [← same, hb, Option.bind_none]
          · rfl
      | some peers =>
          dsimp only
          by_cases empty : (JsMap.delete peers pid).size = 0
          · rw [if_pos empty]
            dsimp only
            rw [JsMap.get?_delete]
            by_cases same : connection.sid = sid
            · rw [if_pos same.symm, if_pos same, ← same, hb, Option.bind_some, peersWithout,
                if_pos empty]
            · rw [if_neg (Ne.symm same), if_neg same]
          · rw [if_neg empty]
            dsimp only
            rw [JsMap.get?_set]
            by_cases same : connection.sid = sid
            · rw [if_pos same.symm, if_pos same, ← same, hb, Option.bind_some, peersWithout,
                if_neg empty]
            · rw [if_neg (Ne.symm same), if_neg same]

end BroadcastHub

namespace Server

/-- The context of a socket, if it was opened for this session. -/
def contextIn (server : Server) (sid : SessionId) (socket : SocketId) : Option ConnectionContext :=
  (server.contexts socket).filter fun ctx => ctx.sid = sid

/-- A session's connections are the open ones made for it. -/
theorem contextIn_eq_some {server : Server} {sid : SessionId} {socket : SocketId}
    {ctx : ConnectionContext} :
    server.contextIn sid socket = some ctx ↔ server.contexts socket = some ctx ∧ ctx.sid = sid := by
  rw [contextIn, Option.filter_eq_some_iff, decide_eq_true_iff]

/-- Writing a context shows to the session it names and hides the socket from all others. -/
theorem contextIn_setContext (server : Server) (ctx : ConnectionContext) (sid : SessionId)
    (socket : SocketId) :
    (server.setContext ctx).contextIn sid socket =
      if socket = ctx.socket then (if ctx.sid = sid then some ctx else none)
      else server.contextIn sid socket := by
  rw [contextIn, setContext_contexts]
  split
  · rw [Option.filter_some]
    simp only [decide_eq_true_eq]
  · rfl

/-- Two servers with nothing to tell them apart in this session. -/
structure SameIn (home : ParticipantId → SessionId) (sid : SessionId) (first second : Server) :
    Prop where
  session : first.registry.get sid = second.registry.get sid
  peers : first.hub.bySession.get? sid = second.hub.bySession.get? sid
  registration : ∀ pid, home pid = sid →
    first.hub.registration pid = second.hub.registration pid
  seq : first.scheduler.seq = second.scheduler.seq
  settling : first.scheduler.settling.get? sid = second.scheduler.settling.get? sid
  context : ∀ socket, first.contextIn sid socket = second.contextIn sid socket
  readyState : ∀ socket, (first.contextIn sid socket).isSome →
    first.readyState socket = second.readyState socket
  outbound : toldIn sid first.outbound = toldIn sid second.outbound

/-- The peers of every session are at home there, and whoever is registered is
so for the session its connection was opened for. -/
structure Placed (home : ParticipantId → SessionId) (server : Server) : Prop where
  seated : server.hub.Seated home
  connected : ∀ pid connection, server.hub.registration pid = some connection →
    (server.contextIn connection.sid connection.socket).isSome

section SameIn

variable {home : ParticipantId → SessionId} {sid : SessionId} {first second third : Server}

theorem sameIn_refl (server : Server) : SameIn home sid server server :=
  ⟨rfl, rfl, fun _ _ => rfl, rfl, rfl, fun _ => rfl, fun _ _ => rfl, rfl⟩

/-- Servers alike to a session can be compared through a third. -/
theorem SameIn.trans (same : SameIn home sid first second) (next : SameIn home sid second third) :
    SameIn home sid first third where
  session := same.session.trans next.session
  peers := same.peers.trans next.peers
  registration := fun pid hHome =>
    (same.registration pid hHome).trans (next.registration pid hHome)
  seq := same.seq.trans next.seq
  settling := same.settling.trans next.settling
  context := fun socket => (same.context socket).trans (next.context socket)
  readyState := fun socket there =>
    (same.readyState socket there).trans (next.readyState socket (by rwa [← same.context]))
  outbound := same.outbound.trans next.outbound

section Sends

variable (same : SameIn home sid first second) (placed : first.Placed home)

include same placed

/-- Whoever is at home in the session is sent the same by both. -/
theorem SameIn.sendTo_writes {pid : ParticipantId} (atHome : home pid = sid)
    (message : OutboundMessage) :
    first.hub.sendTo first.isOpen pid message = second.hub.sendTo second.isOpen pid message := by
  have registered : first.hub.connections.get? pid = second.hub.connections.get? pid :=
    same.registration pid atHome
  rw [BroadcastHub.sendTo, BroadcastHub.sendTo, ← registered]
  cases h : first.hub.connections.get? pid with
  | none => rfl
  | some connection =>
      have there := placed.connected pid connection h
      rw [placed.seated.atHome pid connection h, atHome] at there
      have opened : first.isOpen connection.socket = second.isOpen connection.socket := by
        rw [isOpen, isOpen, same.readyState _ there]
      dsimp only
      rw [opened]

/-- The session's peers are sent the same by both. -/
theorem SameIn.broadcast_writes (message : OutboundMessage) (exclude : Option ParticipantId) :
    first.hub.broadcastToSession first.isOpen sid message exclude =
      second.hub.broadcastToSession second.isOpen sid message exclude := by
  have members : first.hub.participantsOf sid = second.hub.participantsOf sid := by
    rw [BroadcastHub.participantsOf, BroadcastHub.participantsOf, BroadcastHub.peersOf,
      BroadcastHub.peersOf, same.peers]
  rw [BroadcastHub.broadcastToSession, BroadcastHub.broadcastToSession, ← members]
  apply List.flatMap_congr
  intro pid member
  obtain ⟨connection, registered, hSid⟩ := (placed.seated.peers sid pid).mp member
  rw [same.sendTo_writes placed ((placed.seated.atHome pid connection registered).symm.trans hSid)]

end Sends

section Moves

variable (same : SameIn home sid first second)

include same

/-- Both may write what says the same in the session. -/
theorem SameIn.emit {writes others : List Write} (told : toldIn sid writes = toldIn sid others) :
    SameIn home sid (first.emit writes) (second.emit others) :=
  { same with
    outbound := by
      show toldIn sid (first.outbound ++ writes) = toldIn sid (second.outbound ++ others)
      rw [toldIn_append, toldIn_append, same.outbound, told] }

/-- What is written for another session changes nothing. -/
theorem SameIn.emit_elsewhere {writes : List Write} (elsewhere : toldIn sid writes = []) :
    SameIn home sid (first.emit writes) second :=
  { same with
    outbound := by
      show toldIn sid (first.outbound ++ writes) = _
      rw [toldIn_append, elsewhere, List.append_nil, same.outbound] }

/-- A connection the session has moves on alike in both. -/
theorem SameIn.setContext (ctx : ConnectionContext)
    (known : (first.contextIn sid ctx.socket).isSome) :
    SameIn home sid (first.setContext ctx) (second.setContext ctx) :=
  { same with
    context := by
      intro socket
      rw [contextIn_setContext, contextIn_setContext, same.context]
    readyState := by
      intro socket there
      rw [contextIn_setContext] at there
      split at there
      · next own =>
          rw [own]
          exact same.readyState ctx.socket known
      · exact same.readyState socket there }

/-- The session does not see a connection of another one move on. -/
theorem SameIn.setContext_elsewhere (ctx : ConnectionContext) (elsewhere : ctx.sid ≠ sid)
    (unknown : first.contextIn sid ctx.socket = none) :
    SameIn home sid (first.setContext ctx) second := by
  have untouched : ∀ socket,
      (first.setContext ctx).contextIn sid socket = first.contextIn sid socket := by
    intro socket
    rw [contextIn_setContext, if_neg elsewhere]
    split
    · next own => rw [own, unknown]
    · rfl
  exact
    { same with
      context := fun socket => (untouched socket).trans (same.context socket)
      readyState := by
        intro socket there
        rw [untouched] at there
        exact same.readyState socket there }

/-- A socket changes its state alike in both. -/
theorem SameIn.setReadyState (socket : SocketId) (state : ReadyState) :
    SameIn home sid (first.setReadyState socket state) (second.setReadyState socket state) :=
  { same with
    readyState := by
      intro other there
      show Function.update first.readyState socket state other =
        Function.update second.readyState socket state other
      rw [Function.update_apply, Function.update_apply]
      split
      · rfl
      · exact same.readyState other there }

/-- The session does not see the state of a socket it has no connection on. -/
theorem SameIn.setReadyState_elsewhere {socket : SocketId}
    (unknown : first.contextIn sid socket = none) (state : ReadyState) :
    SameIn home sid (first.setReadyState socket state) second :=
  { same with
    readyState := by
      intro other there
      have another : other ≠ socket := by
        rintro rfl
        have present : (first.contextIn sid other).isSome := there
        rw [unknown] at present
        cases present
      show Function.update first.readyState socket state other = _
      rw [Function.update_of_ne another]
      exact same.readyState other there }

/-- The log is no part of what a session sees, so both may record what they like. -/
theorem SameIn.record (entry other : AuditRecordInput) :
    SameIn home sid (first.record entry) (second.record other) :=
  { same with }

/-- One of the two may record what the other does not. -/
theorem SameIn.record_left (entry : AuditRecordInput) :
    SameIn home sid (first.record entry) second :=
  { same with }

/-- Under a drawn id, too, both may record what they like. -/
theorem SameIn.recordGenerated (cfg : Config) (entry : EventId → AuditRecordInput) :
    SameIn home sid (first.recordGenerated cfg entry) (second.recordGenerated cfg entry) :=
  { same with }

/-- One of the two may draw an id and record under it alone. -/
theorem SameIn.recordGenerated_left (cfg : Config) (entry : EventId → AuditRecordInput) :
    SameIn home sid (first.recordGenerated cfg entry) second :=
  { same with }

/-- The hub after somebody of this session is unregistered. -/
theorem SameIn.unregister {pid : ParticipantId} (atHome : home pid = sid) :
    SameIn home sid { first with hub := first.hub.unregister pid }
      { second with hub := second.hub.unregister pid } :=
  { same with
    peers := by
      show (first.hub.unregister pid).bySession.get? sid =
        (second.hub.unregister pid).bySession.get? sid
      rw [BroadcastHub.bySession_unregister, BroadcastHub.bySession_unregister, same.peers,
        same.registration pid atHome]
    registration := by
      intro other otherHome
      show (first.hub.unregister pid).registration other =
        (second.hub.unregister pid).registration other
      rw [BroadcastHub.registration_unregister, BroadcastHub.registration_unregister,
        same.registration other otherHome] }

/-- Unregistering somebody at home elsewhere leaves the session's peers as they are. -/
theorem SameIn.unregister_elsewhere (seated : first.hub.Seated home) {pid : ParticipantId}
    (elsewhere : home pid ≠ sid) :
    SameIn home sid { first with hub := first.hub.unregister pid } second :=
  { same with
    peers := by
      show (first.hub.unregister pid).bySession.get? sid = _
      rw [BroadcastHub.bySession_unregister, if_neg, same.peers]
      intro here
      obtain ⟨connection, registered, hSid⟩ := Option.map_eq_some_iff.mp here
      exact elsewhere ((seated.atHome pid connection registered).symm.trans hSid)
    registration := by
      intro other otherHome
      show (first.hub.unregister pid).registration other = _
      rw [BroadcastHub.registration_unregister, if_neg, same.registration other otherHome]
      rintro rfl
      exact elsewhere otherHome }

end Moves

/-- A connection's context may be replaced by one of the same session. -/
theorem Placed.setContext (placed : first.Placed home) (ctx : ConnectionContext)
    (known : (first.contextIn ctx.sid ctx.socket).isSome) : (first.setContext ctx).Placed home where
  seated := placed.seated
  connected := by
    intro pid connection registered
    have there := placed.connected pid connection registered
    rw [contextIn_setContext]
    split
    · next own =>
        rw [own] at there
        obtain ⟨found, hFound⟩ := Option.isSome_iff_exists.mp there
        obtain ⟨old, hOld⟩ := Option.isSome_iff_exists.mp known
        obtain ⟨stored, hSid⟩ := contextIn_eq_some.mp hFound
        obtain ⟨stored', hSid'⟩ := contextIn_eq_some.mp hOld
        cases stored.symm.trans stored'
        rw [if_pos (hSid'.symm.trans hSid)]
        rfl
    · exact there

/-- Everybody else stays registered where it was. -/
theorem Placed.unregister (placed : first.Placed home) (pid : ParticipantId) :
    Placed home { first with hub := first.hub.unregister pid } where
  seated := placed.seated.unregister pid
  connected := fun other connection registered =>
    placed.connected other connection (BroadcastHub.registration_of_unregister registered).2

section Here

variable {ctx : ConnectionContext} {now : Int} (same : SameIn home sid first second)
  (here : ctx.sid = sid)

include same here

/-- Both rosters have the same entry for a participant. -/
theorem SameIn.entryOf (pid : ParticipantId) :
    first.entryOf ctx.sid pid = second.entryOf ctx.sid pid := by
  rw [Server.entryOf, Server.entryOf, SessionRegistry.entryOf, SessionRegistry.entryOf, here,
    same.session]

/-- A hello finds the same roster and leaves the same one. -/
theorem SameIn.helloSession (now : Int) (msg : HelloMessage) :
    first.helloSession now ctx msg = second.helloSession now ctx msg := by
  rw [Server.helloSession, Server.helloSession, SessionRegistry.getOrCreate,
    SessionRegistry.getOrCreate, here, same.session]
  cases second.registry.get sid with
  | none => rfl
  | some session => rfl

/-- A hello of somebody at home here is answered and announced alike. -/
theorem SameIn.hello {msg : HelloMessage} (atHome : home msg.pid = sid)
    (known : (first.contextIn sid ctx.socket).isSome)
    (placed : (handleHello now ctx msg first).Placed home) :
    SameIn home sid (handleHello now ctx msg first) (handleHello now ctx msg second) := by
  have session := same.helloSession here now msg
  have identified := same.setContext { ctx with pid := some msg.pid } known
  have registered : SameIn home sid (first.helloRegistered now ctx msg)
      (second.helloRegistered now ctx msg) :=
    { identified with
      session := by
        rw [helloRegistered, helloRegistered]
        dsimp only
        rw [SessionRegistry.get_save, SessionRegistry.get_save, helloSession_sid,
          helloSession_sid, here, if_pos rfl, if_pos rfl, session]
      peers := by
        show (first.hub.register _).bySession.get? sid = (second.hub.register _).bySession.get? sid
        rw [BroadcastHub.bySession_register, BroadcastHub.bySession_register,
          BroadcastHub.peersOf, BroadcastHub.peersOf, same.peers]
      registration := by
        intro pid hHome
        show (first.hub.register _).registration pid = (second.hub.register _).registration pid
        rw [BroadcastHub.registration_register, BroadcastHub.registration_register,
          same.registration pid hHome] }
  rw [handleHello_eq] at placed
  have seated : (first.helloRegistered now ctx msg).Placed home := ⟨placed.1, placed.2⟩
  have writes : first.helloWrites now ctx msg = second.helloWrites now ctx msg := by
    have welcomed := registered.sendTo_writes seated atHome
      (.welcome (toWelcome (first.helloSession now ctx msg) msg.pid 0 now))
    have joined := registered.broadcast_writes seated
      (joinMessage ctx.sid (helloed msg none) now) (some msg.pid)
    rw [← here] at joined
    rw [helloWrites, helloWrites, ← session, ← same.entryOf here]
    show (first.helloRegistered now ctx msg).hub.sendTo
      (first.helloRegistered now ctx msg).isOpen _ _ ++ _ = _
    rw [welcomed]
    congr 2
  rw [handleHello_eq, handleHello_eq, writes]
  exact registered.emit rfl

/-- Somebody at home here is removed and announced gone alike. -/
theorem SameIn.removeFromSession {pid : ParticipantId} (atHome : home pid = sid)
    (placed : first.Placed home) :
    SameIn home sid (removeFromSession now ctx pid first)
      (removeFromSession now ctx pid second) := by
  have unregistered := same.unregister atHome
  have departed : SameIn home sid (first.departed ctx pid) (second.departed ctx pid) :=
    { unregistered with
      session := by rw [departed_get, departed_get, same.session] }
  have left := unregistered.broadcast_writes (placed.unregister pid)
    (leaveMessage ctx.sid pid now) (some pid)
  have writes : first.departureWrites now ctx pid = second.departureWrites now ctx pid := by
    rw [← here] at left
    rw [departureWrites, departureWrites, same.entryOf here]
    congr 1
  rw [removeFromSession_eq, removeFromSession_eq, writes]
  exact departed.emit rfl

/-- A goodbye is the removal, after the connection is marked as left. -/
theorem SameIn.bye {msg : ByeMessage} (atHome : home msg.pid = sid)
    (known : (first.contextIn sid ctx.socket).isSome) (placed : first.Placed home) :
    SameIn home sid (handleBye now ctx msg first) (handleBye now ctx msg second) := by
  have leaving := same.setContext { ctx with leftExplicitly := true } known
  rw [← here] at known
  exact leaving.removeFromSession here atHome
    (placed.setContext { ctx with leftExplicitly := true } known)

end Here

section Here

variable {ctx : ConnectionContext} {now : Int} (same : SameIn home sid first second)

include same

/-- A movement reaches the same roster. -/
theorem SameIn.presence (event : SessionEvent) :
    SameIn home sid (handlePresence ctx event first) (handlePresence ctx event second) := by
  have session : (handlePresence ctx event first).registry.get sid =
      (handlePresence ctx event second).registry.get sid := by
    rw [handlePresence_get, handlePresence_get, same.session]
  obtain ⟨registry, hFirst⟩ := handlePresence_eq first ctx event
  obtain ⟨others, hSecond⟩ := handlePresence_eq second ctx event
  rw [hFirst, hSecond] at session ⊢
  exact { same with session }

/-- A ping is answered alike, and only to somebody at home here. -/
theorem SameIn.ping (atHome : ∀ pid, ctx.pid = some pid → home pid = sid)
    (placed : first.Placed home) (msg : PingMessage) :
    SameIn home sid (handlePing now ctx msg first) (handlePing now ctx msg second) := by
  rw [handlePing, handlePing]
  cases hp : ctx.pid with
  | none => exact same
  | some pid =>
      dsimp only
      rw [sendTo, sendTo, same.sendTo_writes placed (atHome pid hp)]
      exact same.emit rfl

/-- A report is acknowledged alike, whatever the two logs hold. -/
theorem SameIn.audit {msg : AuditMessage} (atHome : home msg.pid = sid)
    (placed : first.Placed home) :
    SameIn home sid (handleAuditMessage now ctx msg first)
      (handleAuditMessage now ctx msg second) := by
  have recorded := same.record (auditEntry msg ctx.sid now) (auditEntry msg ctx.sid now)
  have placed' : (first.record (auditEntry msg ctx.sid now)).Placed home := ⟨placed.1, placed.2⟩
  rw [handleAuditMessage, handleAuditMessage, recordAuditMessage, recordAuditMessage, sendTo,
    sendTo, recorded.sendTo_writes placed' atHome]
  exact recorded.emit rfl

/-- An error goes to the connection's own socket, open in both or in neither. -/
theorem SameIn.sendError (known : (first.contextIn sid ctx.socket).isSome) (code : ErrorCode)
    (detail : String) :
    SameIn home sid (sendError now ctx code detail first)
      (sendError now ctx code detail second) := by
  have opened : first.isOpen ctx.socket = second.isOpen ctx.socket := by
    rw [isOpen, isOpen, same.readyState _ known]
  rw [Copresence.sendError, Copresence.sendError, opened]
  split
  · exact same.emit rfl
  · exact same

end Here

section Elsewhere

variable {ctx : ConnectionContext} {now : Int} (same : SameIn home sid first second)
  (elsewhere : ctx.sid ≠ sid)

include same elsewhere

/-- A hello for another session is seen by nobody here. -/
theorem SameIn.hello_elsewhere {msg : HelloMessage} (atHome : home msg.pid ≠ sid)
    (unknown : first.contextIn sid ctx.socket = none) :
    SameIn home sid (handleHello now ctx msg first) second := by
  have identified := same.setContext_elsewhere { ctx with pid := some msg.pid }
    elsewhere unknown
  have registered : SameIn home sid (first.helloRegistered now ctx msg) second :=
    { identified with
      session := by
        rw [helloRegistered]
        dsimp only
        rw [SessionRegistry.get_save, helloSession_sid, if_neg (Ne.symm elsewhere),
          getOrCreate_other _ _ (Ne.symm elsewhere), same.session]
      peers := by
        show (first.hub.register _).bySession.get? sid = _
        rw [BroadcastHub.bySession_register, if_neg (Ne.symm elsewhere), same.peers]
      registration := by
        intro pid hHome
        show (first.hub.register _).registration pid = _
        rw [BroadcastHub.registration_register, if_neg, same.registration pid hHome]
        rintro rfl
        exact atHome hHome }
  rw [handleHello_eq]
  apply registered.emit_elsewhere
  rw [helloWrites, toldIn_append, toldIn_elsewhere fun write hw => message_of_mem_sendTo hw]
  · split
    · rfl
    · exact toldIn_elsewhere (fun write hw => message_of_mem_broadcast hw) elsewhere
  · show (first.helloSession now ctx msg).sid ≠ sid
    rwa [helloSession_sid]

/-- Somebody at home elsewhere is removed there, unseen from here. -/
theorem SameIn.removeFromSession_elsewhere {pid : ParticipantId} (atHome : home pid ≠ sid)
    (seated : first.hub.Seated home) :
    SameIn home sid (Copresence.removeFromSession now ctx pid first) second := by
  have unregistered := same.unregister_elsewhere seated atHome
  have departed : SameIn home sid (first.departed ctx pid) second :=
    { unregistered with
      session := by rw [departed_get, if_neg (Ne.symm elsewhere), same.session] }
  rw [removeFromSession_eq]
  apply departed.emit_elsewhere
  rw [departureWrites]
  split
  · exact toldIn_elsewhere (fun write hw => message_of_mem_broadcast hw) elsewhere
  · rfl

/-- A goodbye to another session is not heard here. -/
theorem SameIn.bye_elsewhere {msg : ByeMessage} (atHome : home msg.pid ≠ sid)
    (unknown : first.contextIn sid ctx.socket = none) (seated : first.hub.Seated home) :
    SameIn home sid (handleBye now ctx msg first) second :=
  (same.setContext_elsewhere { ctx with leftExplicitly := true } elsewhere
    unknown).removeFromSession_elsewhere elsewhere atHome seated

/-- A movement in another session is not seen here. -/
theorem SameIn.presence_elsewhere (event : SessionEvent) :
    SameIn home sid (handlePresence ctx event first) second := by
  have session : (handlePresence ctx event first).registry.get sid = second.registry.get sid := by
    rw [handlePresence_get, if_neg (Ne.symm elsewhere), same.session]
  obtain ⟨registry, hFirst⟩ := handlePresence_eq first ctx event
  rw [hFirst] at session ⊢
  exact { same with session }

/-- A pong for another session names that session. -/
theorem SameIn.ping_elsewhere (msg : PingMessage) :
    SameIn home sid (handlePing now ctx msg first) second := by
  rw [handlePing]
  cases ctx.pid with
  | none => exact same
  | some pid =>
      apply same.emit_elsewhere
      exact toldIn_elsewhere (fun write hw => message_of_mem_sendTo hw) elsewhere

/-- The acknowledgement of a report made elsewhere names that session. -/
theorem SameIn.audit_elsewhere (msg : AuditMessage) :
    SameIn home sid (handleAuditMessage now ctx msg first) second := by
  apply (same.record_left (auditEntry msg ctx.sid now)).emit_elsewhere
  exact toldIn_elsewhere (fun write hw => message_of_mem_sendTo hw) elsewhere

/-- An error on another session's connection names that session. -/
theorem SameIn.sendError_elsewhere (code : ErrorCode) (detail : String) :
    SameIn home sid (Copresence.sendError now ctx code detail first) second := by
  rw [Copresence.sendError]
  split
  · apply same.emit_elsewhere
    exact toldIn_elsewhere (fun write hw => congrArg Write.message (List.mem_singleton.mp hw))
      elsewhere
  · exact same

end Elsewhere

/-- A flush of every session says in this one what its own turn says. -/
theorem toldIn_tick (server : Server) (now : Int) :
    toldIn sid (server.scheduler.tick server.registry server.hub server.isOpen now).2.2 =
      match server.registry.get sid with
      | none => []
      | some session =>
        TickScheduler.tickWrites server.hub server.isOpen server.scheduler.settling
          (server.scheduler.seq + 1) now session := by
  have turn : ∀ session : Session,
      toldIn sid (TickScheduler.tickWrites server.hub server.isOpen server.scheduler.settling
        (server.scheduler.seq + 1) now session) =
        if session.sid = sid then
          TickScheduler.tickWrites server.hub server.isOpen server.scheduler.settling
            (server.scheduler.seq + 1) now session
        else [] := by
    intro session
    rw [TickScheduler.tickWrites]
    cases due : TickScheduler.tickPatch server.scheduler.settling (server.scheduler.seq + 1) now
      session with
    | none =>
        rw [ite_self]
        rfl
    | some patch =>
        have hSid : (OutboundMessage.patch patch).envelope.sid = session.sid :=
          (TickScheduler.tickPatch_envelope due).1
        dsimp only
        split
        · next own => exact toldIn_here (fun write hw => message_of_mem_broadcast hw) (hSid.trans own)
        · next other =>
            exact toldIn_elsewhere (fun write hw => message_of_mem_broadcast hw)
              fun h => other (hSid.symm.trans h)
  rw [TickScheduler.tick_writes, toldIn, List.filter_flatMap]
  cases hg : server.registry.get sid with
  | none =>
      rw [List.flatMap_eq_nil_iff]
      intro session hm
      have stored := SessionRegistry.mem_all_iff.mp hm
      show toldIn sid _ = []
      rw [turn, if_neg]
      rintro rfl
      rw [hg] at stored
      cases stored
  | some session =>
      obtain rfl := SessionRegistry.get_sid hg
      have listed := SessionRegistry.mem_all_iff.mpr hg
      have nodup : server.registry.all.Nodup := server.registry.all_sids_nodup.of_map
      rw [BroadcastHub.flatMap_of_unique nodup listed]
      · show toldIn session.sid _ = _
        rw [turn, if_pos rfl]
      · intro other ho different
        show toldIn session.sid _ = []
        rw [turn, if_neg]
        intro own
        have stored := SessionRegistry.mem_all_iff.mp ho
        rw [own, hg] at stored
        exact different (Option.some.inj stored).symm

section Timers

variable {now : Int} (same : SameIn home sid first second) (placed : first.Placed home)

include same placed

/-- A tick flushes the session's own roster to the session's own peers. -/
theorem SameIn.tick : SameIn home sid (first.tick now) (second.tick now) where
  session := by
    show (first.scheduler.tick _ _ _ now).2.1.get sid = (second.scheduler.tick _ _ _ now).2.1.get sid
    rw [TickScheduler.tick_get, TickScheduler.tick_get, same.session, same.seq]
  peers := same.peers
  registration := same.registration
  seq := congrArg (· + 1) same.seq
  settling := by
    show (first.scheduler.tick _ _ _ now).1.settling.get? sid =
      (second.scheduler.tick _ _ _ now).1.settling.get? sid
    rw [TickScheduler.tick_settling, TickScheduler.tick_settling, same.session, same.seq,
      same.settling]
  context := same.context
  readyState := same.readyState
  outbound := by
    have written : ∀ server : Server, (server.tick now).outbound = server.outbound ++
        (server.scheduler.tick server.registry server.hub server.isOpen now).2.2 := fun _ => rfl
    rw [written, written, toldIn_append, toldIn_append, same.outbound, toldIn_tick, toldIn_tick,
      ← same.session]
    cases hg : first.registry.get sid with
    | none => rfl
    | some session =>
        obtain rfl := SessionRegistry.get_sid hg
        dsimp only
        rw [TickScheduler.tickWrites_congr same.settling, same.seq, TickScheduler.tickWrites,
          TickScheduler.tickWrites]
        cases TickScheduler.tickPatch second.scheduler.settling (second.scheduler.seq + 1) now
          session with
        | none => rfl
        | some patch => exact congrArg _ (same.broadcast_writes placed (.patch patch) none)

/-- The reaper says the same of somebody it removed from this session. -/
theorem SameIn.announce (cfg : Config) {reaped : ReapedParticipant}
    (atHome : home reaped.pid = reaped.sid) (here : reaped.sid = sid) :
    SameIn home sid (Reaper.announce cfg now first reaped)
      (Reaper.announce cfg now second reaped) := by
  have noted := (same.unregister (atHome.trans here)).recordGenerated cfg
    (Reaper.inferredEnd reaped now)
  have unregistered := placed.unregister reaped.pid
  have told := noted.broadcast_writes ⟨unregistered.1, unregistered.2⟩
    (leaveMessage reaped.sid reaped.pid now) (some reaped.pid)
  rw [← here] at told
  exact noted.emit (congrArg (toldIn sid) told)

/-- Of somebody it removed from another session it says nothing here. -/
theorem SameIn.announce_elsewhere (cfg : Config) {reaped : ReapedParticipant}
    (atHome : home reaped.pid = reaped.sid) (elsewhere : reaped.sid ≠ sid) :
    SameIn home sid (Reaper.announce cfg now first reaped) second := by
  have gone : home reaped.pid ≠ sid := fun here => elsewhere (atHome.symm.trans here)
  apply ((same.unregister_elsewhere placed.seated gone).recordGenerated_left cfg
    (Reaper.inferredEnd reaped now)).emit_elsewhere
  exact toldIn_elsewhere (fun write hw => message_of_mem_broadcast hw) elsewhere

/-- Of all the reaper announces, this session's part is enough. -/
theorem SameIn.foldl_announce (cfg : Config) (now : Int) {reaped : List ReapedParticipant}
    (atHome : ∀ gone ∈ reaped, home gone.pid = gone.sid) :
    SameIn home sid (reaped.foldl (Reaper.announce cfg now) first)
      ((reaped.filter fun gone => gone.sid = sid).foldl (Reaper.announce cfg now) second) := by
  induction reaped generalizing first second with
  | nil => exact same
  | cons gone reaped ih =>
      have own := atHome gone List.mem_cons_self
      have later : ∀ other ∈ reaped, home other.pid = other.sid :=
        fun other listed => atHome other (List.mem_cons_of_mem _ listed)
      have unregistered := placed.unregister gone.pid
      have announced : (Reaper.announce cfg now first gone).Placed home :=
        ⟨unregistered.1, unregistered.2⟩
      rw [List.filter_cons, List.foldl_cons]
      by_cases here : gone.sid = sid
      · rw [if_pos (decide_eq_true here)]
        exact ih (same.announce placed cfg own here) announced later
      · rw [if_neg (by simpa using here)]
        exact ih (same.announce_elsewhere placed cfg own here) announced later

end Timers

/-- What the reaper finds in a session it reports under that session. -/
theorem sid_of_mem_reapSession {ttlMs now : Int} {session : Session} {gone : ReapedParticipant}
    (listed : gone ∈ (SessionRegistry.reapSession ttlMs now session).2) : gone.sid = session.sid := by
  rw [SessionRegistry.reapSession_eq] at listed
  obtain ⟨participant, _, rfl⟩ := List.mem_map.mp listed
  rfl

/-- The reaper removes from sessions that exist. -/
theorem get_of_mem_reapStale {registry : SessionRegistry} {ttlMs now : Int}
    {gone : ReapedParticipant} (listed : gone ∈ (registry.reapStale ttlMs now).2) :
    registry.get gone.sid ≠ none := by
  rw [SessionRegistry.reapStale, SessionRegistry.foldl_reapInto_snd, List.nil_append,
    List.mem_flatMap] at listed
  obtain ⟨session, hm, found⟩ := listed
  rw [sid_of_mem_reapSession found, SessionRegistry.mem_all_iff.mp hm]
  simp

/-- The reaper's report on one session is what it finds there. -/
theorem filter_reapStale (registry : SessionRegistry) (ttlMs now : Int) :
    ((registry.reapStale ttlMs now).2.filter fun gone => gone.sid = sid) =
      match registry.get sid with
      | none => []
      | some session => (SessionRegistry.reapSession ttlMs now session).2 := by
  have others : ∀ session : Session, session.sid ≠ sid →
      ((SessionRegistry.reapSession ttlMs now session).2.filter fun gone => gone.sid = sid) = [] := by
    intro session other
    rw [List.filter_eq_nil_iff]
    intro gone listed here
    exact other ((sid_of_mem_reapSession listed).symm.trans (of_decide_eq_true here))
  rw [SessionRegistry.reapStale, SessionRegistry.foldl_reapInto_snd, List.nil_append,
    List.filter_flatMap]
  cases hg : registry.get sid with
  | none =>
      rw [List.flatMap_eq_nil_iff]
      intro session hm
      apply others
      rintro rfl
      rw [SessionRegistry.mem_all_iff.mp hm] at hg
      cases hg
  | some session =>
      obtain rfl := SessionRegistry.get_sid hg
      rw [BroadcastHub.flatMap_of_unique registry.all_sids_nodup.of_map
        (SessionRegistry.mem_all_iff.mpr hg)]
      · rw [List.filter_eq_self]
        intro gone listed
        exact decide_eq_true (sid_of_mem_reapSession listed)
      · intro other ho different
        apply others
        intro own
        have stored := SessionRegistry.mem_all_iff.mp ho
        rw [own, hg] at stored
        exact different (Option.some.inj stored).symm

end SameIn

end Server

end Copresence
