import Copresence.Server.Run
import Copresence.Services.ReapStale

/-! What each handler does to one roster entry, one registration, one
context and the audit history. Later modules use these equations and do not
unfold the handlers. -/
namespace Copresence

open Collections

namespace Server

/-- Every session in the registry is well formed. -/
def WellFormed (server : Server) : Prop := server.registry.WellFormed

variable (server : Server) (cfg : Config) (now : Int) (ctx : ConnectionContext)

/-- Creating a session brings nobody in. -/
theorem getOrCreate_entryOf (registry : SessionRegistry) (sid : SessionId) (now : Int)
    (pid : ParticipantId) :
    (registry.getOrCreate sid now).1.entryOf pid = registry.entryOf sid pid := by
  rw [SessionRegistry.getOrCreate]
  split
  · next session h => rw [SessionRegistry.entryOf_of_get h]
  · next h => rw [SessionRegistry.entryOf_of_get_none h]; rfl

theorem getOrCreate_sid (registry : SessionRegistry) (sid : SessionId) (now : Int) :
    (registry.getOrCreate sid now).1.sid = sid := by
  rw [SessionRegistry.getOrCreate]
  split
  · next session h => exact SessionRegistry.get_sid h
  · rfl

/-- The registry after `getOrCreate` differs only by a new empty session. -/
theorem getOrCreate_other (registry : SessionRegistry) {sid other : SessionId} (now : Int)
    (h : other ≠ sid) : (registry.getOrCreate sid now).2.get other = registry.get other := by
  rw [SessionRegistry.getOrCreate]
  split
  · rfl
  · rw [SessionRegistry.get_save, createSession_sid, if_neg h]

/-- A session that is created is well formed under its own id. -/
theorem getOrCreate_wellFormed {registry : SessionRegistry} (wf : registry.WellFormed)
    (sid : SessionId) (now : Int) :
    (registry.getOrCreate sid now).1.WellFormed ∧
      (registry.getOrCreate sid now).2.WellFormed := by
  rw [SessionRegistry.getOrCreate]
  split
  · next session h => exact ⟨wf sid session h, wf⟩
  · have created := Session.WellFormed.createSession sid now
    exact ⟨created, wf.save created⟩

variable (msg : HelloMessage)

/-- The session a hello leaves behind. -/
def helloSession : Session :=
  (applyEvent (server.registry.getOrCreate ctx.sid now).1 (.hello msg)).state

/-- The services and context after a hello, before anything is sent. -/
def helloRegistered : Server :=
  { server.setContext { ctx with pid := some msg.pid } with
    registry := (server.registry.getOrCreate ctx.sid now).2.save (server.helloSession now ctx msg)
    hub := server.hub.register { pid := msg.pid, sid := ctx.sid, socket := ctx.socket } }

/-- A welcome to the newcomer, and a join to the others if it is one. -/
def helloWrites : List Write :=
  (server.helloRegistered now ctx msg).hub.sendTo server.isOpen msg.pid
      (.welcome (toWelcome (server.helloSession now ctx msg) msg.pid 0 now)) ++
    if (server.entryOf ctx.sid msg.pid).isSome then []
    else
      (server.helloRegistered now ctx msg).hub.broadcastToSession server.isOpen ctx.sid
        (joinMessage ctx.sid (helloed msg none) now) (some msg.pid)

@[simp] theorem helloSession_sid : (server.helloSession now ctx msg).sid = ctx.sid := by
  rw [helloSession, applyEvent_sid, getOrCreate_sid]

/-- `handleHello` as one update of the services and one batch of writes. -/
theorem handleHello_eq :
    handleHello now ctx msg server =
      (server.helloRegistered now ctx msg).emit (server.helloWrites now ctx msg) := by
  have present : (server.registry.getOrCreate ctx.sid now).1.participants.has msg.pid =
      (server.entryOf ctx.sid msg.pid).isSome := by
    rw [← Session.entryOf_isSome, getOrCreate_entryOf]
    rfl
  have stored := applyEvent_hello_get? (server.registry.getOrCreate ctx.sid now).1 msg msg.pid
  rw [if_pos rfl] at stored
  rw [handleHello, helloWrites]
  dsimp only
  rw [present]
  by_cases hr : (server.entryOf ctx.sid msg.pid).isSome
  · simp only [hr, if_true, List.append_nil]
    rfl
  · have newcomer : (server.registry.getOrCreate ctx.sid now).1.participants.get? msg.pid =
        none := by
      rw [← JsMap.has_eq_false_iff, present]
      simpa using hr
    rw [newcomer] at stored
    simp only [hr, Bool.false_eq_true, if_false, stored]
    simp only [emit, broadcastToSession, sendTo, List.append_assoc]
    rfl

/-- The session a hello answers with: the newcomer's entry and all the old ones. -/
theorem helloSession_entryOf (wf : server.WellFormed) (pid : ParticipantId) :
    (server.helloSession now ctx msg).entryOf pid =
      if pid = msg.pid then some (helloEntry msg (server.entryOf ctx.sid pid))
      else server.entryOf ctx.sid pid := by
  have found := (getOrCreate_wellFormed wf ctx.sid now).1
  rw [helloSession, applyEvent_hello_entryOf]
  by_cases hp : pid = msg.pid
  · subst hp
    rw [if_pos rfl, if_pos rfl, found.dirtyOf_eq, ← Session.entryOf_map_participant,
      getOrCreate_entryOf]
    rfl
  · rw [if_neg hp, if_neg hp, getOrCreate_entryOf]
    rfl

theorem helloSession_wellFormed (wf : server.WellFormed) :
    (server.helloSession now ctx msg).WellFormed :=
  (getOrCreate_wellFormed wf ctx.sid now).1.applyEvent (.hello msg)

theorem handleHello_wellFormed (wf : server.WellFormed) :
    (handleHello now ctx msg server).WellFormed := by
  rw [handleHello_eq]
  exact (getOrCreate_wellFormed wf ctx.sid now).2.save (helloSession_wellFormed server now ctx msg wf)

/-- A hello creates or refreshes exactly one roster entry. -/
theorem handleHello_entryOf (wf : server.WellFormed) (sid : SessionId) (pid : ParticipantId) :
    (handleHello now ctx msg server).entryOf sid pid =
      if sid = ctx.sid ∧ pid = msg.pid then some (helloEntry msg (server.entryOf sid pid))
      else server.entryOf sid pid := by
  rw [handleHello_eq, entryOf, emit_registry, helloRegistered, SessionRegistry.entryOf_save,
    helloSession_sid]
  by_cases hs : sid = ctx.sid
  · subst hs
    rw [if_pos rfl, helloSession_entryOf _ _ _ _ wf]
    simp only [true_and]
  · rw [if_neg hs, if_neg (fun h => hs h.1), SessionRegistry.entryOf, getOrCreate_other _ _ hs]
    rfl

/-- A hello registers its participant on its socket and nobody else. -/
theorem handleHello_registration (pid : ParticipantId) :
    (handleHello now ctx msg server).hub.registration pid =
      if pid = msg.pid then some { pid := msg.pid, sid := ctx.sid, socket := ctx.socket }
      else server.hub.registration pid := by
  rw [handleHello_eq]
  exact BroadcastHub.registration_register _ _ _

/-- A hello introduces its own connection and no other. -/
theorem handleHello_contexts (socket : SocketId) :
    (handleHello now ctx msg server).contexts socket =
      if socket = ctx.socket then some { ctx with pid := some msg.pid }
      else server.contexts socket := by
  rw [handleHello_eq]
  exact server.setContext_contexts _ _

variable (pid : ParticipantId)

/-- The services after a departure, before anything is sent. -/
def departed : Server :=
  { server with
    hub := server.hub.unregister pid
    registry :=
      match server.registry.get ctx.sid with
      | none => server.registry
      | some session =>
        if session.participants.has pid then server.registry.save (removeParticipant session pid)
        else server.registry }

/-- A leave to whoever is left, if the participant was there. -/
def departureWrites : List Write :=
  if (server.entryOf ctx.sid pid).isSome then
    (server.hub.unregister pid).broadcastToSession server.isOpen ctx.sid
      (leaveMessage ctx.sid pid now) (some pid)
  else []

/-- A removal takes away what there is and writes what it says of that. -/
theorem removeFromSession_eq :
    removeFromSession now ctx pid server =
      (server.departed ctx pid).emit (server.departureWrites now ctx pid) := by
  rw [removeFromSession, departed, departureWrites]
  dsimp only
  cases hg : server.registry.get ctx.sid with
  | none => simp [entryOf, SessionRegistry.entryOf_of_get_none hg, emit]
  | some session =>
      rw [entryOf, SessionRegistry.entryOf_of_get hg, Session.entryOf_isSome]
      dsimp only
      split
      · rfl
      · simp [emit]

/-- Only the session of the removed participant is written. -/
theorem departed_get (sid : SessionId) :
    (server.departed ctx pid).registry.get sid =
      if sid = ctx.sid then (server.registry.get sid).map fun session => removeParticipant session pid
      else server.registry.get sid := by
  rw [departed]
  dsimp only
  split
  · next absent => exact SessionRegistry.get_rewrite_of_none absent sid
  · next session h =>
      split
      · exact SessionRegistry.get_save_rewrite (fun session => removeParticipant session pid) h
          (removeParticipant_sid session pid) sid
      · next hp =>
          split
          · next hs => rw [hs, h, Option.map_some, removeParticipant, if_neg hp]
          · rfl

/-- A removal takes one participant out of one roster. -/
theorem removeFromSession_entryOf (sid : SessionId) (other : ParticipantId) :
    (removeFromSession now ctx pid server).entryOf sid other =
      if sid = ctx.sid ∧ other = pid then none else server.entryOf sid other := by
  rw [removeFromSession_eq, entryOf, emit_registry, ite_and]
  apply SessionRegistry.entryOf_rewritten (server.departed_get ctx pid)
    (fun entry => if other = pid then none else entry)
  · exact fun session => removeParticipant_entryOf session pid other
  · exact ite_self none

theorem removeFromSession_wellFormed (wf : server.WellFormed) :
    (removeFromSession now ctx pid server).WellFormed := by
  rw [removeFromSession_eq]
  exact SessionRegistry.WellFormed.rewritten (server.departed_get ctx pid) wf
    fun _ wf => wf.removeParticipant pid

/-- A removal unregisters its participant and nobody else. -/
theorem removeFromSession_registration (other : ParticipantId) :
    (removeFromSession now ctx pid server).hub.registration other =
      if other = pid then none else server.hub.registration other := by
  rw [removeFromSession_eq]
  exact BroadcastHub.registration_unregister _ _ _

@[simp] theorem removeFromSession_contexts :
    (removeFromSession now ctx pid server).contexts = server.contexts := by
  rw [removeFromSession_eq]
  rfl

@[simp] theorem removeFromSession_readyState :
    (removeFromSession now ctx pid server).readyState = server.readyState := by
  rw [removeFromSession_eq]
  rfl

@[simp] theorem removeFromSession_scheduler :
    (removeFromSession now ctx pid server).scheduler = server.scheduler := by
  rw [removeFromSession_eq]
  rfl

variable (event : SessionEvent)

/-- Presence frames write nothing but the registry. -/
theorem handlePresence_eq :
    ∃ registry, handlePresence ctx event server = { server with registry } := by
  rw [handlePresence]
  split
  · exact ⟨server.registry, rfl⟩
  · exact ⟨_, rfl⟩

/-- A movement reaches the session of its connection alone. -/
theorem handlePresence_get (sid : SessionId) :
    (handlePresence ctx event server).registry.get sid =
      if sid = ctx.sid then
        (server.registry.get sid).map fun session => (applyEvent session event).state
      else server.registry.get sid := by
  rw [handlePresence]
  split
  · next absent => exact SessionRegistry.get_rewrite_of_none absent sid
  · next session h =>
      exact SessionRegistry.get_save_rewrite (fun session => (applyEvent session event).state) h
        (applyEvent_sid session event) sid

/-- A presence frame rewrites one roster entry at most. -/
theorem handlePresence_entryOf {event : SessionEvent} (isPresence : event.IsPresence)
    (sid : SessionId) (pid : ParticipantId) :
    (handlePresence ctx event server).entryOf sid pid =
      if sid = ctx.sid ∧ pid = event.pid then (server.entryOf sid pid).map event.observe
      else server.entryOf sid pid := by
  rw [ite_and]
  apply SessionRegistry.entryOf_rewritten (handlePresence_get server ctx event)
    (fun entry => if pid = event.pid then entry.map event.observe else entry)
  · exact fun session => applyEvent_presence_entryOf isPresence session pid
  · exact ite_self none

theorem handlePresence_wellFormed (wf : server.WellFormed) :
    (handlePresence ctx event server).WellFormed :=
  SessionRegistry.WellFormed.rewritten (handlePresence_get server ctx event) wf
    fun _ wf => wf.applyEvent event

end Server

end Copresence
