import Copresence.Server.Audits

/-! Whom a step writes to: sockets that are open, and none that is on its way out. -/
namespace Copresence

namespace Server

/-- From one state to a later one no socket moved, and every write went to one
that is open. -/
structure Reaches (before after : Server) : Prop where
  readyState : after.readyState = before.readyState
  writes : ∃ writes, after.outbound = before.outbound ++ writes ∧
    ∀ write ∈ writes, before.isOpen write.socket = true

section Rules

variable {before between after : Server}

/-- What writes nothing reaches nobody. -/
theorem reaches_same (readyState : after.readyState = before.readyState)
    (outbound : after.outbound = before.outbound) : Reaches before after :=
  ⟨readyState, [], by rw [outbound, List.append_nil], by simp⟩

theorem reaches_refl (server : Server) : Reaches server server := reaches_same rfl rfl

/-- Two steps that reach open sockets only do so together. -/
theorem Reaches.trans (h : Reaches before between) (h' : Reaches between after) :
    Reaches before after := by
  obtain ⟨early, hEarly, earlyOpen⟩ := h.writes
  obtain ⟨late, hLate, lateOpen⟩ := h'.writes
  refine ⟨h'.readyState.trans h.readyState, early ++ late, ?_, ?_⟩
  · rw [hLate, hEarly, List.append_assoc]
  · intro write hw
    rcases List.mem_append.mp hw with hw | hw
    · exact earlyOpen write hw
    · have open' := lateOpen write hw
      rwa [isOpen, h.readyState] at open'

/-- Writes to open sockets reach open sockets only. -/
theorem reaches_emit (server : Server) {writes : List Write}
    (opened : ∀ write ∈ writes, server.isOpen write.socket = true) :
    Reaches server (server.emit writes) :=
  ⟨rfl, writes, rfl, opened⟩

/-- A participant is written to only on a socket that is open. -/
theorem isOpen_of_mem_sendTo {hub : BroadcastHub} {isOpen : SocketId → Bool}
    {pid : ParticipantId} {message : OutboundMessage} {write : Write}
    (h : write ∈ hub.sendTo isOpen pid message) : isOpen write.socket = true := by
  rw [BroadcastHub.sendTo] at h
  split at h
  · cases h
  · split at h
    · next opened =>
        rw [List.mem_singleton.mp h]
        exact opened
    · cases h

/-- A session is written to only on sockets that are open. -/
theorem isOpen_of_mem_broadcast {hub : BroadcastHub} {isOpen : SocketId → Bool} {sid : SessionId}
    {message : OutboundMessage} {exclude : Option ParticipantId} {write : Write}
    (h : write ∈ hub.broadcastToSession isOpen sid message exclude) :
    isOpen write.socket = true := by
  obtain ⟨pid, _, _, hs⟩ := BroadcastHub.mem_broadcastToSession.mp h
  exact isOpen_of_mem_sendTo hs

/-- A loop reaches open sockets only when each of its turns does. -/
theorem reaches_foldl {ι : Type} {turn : Server → ι → Server}
    (one : ∀ server item, Reaches server (turn server item)) (items : List ι) (server : Server) :
    Reaches server (items.foldl turn server) := by
  induction items generalizing server with
  | nil => exact reaches_refl server
  | cons item items ih => exact (one server item).trans (ih (turn server item))

end Rules

section Handlers

variable (cfg : Config) (now : Int) (ctx : ConnectionContext) (server : Server)

/-- A hello is answered and announced on open sockets only. -/
theorem reaches_hello (msg : HelloMessage) : Reaches server (handleHello now ctx msg server) := by
  rw [handleHello_eq]
  have registered : Reaches server (server.helloRegistered now ctx msg) := reaches_same rfl rfl
  apply registered.trans
  apply reaches_emit
  intro write hw
  rcases List.mem_append.mp hw with hw | hw
  · exact isOpen_of_mem_sendTo hw
  · split at hw
    · cases hw
    · exact isOpen_of_mem_broadcast hw

/-- A movement is written to nobody before the next tick. -/
theorem reaches_presence (event : SessionEvent) :
    Reaches server (handlePresence ctx event server) := by
  obtain ⟨registry, h⟩ := handlePresence_eq server ctx event
  rw [h]
  exact reaches_same rfl rfl

/-- A removal is announced on open sockets only. -/
theorem reaches_removeFromSession (pid : ParticipantId) :
    Reaches server (removeFromSession now ctx pid server) := by
  rw [removeFromSession_eq]
  have departed : Reaches server (server.departed ctx pid) := reaches_same rfl rfl
  apply departed.trans
  apply reaches_emit
  intro write hw
  unfold departureWrites at hw
  split at hw
  · exact isOpen_of_mem_broadcast hw
  · cases hw

/-- A report is acknowledged on an open socket only. -/
theorem reaches_auditMessage (msg : AuditMessage) :
    Reaches server (handleAuditMessage now ctx msg server) := by
  have noted : Reaches server (server.record (auditEntry msg ctx.sid now)) := reaches_same rfl rfl
  exact noted.trans (reaches_emit _ fun _ => isOpen_of_mem_sendTo)

/-- Every handler writes to open sockets only. -/
theorem reaches_dispatch (msg : InboundMessage) :
    Reaches server (dispatch now ctx server msg) := by
  cases msg with
  | hello msg => exact reaches_hello now ctx server msg
  | cursor msg => exact reaches_presence ctx server (.cursor msg)
  | scroll msg => exact reaches_presence ctx server (.scroll msg)
  | ack msg => exact reaches_refl server
  | ping msg =>
      show Reaches server (handlePing now ctx msg server)
      rw [handlePing]
      split
      · exact reaches_refl server
      · exact reaches_emit _ fun _ => isOpen_of_mem_sendTo
  | bye msg =>
      have left : Reaches server (server.setContext { ctx with leftExplicitly := true }) :=
        reaches_same rfl rfl
      exact left.trans (reaches_removeFromSession now ctx _ msg.pid)
  | audit msg => exact reaches_auditMessage now ctx server msg

/-- An error, too, is written only while its socket is open. -/
theorem reaches_realtimeMessage (frame : RawFrame) :
    Reaches server (handleRealtimeMessage now ctx frame server) := by
  have guarded : Reaches server (server.setContext (afterGuard ctx frame)) := reaches_same rfl rfl
  unfold handleRealtimeMessage
  dsimp only
  cases judge ctx frame with
  | refused code detail =>
      show Reaches server (sendError now ctx code detail server)
      rw [sendError]
      split
      · next opened =>
          apply reaches_emit
          intro write hw
          rw [List.mem_singleton.mp hw]
          exact opened
      · exact reaches_refl server
  | unordered => exact guarded
  | accepted msg => exact guarded.trans (reaches_dispatch now _ _ msg)

/-- A close writes to others, never to the socket that closed. -/
theorem reaches_disconnect : Reaches server (handleDisconnect cfg now ctx server) := by
  rw [handleDisconnect]
  split
  · exact reaches_refl server
  · next pid _ =>
      refine Reaches.trans ?_ (reaches_removeFromSession now ctx _ pid)
      split
      · exact reaches_refl server
      · exact reaches_same rfl rfl

/-- A tick writes its patches to open sockets only. -/
theorem reaches_tick : Reaches server (server.tick now) := by
  refine ⟨rfl, (server.scheduler.tick server.registry server.hub server.isOpen now).2.2, rfl, ?_⟩
  intro write hw
  rw [TickScheduler.tick_writes] at hw
  obtain ⟨session, _, hw⟩ := List.mem_flatMap.mp hw
  unfold TickScheduler.tickWrites at hw
  split at hw
  · cases hw
  · exact isOpen_of_mem_broadcast hw

/-- The reaper announces its removals on open sockets only. -/
theorem reaches_reap : Reaches server (Reaper.sweep cfg now server) := by
  have swept : Reaches server
      { server with registry := (server.registry.reapStale cfg.ttlMs now).1 } := reaches_same rfl rfl
  apply swept.trans
  apply reaches_foldl
  intro server gone
  have noted : Reaches server (Server.recordGenerated
      { server with hub := server.hub.unregister gone.pid } cfg (Reaper.inferredEnd gone now)) :=
    reaches_same rfl rfl
  exact noted.trans (reaches_emit _ fun _ => isOpen_of_mem_broadcast)

/-- The reconciler writes to nobody. -/
theorem reaches_reconcile : Reaches server (AuditReconciler.sweep cfg now server) := by
  rw [AuditReconciler.sweep]
  apply reaches_foldl
  intro server start
  exact reaches_same rfl rfl

/-- A beacon is answered by no message. -/
theorem reaches_beacon (frame : RawFrame) : Reaches server (beacon now frame server).1 := by
  rw [beacon]
  split
  · exact reaches_refl server
  · exact reaches_same rfl rfl
  · exact reaches_refl server

end Handlers

end Server

end Copresence
