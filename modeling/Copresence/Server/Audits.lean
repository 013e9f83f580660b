import Copresence.Server.Outbound

/-! What a step does to the audit log, and what an `audit.ack` promises. -/
namespace Copresence

namespace Server

/-- From one state to a later one the log took exactly the entries the history
lists, and every acknowledgement sent is of an entry already listed. -/
structure Audits (before after : Server) : Prop where
  recorded : ∃ added, after.recorded = before.recorded ++ added ∧
    after.auditLog = added.foldl (fun log entry => (log.record entry).1) before.auditLog
  acks : ∃ writes, after.outbound = before.outbound ++ writes ∧
    ∀ write ∈ writes, ∀ ack, write.message = .auditAck ack →
      ∃ entry ∈ after.recorded, entry.eventId = ack.eventId

section Rules

variable {before between after : Server}

/-- What writes neither the log nor to any socket keeps every promise. -/
theorem audits_same (recorded : after.recorded = before.recorded)
    (auditLog : after.auditLog = before.auditLog) (outbound : after.outbound = before.outbound) :
    Audits before after :=
  ⟨⟨[], by rw [recorded, List.append_nil], auditLog⟩,
    [], by rw [outbound, List.append_nil], by simp⟩

theorem audits_refl (server : Server) : Audits server server := audits_same rfl rfl rfl

/-- Two steps that keep the promises keep them together. -/
theorem Audits.trans (h : Audits before between) (h' : Audits between after) :
    Audits before after := by
  obtain ⟨early, hEarly, earlyLog⟩ := h.recorded
  obtain ⟨late, hLate, lateLog⟩ := h'.recorded
  obtain ⟨earlyWrites, hEarlyWrites, earlyAcks⟩ := h.acks
  obtain ⟨lateWrites, hLateWrites, lateAcks⟩ := h'.acks
  constructor
  · refine ⟨early ++ late, by rw [hLate, hEarly, List.append_assoc], ?_⟩
    rw [List.foldl_append, ← earlyLog, lateLog]
  · refine ⟨earlyWrites ++ lateWrites, by rw [hLateWrites, hEarlyWrites, List.append_assoc], ?_⟩
    intro write hw ack ha
    rcases List.mem_append.mp hw with hw | hw
    · obtain ⟨entry, he, hId⟩ := earlyAcks write hw ack ha
      refine ⟨entry, ?_, hId⟩
      rw [hLate]
      exact List.mem_append_left _ he
    · exact lateAcks write hw ack ha

/-- Writes that acknowledge only what is recorded already. -/
theorem audits_emit (server : Server) {writes : List Write}
    (answered : ∀ write ∈ writes, ∀ ack, write.message = .auditAck ack →
      ∃ entry ∈ server.recorded, entry.eventId = ack.eventId) :
    Audits server (server.emit writes) :=
  ⟨⟨[], (List.append_nil _).symm, rfl⟩, writes, rfl, answered⟩

/-- A broadcast that is no acknowledgement promises nothing. -/
theorem audits_broadcast (server : Server) (sid : SessionId) {message : OutboundMessage}
    (exclude : Option ParticipantId) (other : ∀ ack, message ≠ .auditAck ack) :
    Audits server (server.broadcastToSession sid message exclude) := by
  apply audits_emit
  intro write hw ack ha
  rw [message_of_mem_broadcast hw] at ha
  exact absurd ha (other ack)

/-- A message to one participant that is no acknowledgement promises nothing. -/
theorem audits_sendTo (server : Server) (pid : ParticipantId) {message : OutboundMessage}
    (other : ∀ ack, message ≠ .auditAck ack) : Audits server (server.sendTo pid message) := by
  apply audits_emit
  intro write hw ack ha
  rw [message_of_mem_sendTo hw] at ha
  exact absurd ha (other ack)

/-- A record adds to the log and takes nothing from it. -/
theorem audits_record (server : Server) (entry : AuditRecordInput) :
    Audits server (server.record entry) :=
  ⟨⟨[entry], rfl, rfl⟩, [], (List.append_nil _).symm, by simp⟩

/-- A record under a drawn id adds to the log and takes nothing from it. -/
theorem audits_recordGenerated (cfg : Config) (server : Server)
    (entry : EventId → AuditRecordInput) :
    Audits server (server.recordGenerated cfg entry) :=
  ⟨⟨[_], rfl, rfl⟩, [], (List.append_nil _).symm, by simp⟩

/-- A loop keeps the promises when each of its turns does. -/
theorem audits_foldl {ι : Type} {turn : Server → ι → Server}
    (one : ∀ server item, Audits server (turn server item)) (items : List ι) (server : Server) :
    Audits server (items.foldl turn server) := by
  induction items generalizing server with
  | nil => exact audits_refl server
  | cons item items ih => exact (one server item).trans (ih (turn server item))

end Rules

section Handlers

variable (cfg : Config) (now : Int) (ctx : ConnectionContext) (server : Server)

/-- A hello records nothing and acknowledges nothing. -/
theorem audits_hello (msg : HelloMessage) : Audits server (handleHello now ctx msg server) := by
  rw [handleHello_eq]
  have registered : Audits server (server.helloRegistered now ctx msg) := audits_same rfl rfl rfl
  apply registered.trans
  apply audits_emit
  intro write hw ack ha
  rcases List.mem_append.mp hw with hw | hw
  · rw [message_of_mem_sendTo hw] at ha
    cases ha
  · split at hw
    · cases hw
    · rw [message_of_mem_broadcast hw] at ha
      cases ha

/-- A movement records nothing and acknowledges nothing. -/
theorem audits_presence (event : SessionEvent) :
    Audits server (handlePresence ctx event server) := by
  obtain ⟨registry, h⟩ := handlePresence_eq server ctx event
  rw [h]
  exact audits_same rfl rfl rfl

/-- A removal is announced, which acknowledges nothing. -/
theorem audits_removeFromSession (pid : ParticipantId) :
    Audits server (removeFromSession now ctx pid server) := by
  rw [removeFromSession_eq]
  have departed : Audits server (server.departed ctx pid) := audits_same rfl rfl rfl
  apply departed.trans
  apply audits_emit
  intro write hw ack ha
  unfold departureWrites at hw
  split at hw
  · rw [message_of_mem_broadcast hw] at ha
    cases ha
  · cases hw

/-- The one handler that acknowledges does so after it has recorded. -/
theorem audits_auditMessage (msg : AuditMessage) :
    Audits server (handleAuditMessage now ctx msg server) := by
  have noted := audits_record server (auditEntry msg ctx.sid now)
  apply noted.trans
  apply audits_emit
  intro write hw ack ha
  rw [message_of_mem_sendTo hw] at ha
  refine ⟨auditEntry msg ctx.sid now, ?_, ?_⟩
  · exact List.mem_append_right _ (List.mem_singleton_self _)
  · rw [← OutboundMessage.auditAck.inj ha]
    rfl

/-- Every message that is dispatched keeps the promises, a report by being
recorded first. -/
theorem audits_dispatch (msg : InboundMessage) : Audits server (dispatch now ctx server msg) := by
  cases msg with
  | hello msg => exact audits_hello now ctx server msg
  | cursor msg => exact audits_presence ctx server (.cursor msg)
  | scroll msg => exact audits_presence ctx server (.scroll msg)
  | ack msg => exact audits_refl server
  | ping msg =>
      show Audits server (handlePing now ctx msg server)
      rw [handlePing]
      split
      · exact audits_refl server
      · exact audits_sendTo server _ (by simp)
  | bye msg =>
      have left : Audits server (server.setContext { ctx with leftExplicitly := true }) :=
        audits_same rfl rfl rfl
      exact left.trans (audits_removeFromSession now ctx _ msg.pid)
  | audit msg => exact audits_auditMessage now ctx server msg

/-- A refused frame is answered with an error, which acknowledges nothing. -/
theorem audits_realtimeMessage (frame : RawFrame) :
    Audits server (handleRealtimeMessage now ctx frame server) := by
  have guarded : Audits server (server.setContext (afterGuard ctx frame)) :=
    audits_same rfl rfl rfl
  unfold handleRealtimeMessage
  dsimp only
  cases judge ctx frame with
  | refused code detail =>
      show Audits server (sendError now ctx code detail server)
      rw [sendError]
      split
      · apply audits_emit
        intro write hw ack ha
        rw [List.mem_singleton.mp hw] at ha
        cases ha
      · exact audits_refl server
  | unordered => exact guarded
  | accepted msg => exact guarded.trans (audits_dispatch now _ _ msg)

/-- A close may record the end of a session, which acknowledges nothing. -/
theorem audits_disconnect : Audits server (handleDisconnect cfg now ctx server) := by
  rw [handleDisconnect]
  split
  · exact audits_refl server
  · next pid _ =>
      refine Audits.trans ?_ (audits_removeFromSession now ctx _ pid)
      split
      · exact audits_refl server
      · exact audits_recordGenerated cfg server _

/-- A tick sends patches, which acknowledge nothing. -/
theorem audits_tick : Audits server (server.tick now) := by
  refine ⟨⟨[], (List.append_nil _).symm, rfl⟩,
    (server.scheduler.tick server.registry server.hub server.isOpen now).2.2, rfl, ?_⟩
  intro write hw ack ha
  rw [TickScheduler.tick_writes] at hw
  obtain ⟨session, _, hw⟩ := List.mem_flatMap.mp hw
  unfold TickScheduler.tickWrites at hw
  split at hw
  · cases hw
  · rw [message_of_mem_broadcast hw] at ha
    cases ha

/-- The reaper records what it removed. -/
theorem audits_reap : Audits server (Reaper.sweep cfg now server) := by
  have swept : Audits server
      { server with registry := (server.registry.reapStale cfg.ttlMs now).1 } :=
    audits_same rfl rfl rfl
  apply swept.trans
  apply audits_foldl
  intro server gone
  have unregistered : Audits server { server with hub := server.hub.unregister gone.pid } :=
    audits_same rfl rfl rfl
  exact (unregistered.trans (audits_recordGenerated cfg _ _)).trans
    (audits_broadcast _ _ _ (by simp [leaveMessage]))

/-- The reconciler only adds to the log. -/
theorem audits_reconcile : Audits server (AuditReconciler.sweep cfg now server) :=
  audits_foldl (fun server _ => audits_recordGenerated cfg server _) _ server

/-- A beacon is recorded without an acknowledgement. -/
theorem audits_beacon (frame : RawFrame) : Audits server (beacon now frame server).1 := by
  rw [beacon]
  split
  · exact audits_refl server
  · exact audits_record server _
  · exact audits_refl server

end Handlers

/-- Every step keeps what acknowledgements promised. -/
theorem step_audits (cfg : Config) (server : Server) (stamped : Stamped) :
    Audits server (server.step cfg stamped) := by
  rw [step]
  split
  · rw [Server.connect]
    split
    · exact audits_refl server
    · exact audits_same rfl rfl rfl
  · next socket frame _ =>
      rw [message]
      split
      · exact audits_refl server
      · next ctx _ => exact audits_realtimeMessage stamped.time ctx server frame
  · rw [Server.closing]
    split
    · exact audits_same rfl rfl rfl
    · exact audits_refl server
  · next socket _ =>
      rw [Server.close]
      split
      · exact audits_refl server
      · next ctx _ =>
          have closed : Audits server (server.setReadyState socket .closed) :=
            audits_same rfl rfl rfl
          exact closed.trans (audits_disconnect cfg stamped.time ctx _)
  · exact audits_tick stamped.time server
  · exact audits_reap cfg stamped.time server
  · exact audits_reconcile cfg stamped.time server
  · next frame _ => exact audits_beacon stamped.time server frame

/-- The log contains a report of this event. -/
def Reported (server : Server) (eventId : EventId) : Prop :=
  ∃ entry ∈ server.recorded, entry.eventId = eventId ∧ server.auditLog.Holds entry

/-- Every entry recorded is in the log, and every acknowledgement sent is of
a reported event. -/
structure Audited (server : Server) : Prop where
  held : ∀ entry ∈ server.recorded, server.auditLog.Holds entry
  acked : ∀ write ∈ server.outbound, ∀ ack, write.message = .auditAck ack →
    server.Reported ack.eventId

theorem initial_audited : Audited initial := ⟨by simp [initial], by simp [initial]⟩

variable {before after : Server} {eventId : EventId}

/-- What the log holds before a step, it holds after it. -/
theorem Audits.holds (h : Audits before after) {entry : AuditRecordInput}
    (held : before.auditLog.Holds entry) : after.auditLog.Holds entry := by
  obtain ⟨added, _, hLog⟩ := h.recorded
  rw [hLog]
  exact held.foldl added

/-- What has been reported stays reported. -/
theorem Audits.reported (h : Audits before after) (reported : before.Reported eventId) :
    after.Reported eventId := by
  obtain ⟨entry, hm, hId, held⟩ := reported
  obtain ⟨added, hAdded, _⟩ := h.recorded
  refine ⟨entry, ?_, hId, h.holds held⟩
  rw [hAdded]
  exact List.mem_append_left _ hm

/-- If every acknowledged report is in the log before a step, it is after it. -/
theorem Audits.audited (h : Audits before after) (audited : Audited before) : Audited after := by
  have held : ∀ entry ∈ after.recorded, after.auditLog.Holds entry := by
    intro entry hm
    obtain ⟨added, hAdded, hLog⟩ := h.recorded
    rw [hAdded] at hm
    rcases List.mem_append.mp hm with hm | hm
    · exact h.holds (audited.held entry hm)
    · rw [hLog]
      exact AuditLog.holds_of_mem_foldl hm
  refine ⟨held, ?_⟩
  intro write hw ack ha
  obtain ⟨writes, hWrites, acks⟩ := h.acks
  rw [hWrites] at hw
  rcases List.mem_append.mp hw with hw | hw
  · exact h.reported (audited.acked write hw ack ha)
  · obtain ⟨entry, hm, hId⟩ := acks write hw ack ha
    exact ⟨entry, hm, hId, held entry hm⟩

/-- An event whose beacon is answered with 200 is in the log from then on. -/
theorem beacon_reported {now : Int} {msg : AuditMessage} {server : Server}
    (h : (beacon now (.parsed (.audit msg)) server).2 = .ok eventId) :
    (beacon now (.parsed (.audit msg)) server).1.Reported msg.eventId := by
  unfold beacon at h ⊢
  cases hd : decodeInbound (.parsed (.audit msg)) with
  | error error =>
      rw [hd] at h
      cases h
  | ok decoded =>
      obtain ⟨hFrame, _⟩ := decodeInbound_ok_iff.mp hd
      rw [← RawFrame.parsed.inj hFrame]
      refine ⟨auditEntry msg msg.sid now, ?_, rfl, AuditLog.record_holds _ _⟩
      exact List.mem_append_right _ (List.mem_singleton_self _)

end Server

end Copresence
