import Copresence.Server.SweepEffects
import Copresence.Services.AuditEnds

/-! Which event ids the audit log gets to know: those that clients report
under, and those the server draws. -/
namespace Copresence

/-- The event id of the report that an event brings, if it brings one. -/
def ServerEvent.reported? : ServerEvent → Option EventId
  | .message _ (.parsed (.audit msg)) => some msg.eventId
  | .beacon (.parsed (.audit msg)) => some msg.eventId
  | _ => none

namespace Server

/-- Every id that is new to the log was reported or has been drawn. -/
structure Draws (cfg : Config) (reported : Option EventId) (before after : Server) : Prop where
  later : before.generated ≤ after.generated
  ids : ∀ eventId, (after.auditLog.get eventId).isSome →
    (before.auditLog.get eventId).isSome ∨ reported = some eventId ∨
      ∃ drawn, before.generated ≤ drawn ∧ drawn < after.generated ∧
        cfg.generateId drawn = eventId

section Rules

variable {cfg : Config} {reported : Option EventId} {before between after : Server}

/-- What moves neither the log nor the counter of ids brings none into the log. -/
theorem draws_same (auditLog : after.auditLog = before.auditLog)
    (generated : after.generated = before.generated) : Draws cfg reported before after where
  later := by rw [generated]
  ids := by
    intro eventId h
    rw [auditLog] at h
    exact Or.inl h

/-- Two steps whose new ids were reported or drawn bring no other ids together. -/
theorem Draws.trans (h : Draws cfg reported before between) (h' : Draws cfg reported between after) :
    Draws cfg reported before after where
  later := h.later.trans h'.later
  ids := by
    intro eventId known
    rcases h'.ids eventId known with known | known | ⟨drawn, from_between, hAfter, hd⟩
    · rcases h.ids eventId known with known | known | ⟨drawn, hBefore, until_between, hd⟩
      · exact Or.inl known
      · exact Or.inr (Or.inl known)
      · exact Or.inr (Or.inr ⟨drawn, hBefore, until_between.trans_le h'.later, hd⟩)
    · exact Or.inr (Or.inl known)
    · exact Or.inr (Or.inr ⟨drawn, h.later.trans from_between, hAfter, hd⟩)

/-- A client's record brings the id it is reported under. -/
theorem draws_record (server : Server) {entry : AuditRecordInput}
    (own : reported = some entry.eventId) : Draws cfg reported server (server.record entry) where
  later := Nat.le_refl _
  ids := by
    intro eventId known
    by_cases same : eventId = entry.eventId
    · exact Or.inr (Or.inl (by rw [own, same]))
    · rw [Server.record, AuditLog.get_record_isSome same] at known
      exact Or.inl known

/-- A record of the server's own brings the id drawn for it. -/
theorem draws_recordGenerated (cfg : Config) (reported : Option EventId) (server : Server)
    {entry : EventId → AuditRecordInput}
    (own : ∀ eventId, (entry eventId).eventId = eventId) :
    Draws cfg reported server (server.recordGenerated cfg entry) where
  later := Nat.le_succ _
  ids := by
    intro eventId known
    by_cases same : eventId = cfg.generateId server.generated
    · exact Or.inr (Or.inr ⟨server.generated, Nat.le_refl _, Nat.lt_succ_self _, same.symm⟩)
    · apply Or.inl
      rw [← own (cfg.generateId server.generated)] at same
      rw [← AuditLog.get_record_isSome same]
      exact known

/-- A loop brings no other ids when none of its turns does. -/
theorem draws_foldl {ι : Type} {turn : Server → ι → Server}
    (one : ∀ server item, Draws cfg reported server (turn server item)) (items : List ι)
    (server : Server) : Draws cfg reported server (items.foldl turn server) := by
  induction items generalizing server with
  | nil => exact draws_same rfl rfl
  | cons item items ih => exact (one server item).trans (ih (turn server item))

end Rules

variable (cfg : Config) (reported : Option EventId) (now : Int) (ctx : ConnectionContext)
  (server : Server)

theorem draws_removeFromSession (pid : ParticipantId) :
    Draws cfg reported server (removeFromSession now ctx pid server) := by
  rw [removeFromSession_eq]
  exact draws_same rfl rfl

theorem draws_presence (event : SessionEvent) :
    Draws cfg reported server (handlePresence ctx event server) := by
  obtain ⟨registry, h⟩ := handlePresence_eq server ctx event
  rw [h]
  exact draws_same rfl rfl

/-- Of the messages, a report alone brings a client's id. -/
theorem draws_dispatch (msg : InboundMessage)
    (own : ∀ report, msg = .audit report → reported = some report.eventId) :
    Draws cfg reported server (dispatch now ctx server msg) := by
  cases msg with
  | audit msg =>
      have noted : Draws cfg reported server (server.record (auditEntry msg ctx.sid now)) :=
        draws_record server (own msg rfl)
      exact noted.trans (draws_same rfl rfl)
  | hello msg =>
      show Draws cfg reported server (handleHello now ctx msg server)
      rw [handleHello_eq]
      exact draws_same rfl rfl
  | bye msg =>
      have left : Draws cfg reported server (server.setContext { ctx with leftExplicitly := true }) :=
        draws_same rfl rfl
      exact left.trans (draws_removeFromSession cfg reported now _ _ msg.pid)
  | ping msg =>
      show Draws cfg reported server (handlePing now ctx msg server)
      rw [handlePing]
      split
      · exact draws_same rfl rfl
      · exact draws_same rfl rfl
  | cursor msg => exact draws_presence cfg reported ctx server (.cursor msg)
  | scroll msg => exact draws_presence cfg reported ctx server (.scroll msg)
  | ack msg => exact draws_same rfl rfl

/-- A frame brings no id but that of the report in it. -/
theorem draws_handleRealtimeMessage (frame : RawFrame)
    (own : ∀ report, frame = .parsed (.audit report) → reported = some report.eventId) :
    Draws cfg reported server (handleRealtimeMessage now ctx frame server) := by
  have guarded : Draws cfg reported server (server.setContext (afterGuard ctx frame)) :=
    draws_same rfl rfl
  unfold handleRealtimeMessage
  dsimp only
  cases hj : judge ctx frame with
  | refused code detail =>
      show Draws cfg reported server (sendError now ctx code detail server)
      rw [sendError]
      split
      · exact draws_same rfl rfl
      · exact draws_same rfl rfl
  | unordered => exact guarded
  | accepted msg =>
      apply guarded.trans
      apply draws_dispatch
      rintro report rfl
      exact own report (decodeInbound_ok_iff.mp (judge_accepted hj).1).1

/-- A close may draw an id for the end it reports. -/
theorem draws_disconnect : Draws cfg none server (handleDisconnect cfg now ctx server) := by
  rw [handleDisconnect]
  split
  · exact draws_same rfl rfl
  · next pid _ =>
      refine Draws.trans ?_ (draws_removeFromSession cfg none now ctx _ pid)
      split
      · exact draws_same rfl rfl
      · exact draws_recordGenerated cfg none _ fun _ => rfl

/-- The reaper draws an id for each end it infers. -/
theorem draws_reap : Draws cfg none server (Reaper.sweep cfg now server) := by
  have swept : Draws cfg none server
      { server with registry := (server.registry.reapStale cfg.ttlMs now).1 } :=
    draws_same rfl rfl
  apply swept.trans
  apply draws_foldl
  intro server gone
  have unregistered : Draws cfg none server
      { server with hub := server.hub.unregister gone.pid } := draws_same rfl rfl
  have noted := draws_recordGenerated cfg none
    { server with hub := server.hub.unregister gone.pid }
    fun eventId => (rfl : (Reaper.inferredEnd gone now eventId).eventId = eventId)
  exact (unregistered.trans noted).trans (draws_same rfl rfl)

/-- The reconciler draws an id for each start it closes. -/
theorem draws_reconcile : Draws cfg none server (AuditReconciler.sweep cfg now server) :=
  draws_foldl (fun server _ => draws_recordGenerated cfg none server fun _ => rfl) _ server

/-- A beacon brings the id of the report in it. -/
theorem draws_beacon (frame : RawFrame) :
    Draws cfg (ServerEvent.beacon frame).reported? server (beacon now frame server).1 := by
  rw [beacon]
  split
  · exact draws_same rfl rfl
  · next msg hd =>
      apply draws_record
      rw [(decodeInbound_ok_iff.mp hd).1]
      rfl
  · exact draws_same rfl rfl

/-- The ids a step brings into the log are drawn or reported in its event. -/
theorem step_draws (stamped : Stamped) :
    Draws cfg stamped.event.reported? server (server.step cfg stamped) := by
  rw [step]
  cases stamped.event with
  | connect socket sid =>
      dsimp only
      rw [connect]
      split
      · exact draws_same rfl rfl
      · exact draws_same rfl rfl
  | message socket frame =>
      dsimp only
      rw [message]
      split
      · exact draws_same rfl rfl
      · apply draws_handleRealtimeMessage
        rintro report rfl
        rfl
  | closing socket =>
      dsimp only
      rw [closing]
      split
      · exact draws_same rfl rfl
      · exact draws_same rfl rfl
  | close socket =>
      dsimp only
      rw [close]
      split
      · exact draws_same rfl rfl
      · next ctx _ =>
          have closed : Draws cfg none server (server.setReadyState socket .closed) :=
            draws_same rfl rfl
          exact closed.trans (draws_disconnect cfg stamped.time ctx _)
  | tick => exact draws_same rfl rfl
  | reap => exact draws_reap cfg stamped.time server
  | reconcile => exact draws_reconcile cfg stamped.time server
  | beacon frame => exact draws_beacon cfg stamped.time server frame

/-- No id that is still to be drawn is in the log. -/
def Undrawn (cfg : Config) (server : Server) : Prop :=
  ∀ drawn, server.generated ≤ drawn → server.auditLog.get (cfg.generateId drawn) = none

variable {cfg server}

/-- It stays so if ids are drawn once and clients report under others. -/
theorem Undrawn.step (unique : Function.Injective cfg.generateId) (undrawn : server.Undrawn cfg)
    {stamped : Stamped} (unborrowed : ∀ eventId, stamped.event.reported? = some eventId →
      ∀ drawn, cfg.generateId drawn ≠ eventId) : (server.step cfg stamped).Undrawn cfg := by
  intro drawn still
  have draws := step_draws cfg server stamped
  rw [← Option.not_isSome_iff_eq_none]
  intro known
  rcases draws.ids _ known with known | known | ⟨other, _, before, same⟩
  · rw [undrawn drawn (draws.later.trans still)] at known
    cases known
  · exact unborrowed _ known drawn rfl
  · rw [unique same] at before
    omega

end Server

end Copresence
