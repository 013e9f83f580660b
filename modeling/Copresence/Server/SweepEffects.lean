import Copresence.Server.Effects

/-! What a whole sweep does to the server: the reaper's to the rosters, the
registrations and the audit history, the reconciler's to the last alone. -/
namespace Copresence

open Collections

/-- The entries recorded between two states of one server. -/
def Server.recordedSince (before after : Server) : List AuditRecordInput :=
  after.recorded.drop before.recorded.length

/-- What was recorded since is what was appended. -/
theorem Server.recordedSince_of_append {before after : Server} {added : List AuditRecordInput}
    (h : after.recorded = before.recorded ++ added) : before.recordedSince after = added := by
  rw [recordedSince, h, List.drop_left]

namespace Reaper

variable (cfg : Config) (now : Int)

/-- Those entries of the reaper's loop, with the ids drawn in order. -/
def inferredEnds (generated : Nat) (reaped : List ReapedParticipant) : List AuditRecordInput :=
  (reaped.zipIdx generated).map fun (participant, index) =>
    inferredEnd participant now (cfg.generateId index)

/-- An end is inferred for each that was reaped and for nobody else. -/
theorem mem_inferredEnds_who (generated : Nat) {reaped : List ReapedParticipant} {sid : SessionId}
    {pid : ParticipantId} :
    (∃ entry ∈ inferredEnds cfg now generated reaped, entry.sid = sid ∧ entry.pid = pid) ↔
      ∃ participant ∈ reaped, participant.sid = sid ∧ participant.pid = pid := by
  induction reaped generalizing generated with
  | nil => simp [inferredEnds]
  | cons first reaped ih =>
      have hs := ih (generated + 1)
      simp only [inferredEnds, List.zipIdx_cons, List.map_cons, List.exists_mem_cons_iff] at hs ⊢
      rw [hs]
      rfl

/-- The loop touches the hub, the audit log and the sockets. -/
theorem foldl_announce_frame (reaped : List ReapedParticipant) (server : Server) :
    (reaped.foldl (announce cfg now) server).registry = server.registry ∧
      (reaped.foldl (announce cfg now) server).scheduler = server.scheduler ∧
      (reaped.foldl (announce cfg now) server).contexts = server.contexts ∧
      (reaped.foldl (announce cfg now) server).readyState = server.readyState := by
  induction reaped generalizing server with
  | nil => exact ⟨rfl, rfl, rfl, rfl⟩
  | cons first reaped ih => exact ih (announce cfg now server first)

/-- Whoever was reaped is unregistered, and nobody else. -/
theorem foldl_announce_registration (reaped : List ReapedParticipant) (server : Server)
    (pid : ParticipantId) :
    (reaped.foldl (announce cfg now) server).hub.registration pid =
      if pid ∈ reaped.map ReapedParticipant.pid then none else server.hub.registration pid := by
  induction reaped generalizing server with
  | nil => simp
  | cons first reaped ih =>
      have first_unregistered : (announce cfg now server first).hub.registration pid =
          if pid = first.pid then none else server.hub.registration pid :=
        BroadcastHub.registration_unregister _ _ _
      rw [List.foldl_cons, ih, first_unregistered]
      by_cases hm : pid ∈ reaped.map ReapedParticipant.pid
      · simp [hm]
      · by_cases he : pid = first.pid <;> simp [hm, he]

/-- The reaper records one inferred end for each it removed, in order. -/
theorem foldl_announce_recorded (reaped : List ReapedParticipant) (server : Server) :
    (reaped.foldl (announce cfg now) server).recorded =
      server.recorded ++ inferredEnds cfg now server.generated reaped := by
  induction reaped generalizing server with
  | nil => simp [inferredEnds]
  | cons first reaped ih =>
      have one : (announce cfg now server first).recorded =
          server.recorded ++ [inferredEnd first now (cfg.generateId server.generated)] := rfl
      have drawn : (announce cfg now server first).generated = server.generated + 1 := rfl
      rw [List.foldl_cons, ih, one, drawn, List.append_assoc]
      rfl

/-- The log takes the inferred ends one by one. -/
theorem foldl_announce_auditLog (reaped : List ReapedParticipant) (server : Server) :
    (reaped.foldl (announce cfg now) server).auditLog =
      (inferredEnds cfg now server.generated reaped).foldl (fun log entry => (log.record entry).1)
        server.auditLog := by
  induction reaped generalizing server with
  | nil => rfl
  | cons first reaped ih =>
      have one : (announce cfg now server first).auditLog =
          (server.auditLog.record (inferredEnd first now (cfg.generateId server.generated))).1 := rfl
      have drawn : (announce cfg now server first).generated = server.generated + 1 := rfl
      rw [List.foldl_cons, ih, one, drawn]
      rfl

section Sweep

variable (server : Server)

/-- Whether a sweep finds a stale entry of this participant in any session. -/
def Reaps (pid : ParticipantId) : Prop :=
  ∃ sid participant, server.participant? sid pid = some participant ∧
    participant.Stale cfg.ttlMs now

theorem sweep_registry :
    (sweep cfg now server).registry = (server.registry.reapStale cfg.ttlMs now).1 :=
  (foldl_announce_frame cfg now _ _).1

@[simp] theorem sweep_scheduler : (sweep cfg now server).scheduler = server.scheduler :=
  (foldl_announce_frame cfg now _ _).2.1

@[simp] theorem sweep_contexts : (sweep cfg now server).contexts = server.contexts :=
  (foldl_announce_frame cfg now _ _).2.2.1

@[simp] theorem sweep_readyState : (sweep cfg now server).readyState = server.readyState :=
  (foldl_announce_frame cfg now _ _).2.2.2

variable {server}

/-- A sweep leaves a server that is well formed. -/
theorem sweep_wellFormed (wf : server.WellFormed) : (sweep cfg now server).WellFormed := by
  rw [Server.WellFormed, sweep_registry]
  exact SessionRegistry.reapStale_wellFormed wf cfg.ttlMs now

/-- A sweep takes the stale out of their rosters and nobody else. -/
theorem sweep_entryOf (wf : server.WellFormed) (sid : SessionId) (pid : ParticipantId) :
    (sweep cfg now server).entryOf sid pid =
      (server.entryOf sid pid).filter fun entry => ¬ entry.participant.Stale cfg.ttlMs now := by
  rw [Server.entryOf, sweep_registry, SessionRegistry.entryOf_reapStale wf.seated]
  rfl

/-- Whoever is reaped is registered no more. -/
theorem sweep_registration_of_reaps (wf : server.WellFormed) {pid : ParticipantId}
    (h : Reaps cfg now server pid) : (sweep cfg now server).hub.registration pid = none := by
  obtain ⟨sid, participant, hp, hs⟩ := h
  have reaped := (SessionRegistry.mem_reapStale_iff wf.seated cfg.ttlMs now
    ⟨sid, pid, participant.lastSeenAt⟩).mpr ⟨participant, hp, hs, rfl⟩
  exact (foldl_announce_registration cfg now _ _ pid).trans
    (if_pos (List.mem_map.mpr ⟨_, reaped, rfl⟩))

/-- The sweep unregisters nobody else. -/
theorem sweep_registration_of_not_reaps (wf : server.WellFormed) {pid : ParticipantId}
    (h : ¬ Reaps cfg now server pid) :
    (sweep cfg now server).hub.registration pid = server.hub.registration pid := by
  refine (foldl_announce_registration cfg now _ _ pid).trans (if_neg ?_)
  intro hm
  obtain ⟨reaped, hr, rfl⟩ := List.mem_map.mp hm
  obtain ⟨participant, hp, hs, _⟩ := (SessionRegistry.mem_reapStale_iff wf.seated _ _ reaped).mp hr
  exact h ⟨reaped.sid, participant, hp, hs⟩

/-- An inferred end is recorded for exactly the stale participants. -/
theorem sweep_recordedSince (wf : server.WellFormed) (sid : SessionId) (pid : ParticipantId) :
    (∃ entry ∈ server.recordedSince (sweep cfg now server), entry.sid = sid ∧ entry.pid = pid) ↔
      ∃ participant, server.participant? sid pid = some participant ∧
        participant.Stale cfg.ttlMs now := by
  have recorded : (sweep cfg now server).recorded = server.recorded ++
      inferredEnds cfg now server.generated (server.registry.reapStale cfg.ttlMs now).2 :=
    foldl_announce_recorded cfg now _ _
  rw [Server.recordedSince_of_append recorded, mem_inferredEnds_who]
  constructor
  · rintro ⟨reaped, hr, rfl, rfl⟩
    obtain ⟨participant, hp, hs, _⟩ := (SessionRegistry.mem_reapStale_iff wf.seated _ _ reaped).mp hr
    exact ⟨participant, hp, hs⟩
  · intro ⟨participant, hp, hs⟩
    exact ⟨⟨sid, pid, participant.lastSeenAt⟩,
      (SessionRegistry.mem_reapStale_iff wf.seated _ _ _).mpr ⟨participant, hp, hs, rfl⟩, rfl, rfl⟩

end Sweep

end Reaper

namespace AuditReconciler

variable (cfg : Config) (now : Int)

def inferredEnds (generated : Nat) (starts : List AuditRecord) : List AuditRecordInput :=
  (starts.zipIdx generated).map fun (start, index) => inferredEnd start now (cfg.generateId index)

/-- One turn of the reconciler's second loop. -/
def closeStart (server : Server) (start : AuditRecord) : Server :=
  server.recordGenerated cfg (inferredEnd start now)

/-- Closing starts moves no roster, registration or connection. -/
theorem foldl_closeStart_frame (starts : List AuditRecord) (server : Server) :
    (starts.foldl (closeStart cfg now) server).registry = server.registry ∧
      (starts.foldl (closeStart cfg now) server).hub = server.hub ∧
      (starts.foldl (closeStart cfg now) server).scheduler = server.scheduler ∧
      (starts.foldl (closeStart cfg now) server).contexts = server.contexts ∧
      (starts.foldl (closeStart cfg now) server).readyState = server.readyState ∧
      (starts.foldl (closeStart cfg now) server).outbound = server.outbound := by
  induction starts generalizing server with
  | nil => exact ⟨rfl, rfl, rfl, rfl, rfl, rfl⟩
  | cons first starts ih => exact ih (closeStart cfg now server first)

/-- The reconciler records one inferred end for each start it closes, in order. -/
theorem foldl_closeStart_recorded (starts : List AuditRecord) (server : Server) :
    (starts.foldl (closeStart cfg now) server).recorded =
      server.recorded ++ inferredEnds cfg now server.generated starts := by
  induction starts generalizing server with
  | nil => simp [inferredEnds]
  | cons first starts ih =>
      have one : (closeStart cfg now server first).recorded =
          server.recorded ++ [inferredEnd first now (cfg.generateId server.generated)] := rfl
      have drawn : (closeStart cfg now server first).generated = server.generated + 1 := rfl
      rw [List.foldl_cons, ih, one, drawn, List.append_assoc]
      rfl

/-- The reconciler is blind to, and leaves alone, everything but the log. -/
theorem sweep_frame (server : Server) :
    (sweep cfg now server).registry = server.registry ∧
      (sweep cfg now server).hub = server.hub ∧
      (sweep cfg now server).scheduler = server.scheduler ∧
      (sweep cfg now server).contexts = server.contexts ∧
      (sweep cfg now server).readyState = server.readyState ∧
      (sweep cfg now server).outbound = server.outbound :=
  foldl_closeStart_frame cfg now _ server

/-- The reconciler records the ends of the starts that are overdue. -/
theorem sweep_recordedSince (server : Server) :
    server.recordedSince (sweep cfg now server) =
      inferredEnds cfg now server.generated (overdueStarts server.auditLog cfg.ttlMs now) :=
  Server.recordedSince_of_append (foldl_closeStart_recorded cfg now _ server)

end AuditReconciler

end Copresence
