import Copresence.Lib.Unwinding
import Copresence.Server.Drawing
import Copresence.Server.SweepEffects
import Copresence.Server.Untimed

/-! The reaper's sweep over two servers that differ in clients' times only. If
these times make the same participants stale, the sweeps differ at most in
what the audit log keeps of them. -/
namespace Copresence

open Collections

/-- Who was reaped, without the time it was last seen at. -/
def ReapedParticipant.who (reaped : ReapedParticipant) : SessionId × ParticipantId :=
  (reaped.sid, reaped.pid)

namespace SessionRegistry

variable {ttlMs now : Int}

/-- Whether a session is empty does not depend on the times. -/
theorem untimed_isEmpty (session : Session) : isEmpty session.untimed = isEmpty session := by
  rw [isEmpty, isEmpty, Session.untimed, JsMap.size_mapValues]

/-- Registries and reports that differ in times only. -/
def ReapedAlike (first second : SessionRegistry × List ReapedParticipant) : Prop :=
  first.1.untimed = second.1.untimed ∧
    first.2.map ReapedParticipant.who = second.2.map ReapedParticipant.who

/-- Two states of a session that differ in times only, and in no time that
makes a participant stale. -/
structure SweptAlike (ttlMs now : Int) (first second : Session) : Prop where
  wellFormed : first.WellFormed ∧ second.WellFormed
  untimed : first.untimed = second.untimed
  stale : ∀ pid p q, first.participants.get? pid = some p → second.participants.get? pid = some q →
    (p.Stale ttlMs now ↔ q.Stale ttlMs now)

section Session

variable {first second : Session} (alike : SweptAlike ttlMs now first second)

include alike

theorem SweptAlike.sid : first.sid = second.sid := by
  have h := congrArg Session.sid alike.untimed
  exact h

/-- The same participants are stale in both sessions. -/
theorem SweptAlike.staleOf :
    List.Forall₂ (fun p q : Participant => p.untimed = q.untimed)
      (staleOf ttlMs now first.participants.values)
      (staleOf ttlMs now second.participants.values) := by
  have values : first.participants.values.map Participant.untimed =
      second.participants.values.map Participant.untimed := by
    have h := congrArg (fun session : Session => session.participants.values) alike.untimed
    rw [Session.untimed, Session.untimed] at h
    simpa using h
  have own : ∀ {session : Session}, session.WellFormed → ∀ p ∈ session.participants.values,
      session.participants.get? p.pid = some p := by
    intro session wf p hp
    obtain ⟨key, hk⟩ := JsMap.mem_values_iff.mp hp
    rw [wf.keyed key p hk, hk]
  have pairs : List.Forall₂ (fun p q : Participant => p.untimed = q.untimed ∧
      (p.Stale ttlMs now ↔ q.Stale ttlMs now)) first.participants.values
        second.participants.values := by
    refine Transition.forall₂_of_map_eq values fun p hp q hq same => ⟨same, ?_⟩
    have pids := congrArg Participant.pid same
    have hq' := own alike.wellFormed.2 q hq
    rw [← show p.pid = q.pid from pids] at hq'
    exact alike.stale p.pid p q (own alike.wellFormed.1 p hp) hq'
  refine (List.rel_filter ?_ pairs).imp fun _ _ both => both.1
  intro p q both
  simpa using both.2

theorem SweptAlike.stalePids :
    (SessionRegistry.staleOf ttlMs now first.participants.values).map Participant.pid =
      (SessionRegistry.staleOf ttlMs now second.participants.values).map Participant.pid := by
  apply Transition.map_eq_of_forall₂
  apply alike.staleOf.imp
  intro p q same
  have pids := congrArg Participant.pid same
  exact pids

/-- The sweep of one session removes the same participants of both. -/
theorem SweptAlike.reapSession :
    (reapSession ttlMs now first).1.untimed = (reapSession ttlMs now second).1.untimed ∧
      (reapSession ttlMs now first).2.map ReapedParticipant.who =
        (reapSession ttlMs now second).2.map ReapedParticipant.who := by
  have removed : ∀ (session : Session) (pids : List ParticipantId),
      (removeAll session pids).untimed = removeAll session.untimed pids :=
    Transition.run_map fun session pid => Session.untimed_removeParticipant session pid
  have named := congrArg (List.map fun pid => (first.sid, pid)) alike.stalePids
  rw [List.map_map, List.map_map] at named
  rw [reapSession_eq, reapSession_eq]
  constructor
  · rw [removed, removed, alike.untimed, alike.stalePids]
  · rw [List.map_map, List.map_map, ← alike.sid]
    exact named

/-- One turn of the sweep reaps the same from both. -/
theorem SweptAlike.reapInto {state other : SessionRegistry × List ReapedParticipant}
    (related : ReapedAlike state other) :
    ReapedAlike (reapInto ttlMs now state first) (reapInto ttlMs now other second) := by
  obtain ⟨registries, reports⟩ := related
  obtain ⟨left, reaped⟩ := alike.reapSession
  have reported : (state.2 ++ (SessionRegistry.reapSession ttlMs now first).2).map
      ReapedParticipant.who =
        (other.2 ++ (SessionRegistry.reapSession ttlMs now second).2).map ReapedParticipant.who := by
    rw [List.map_append, List.map_append, reports, reaped]
  have kept : (SessionRegistry.reapSession ttlMs now first).1 = first ↔
      (SessionRegistry.reapSession ttlMs now second).1 = second := by
    rw [reapSession_eq_self_iff alike.wellFormed.1.keyed, reapSession_eq_self_iff alike.wellFormed.2.keyed,
      alike.stalePids]
  have emptied : isEmpty (SessionRegistry.reapSession ttlMs now first).1 =
      isEmpty (SessionRegistry.reapSession ttlMs now second).1 := by
    rw [← untimed_isEmpty, left, untimed_isEmpty]
  unfold SessionRegistry.reapInto
  dsimp only
  by_cases same : (SessionRegistry.reapSession ttlMs now first).1 = first
  · rw [if_pos same, if_pos (kept.mp same)]
    exact ⟨registries, reported⟩
  · rw [if_neg same, if_neg (fun h => same (kept.mpr h)), emptied]
    split
    · refine ⟨?_, reported⟩
      dsimp only
      rw [untimed_delete, untimed_delete, registries, alike.sid]
    · refine ⟨?_, reported⟩
      dsimp only
      rw [untimed_save, untimed_save, registries, left]

end Session

/-- A whole sweep removes the same participants of both registries. -/
theorem reapStale_alike {first second : SessionRegistry} (wf : first.WellFormed)
    (wf' : second.WellFormed) (same : first.untimed = second.untimed)
    (stale : ∀ sid pid p q, first.participant? sid pid = some p →
      second.participant? sid pid = some q → (p.Stale ttlMs now ↔ q.Stale ttlMs now)) :
    ReapedAlike (first.reapStale ttlMs now) (second.reapStale ttlMs now) := by
  have listed : first.all.map Session.untimed = second.all.map Session.untimed := by
    rw [← untimed_all, ← untimed_all, same]
  have pairs : List.Forall₂ (SweptAlike ttlMs now) first.all second.all := by
    apply Transition.forall₂_of_map_eq listed
    intro session hs other ho alike
    have sids := congrArg Session.sid alike
    have found := mem_all_iff.mp hs
    have found' := mem_all_iff.mp ho
    refine ⟨⟨wf _ _ found, wf' _ _ found'⟩, alike, fun pid p q hp hq => ?_⟩
    apply stale session.sid pid p q
    · rw [participant?_of_get found, hp]
    · rw [show session.sid = other.sid from sids, participant?_of_get found', hq]
  exact Transition.run_related (fun _ _ _ _ related alike => alike.reapInto related)
    ⟨same, rfl⟩ pairs

end SessionRegistry

namespace Reaper

variable (cfg : Config) (now : Int) (generated : Nat)

theorem inferredEnds_cons (gone : ReapedParticipant) (reaped : List ReapedParticipant) :
    inferredEnds cfg now generated (gone :: reaped) =
      inferredEnd gone now (cfg.generateId generated) ::
        inferredEnds cfg now (generated + 1) reaped := rfl

/-- One end is inferred for each participant that was reaped. -/
theorem inferredEnds_who (reaped : List ReapedParticipant) :
    (inferredEnds cfg now generated reaped).map (fun entry => (entry.sid, entry.pid)) =
      reaped.map ReapedParticipant.who := by
  induction reaped generalizing generated with
  | nil => rfl
  | cons gone reaped ih =>
      rw [inferredEnds_cons, List.map_cons, List.map_cons, ih]
      rfl

/-- The ends are inferred under the ids drawn one after the other. -/
theorem inferredEnds_eventId (reaped : List ReapedParticipant) :
    (inferredEnds cfg now generated reaped).map AuditRecordInput.eventId =
      (List.range' generated reaped.length).map cfg.generateId := by
  induction reaped generalizing generated with
  | nil => rfl
  | cons gone reaped ih =>
      rw [inferredEnds_cons, List.map_cons, ih, List.length_cons, List.range'_succ, List.map_cons]
      rfl

theorem inferredEnds_kind {reaped : List ReapedParticipant} {entry : AuditRecordInput}
    (h : entry ∈ inferredEnds cfg now generated reaped) : entry.kind = .sessionEnd := by
  obtain ⟨_, _, rfl⟩ := List.mem_map.mp h
  rfl

variable {cfg now generated} {reaped others : List ReapedParticipant}

/-- For the same participants the inferred ends differ in the reported times only. -/
theorem inferredEnds_alike
    (alike : List.Forall₂ (fun gone other : ReapedParticipant => gone.who = other.who)
      reaped others) :
    List.Forall₂ (fun entry other : AuditRecordInput => entry.untimed = other.untimed)
      (inferredEnds cfg now generated reaped) (inferredEnds cfg now generated others) := by
  induction alike generalizing generated with
  | nil => exact .nil
  | @cons gone other _ _ who _ ih =>
      have hSid : gone.sid = other.sid := congrArg Prod.fst who
      have hPid : gone.pid = other.pid := congrArg Prod.snd who
      rw [inferredEnds_cons, inferredEnds_cons]
      refine .cons ?_ ih
      rw [inferredEnd, inferredEnd, hSid, hPid]
      rfl

/-- The reports are the same where the participants were last seen at the same
time. -/
theorem inferredEnds_zip_iff {P : SessionId → ParticipantId → Prop}
    (alike : List.Forall₂ (fun gone other : ReapedParticipant => gone.who = other.who)
      reaped others) :
    (∀ pair ∈ (inferredEnds cfg now generated reaped).zip (inferredEnds cfg now generated others),
        pair.1 = pair.2 ∨ P pair.1.sid pair.1.pid) ↔
      ∀ pair ∈ reaped.zip others,
        pair.1.lastSeenAt = pair.2.lastSeenAt ∨ P pair.1.sid pair.1.pid := by
  induction alike generalizing generated with
  | nil => simp [inferredEnds]
  | @cons gone other _ _ who _ ih =>
      have hSid : gone.sid = other.sid := congrArg Prod.fst who
      have hPid : gone.pid = other.pid := congrArg Prod.snd who
      rw [inferredEnds_cons, inferredEnds_cons, List.zip_cons_cons, List.zip_cons_cons,
        List.forall_mem_cons, List.forall_mem_cons, ih]
      simp [inferredEnd, hSid, hPid]

end Reaper

namespace Server

/-- Two servers that differ in times and in what their audit logs hold. -/
structure SameButLog (first second : Server) : Prop where
  registry : first.registry.untimed = second.registry.untimed
  hub : first.hub = second.hub
  scheduler : first.scheduler = second.scheduler
  contexts : first.contexts = second.contexts
  readyState : first.readyState = second.readyState
  generated : first.generated = second.generated
  outbound : first.outbound.map Write.untimed = second.outbound.map Write.untimed
  recorded : first.recorded.map AuditRecordInput.untimed =
    second.recorded.map AuditRecordInput.untimed

variable {first second : Server}

/-- Servers alike but for the times are alike but for the log, with the same log. -/
theorem untimed_eq_iff :
    first.untimed = second.untimed ↔
      SameButLog first second ∧ first.auditLog = second.auditLog := by
  constructor
  · intro same
    simp only [untimed, Server.mk.injEq] at same
    obtain ⟨registry, hub, logs, scheduler, contexts, readyState, generated, outbound, recorded⟩ :=
      same
    exact ⟨⟨registry, hub, scheduler, contexts, readyState, generated, outbound, recorded⟩, logs⟩
  · rintro ⟨same, logs⟩
    obtain ⟨registry, hub, scheduler, contexts, readyState, generated, outbound, recorded⟩ := same
    simp only [untimed, Server.mk.injEq]
    exact ⟨registry, hub, logs, scheduler, contexts, readyState, generated, outbound, recorded⟩

/-- One turn of the reaper's loop, for the same participant on both sides. -/
theorem SameButLog.announce (same : SameButLog first second) (cfg : Config) (now : Int)
    {gone other : ReapedParticipant} (who : gone.who = other.who) :
    SameButLog (Reaper.announce cfg now first gone) (Reaper.announce cfg now second other) := by
  have hSid : gone.sid = other.sid := congrArg Prod.fst who
  have hPid : gone.pid = other.pid := congrArg Prod.snd who
  have opened : first.isOpen = second.isOpen := by
    funext socket
    rw [isOpen, isOpen, same.readyState]
  refine ⟨same.registry, ?_, same.scheduler, same.contexts, same.readyState, ?_, ?_, ?_⟩
  · show first.hub.unregister gone.pid = second.hub.unregister other.pid
    rw [same.hub, hPid]
  · show first.generated + 1 = second.generated + 1
    rw [same.generated]
  · show (first.outbound ++ (first.hub.unregister gone.pid).broadcastToSession first.isOpen gone.sid
        (leaveMessage gone.sid gone.pid now) (some gone.pid)).map Write.untimed =
      (second.outbound ++ (second.hub.unregister other.pid).broadcastToSession second.isOpen
        other.sid (leaveMessage other.sid other.pid now) (some other.pid)).map Write.untimed
    rw [List.map_append, List.map_append, same.outbound, same.hub, opened, hSid, hPid]
  · show (first.recorded ++ [Reaper.inferredEnd gone now _]).map AuditRecordInput.untimed =
      (second.recorded ++ [Reaper.inferredEnd other now _]).map AuditRecordInput.untimed
    rw [List.map_append, List.map_append, same.recorded, same.generated]
    simp only [List.map_cons, List.map_nil, AuditRecordInput.untimed, Reaper.inferredEnd, hSid,
      hPid, Option.map_some]

/-- The two sweeps differ at most in the log. -/
theorem SameButLog.sweep (same : SameButLog first second) (cfg : Config) (now : Int)
    (wf : first.WellFormed) (wf' : second.WellFormed)
    (stale : ∀ sid pid p q, first.participant? sid pid = some p →
      second.participant? sid pid = some q → (p.Stale cfg.ttlMs now ↔ q.Stale cfg.ttlMs now)) :
    SameButLog (Reaper.sweep cfg now first) (Reaper.sweep cfg now second) := by
  obtain ⟨registries, reports⟩ := SessionRegistry.reapStale_alike wf wf' same.registry stale
  have reaped : SameButLog { first with registry := (first.registry.reapStale cfg.ttlMs now).1 }
      { second with registry := (second.registry.reapStale cfg.ttlMs now).1 } :=
    { same with registry := registries }
  exact Transition.run_related (fun _ _ _ _ same who => same.announce cfg now who) reaped
    (Transition.forall₂_of_map_eq reports fun _ _ _ _ who => who)

/-- The sweeps leave the same log exactly if those they remove were last seen at
the same time, or the log has an end of the session that takes the report in. -/
theorem SameButLog.sweep_auditLog_iff (same : SameButLog first second) {cfg : Config} {now : Int}
    (logs : first.auditLog = second.auditLog) (wf : first.WellFormed) (wf' : second.WellFormed)
    (stale : ∀ sid pid p q, first.participant? sid pid = some p →
      second.participant? sid pid = some q → (p.Stale cfg.ttlMs now ↔ q.Stale cfg.ttlMs now))
    (unique : Function.Injective cfg.generateId) (undrawn : first.Undrawn cfg) :
    (Reaper.sweep cfg now first).auditLog = (Reaper.sweep cfg now second).auditLog ↔
      ∀ sid pid p q, first.participant? sid pid = some p → second.participant? sid pid = some q →
        p.Stale cfg.ttlMs now →
          p.lastSeenAt = q.lastSeenAt ∨ (first.auditLog.openSessionEnd sid pid).isSome := by
  obtain ⟨_, reports⟩ := SessionRegistry.reapStale_alike wf wf' same.registry stale
  have alike := Transition.forall₂_of_map_eq reports fun _ _ _ _ who => who
  have removed := SessionRegistry.reapStale_nodup wf.seated cfg.ttlMs now
  have drawn : ∀ entry ∈ Reaper.inferredEnds cfg now first.generated
      (first.registry.reapStale cfg.ttlMs now).2, first.auditLog.get entry.eventId = none := by
    intro entry hm
    have hId := List.mem_map_of_mem (f := AuditRecordInput.eventId) hm
    rw [Reaper.inferredEnds_eventId] at hId
    obtain ⟨index, hi, he⟩ := List.mem_map.mp hId
    rw [← he]
    exact undrawn index (List.mem_range'_1.mp hi).1
  have ids : ((Reaper.inferredEnds cfg now first.generated
      (first.registry.reapStale cfg.ttlMs now).2).map AuditRecordInput.eventId).Nodup := by
    rw [Reaper.inferredEnds_eventId]
    exact (List.nodup_range' ..).map unique
  have left : ∀ server : Server, (Reaper.sweep cfg now server).auditLog =
      (Reaper.inferredEnds cfg now server.generated
        (server.registry.reapStale cfg.ttlMs now).2).foldl (fun log entry => (log.record entry).1)
          server.auditLog := fun server => Reaper.foldl_announce_auditLog cfg now _ _
  rw [left, left, ← logs, ← same.generated, AuditLog.foldl_ends_eq_iff
    (Reaper.inferredEnds_alike alike) (fun _ => Reaper.inferredEnds_kind cfg now _) drawn ids
    (by rw [Reaper.inferredEnds_who]; exact removed),
    Reaper.inferredEnds_zip_iff (P := fun sid pid => (first.auditLog.openSessionEnd sid pid).isSome)
      alike]
  constructor
  · intro agree sid pid p q hp hq hs
    have gone := (SessionRegistry.mem_reapStale_iff wf.seated cfg.ttlMs now
      ⟨sid, pid, p.lastSeenAt⟩).mpr ⟨p, hp, hs, rfl⟩
    have other := (SessionRegistry.mem_reapStale_iff wf'.seated cfg.ttlMs now
      ⟨sid, pid, q.lastSeenAt⟩).mpr ⟨q, hq, (stale sid pid p q hp hq).mp hs, rfl⟩
    exact agree _ (Transition.mem_zip_of_map_eq reports removed gone other rfl)
  · rintro agree ⟨gone, other⟩ hz
    obtain ⟨hg, ho⟩ := List.of_mem_zip hz
    have who : gone.who = other.who := (List.forall₂_iff_zip.mp alike).2 hz
    obtain ⟨p, hp, hs, seen⟩ := (SessionRegistry.mem_reapStale_iff wf.seated _ _ _).mp hg
    obtain ⟨q, hq, _, seen'⟩ := (SessionRegistry.mem_reapStale_iff wf'.seated _ _ _).mp ho
    have hSid : gone.sid = other.sid := congrArg Prod.fst who
    have hPid : gone.pid = other.pid := congrArg Prod.snd who
    rw [← hSid, ← hPid] at hq
    rw [seen, seen']
    exact agree gone.sid gone.pid p q hp hq hs

end Server

end Copresence
