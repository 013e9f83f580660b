import Copresence.Services.SessionRegistry
import Mathlib.Data.List.Nodup

/-! What one TTL sweep does to the registry: participant by participant it is
a filter on `lastSeenAt`, whatever the order of the two loops. -/
namespace Copresence

open Collections

/-- Not heard from in `ttlMs`, in the comparison `reapStale` makes. -/
def Participant.Stale (ttlMs now : Int) (participant : Participant) : Prop :=
  ¬ now - participant.lastSeenAt ≤ ttlMs

instance (ttlMs now : Int) (participant : Participant) :
    Decidable (participant.Stale ttlMs now) := by
  rw [Participant.Stale]
  infer_instance

/-- Everybody in the roster is stored under their own id, as `addParticipant`
stores them. -/
def Session.Seated (session : Session) : Prop :=
  ∀ pid participant, session.participants.get? pid = some participant → participant.pid = pid

/-- Remove several participants, one after another. -/
def removeAll (session : Session) (pids : List ParticipantId) : Session :=
  pids.foldl removeParticipant session

@[simp] theorem removeAll_sid (session : Session) (pids : List ParticipantId) :
    (removeAll session pids).sid = session.sid := by
  induction pids generalizing session with
  | nil => rfl
  | cons pid pids ih =>
      change (removeAll (removeParticipant session pid) pids).sid = _
      rw [ih, removeParticipant_sid]

/-- Removing participants leaves the session well formed. -/
theorem removeAll_wellFormed {session : Session} (wf : session.WellFormed)
    (pids : List ParticipantId) : (removeAll session pids).WellFormed := by
  induction pids generalizing session with
  | nil => exact wf
  | cons pid pids ih => exact ih (wf.removeParticipant pid)

theorem removeAll_createdAt (session : Session) (pids : List ParticipantId) :
    (removeAll session pids).createdAt = session.createdAt := by
  induction pids generalizing session with
  | nil => rfl
  | cons pid pids ih =>
      change (removeAll (removeParticipant session pid) pids).createdAt = _
      rw [ih, removeParticipant_createdAt]

/-- The flags of those who stay are as they were. -/
theorem removeAll_dirty (session : Session) {pids : List ParticipantId} {other : ParticipantId}
    (stays : other ∉ pids) :
    (removeAll session pids).dirty.get? other = session.dirty.get? other := by
  induction pids generalizing session with
  | nil => rfl
  | cons pid pids ih =>
      rw [List.mem_cons, not_or] at stays
      change (removeAll (removeParticipant session pid) pids).dirty.get? other = _
      rw [ih _ stays.2, removeParticipant_dirty session pid other stays.1]

/-- Whoever has no flags gets none. -/
theorem removeAll_dirty_none {session : Session} (pids : List ParticipantId) {other : ParticipantId}
    (none : session.dirty.get? other = none) :
    (removeAll session pids).dirty.get? other = Option.none := by
  induction pids generalizing session with
  | nil => exact none
  | cons pid pids ih => exact ih (removeParticipant_dirty_none pid none)

/-- Nothing is left of the flags of those who were there and go. -/
theorem removeAll_dirty_self {session : Session} {pids : List ParticipantId}
    {other : ParticipantId} (goes : other ∈ pids) (was : session.participants.has other = true) :
    (removeAll session pids).dirty.get? other = none := by
  induction pids generalizing session with
  | nil => cases goes
  | cons pid pids ih =>
      change (removeAll (removeParticipant session pid) pids).dirty.get? other = none
      by_cases same : other = pid
      · apply removeAll_dirty_none
        rw [same] at was ⊢
        exact removeParticipant_dirty_self session pid was
      · apply ih ((List.mem_cons.mp goes).resolve_left same)
        rw [← Session.entryOf_isSome, removeParticipant_entryOf, if_neg same,
          Session.entryOf_isSome]
        exact was

/-- Removing a list of participants takes away the entries of those on it. -/
theorem removeAll_entryOf (session : Session) (pids : List ParticipantId) (other : ParticipantId) :
    (removeAll session pids).entryOf other =
      if other ∈ pids then none else session.entryOf other := by
  induction pids generalizing session with
  | nil => simp [removeAll]
  | cons pid pids ih =>
      change (removeAll (removeParticipant session pid) pids).entryOf other = _
      rw [ih, removeParticipant_entryOf]
      by_cases hm : other ∈ pids
      · simp [hm]
      · by_cases he : other = pid <;> simp [hm, he]

namespace SessionRegistry

/-- Everybody in every session is stored under their own id. -/
def Seated (registry : SessionRegistry) : Prop :=
  ∀ sid session, registry.get sid = some session → session.Seated

theorem WellFormed.seated {registry : SessionRegistry} (wf : registry.WellFormed) :
    registry.Seated :=
  fun sid session h => (wf sid session h).keyed

/-- Those of the listing that the sweep removes. -/
def staleOf (ttlMs now : Int) (participants : List Participant) : List Participant :=
  participants.filter fun participant => participant.Stale ttlMs now

theorem foldl_reapParticipant (ttlMs now : Int) (sid : SessionId)
    (participants : List Participant) (found : Session × List ReapedParticipant) :
    participants.foldl (reapParticipant ttlMs now sid) found =
      (removeAll found.1 ((staleOf ttlMs now participants).map Participant.pid),
        found.2 ++ (staleOf ttlMs now participants).map fun participant =>
          { sid, pid := participant.pid, lastSeenAt := participant.lastSeenAt }) := by
  induction participants generalizing found with
  | nil => simp [staleOf, removeAll]
  | cons participant participants ih =>
      rw [List.foldl_cons, ih]
      by_cases h : now - participant.lastSeenAt ≤ ttlMs
      · have hs : ¬ participant.Stale ttlMs now := not_not.mpr h
        simp [reapParticipant, staleOf, h, hs]
      · have hs : participant.Stale ttlMs now := h
        simp [reapParticipant, staleOf, h, hs, removeAll]

theorem reapSession_eq (ttlMs now : Int) (session : Session) :
    reapSession ttlMs now session =
      (removeAll session ((staleOf ttlMs now session.participants.values).map Participant.pid),
        (staleOf ttlMs now session.participants.values).map fun participant =>
          { sid := session.sid, pid := participant.pid, lastSeenAt := participant.lastSeenAt }) := by
  rw [reapSession, foldl_reapParticipant]
  simp

@[simp] theorem reapSession_sid (ttlMs now : Int) (session : Session) :
    (reapSession ttlMs now session).1.sid = session.sid := by
  rw [reapSession_eq, removeAll_sid]

theorem mem_stalePids {ttlMs now : Int} {session : Session} (seated : session.Seated)
    {pid : ParticipantId} :
    pid ∈ (staleOf ttlMs now session.participants.values).map Participant.pid ↔
      ∃ participant, session.participants.get? pid = some participant ∧
        participant.Stale ttlMs now := by
  simp only [staleOf, List.mem_map, List.mem_filter, JsMap.mem_values_iff, decide_eq_true_eq]
  constructor
  · rintro ⟨participant, ⟨⟨key, hk⟩, hs⟩, rfl⟩
    refine ⟨participant, ?_, hs⟩
    rw [seated key participant hk, hk]
  · intro ⟨participant, hp, hs⟩
    exact ⟨participant, ⟨⟨pid, hp⟩, hs⟩, seated pid participant hp⟩

/-- One session keeps exactly the entries of those who are not stale. -/
theorem reapSession_entryOf {session : Session} (seated : session.Seated) (ttlMs now : Int)
    (pid : ParticipantId) :
    (reapSession ttlMs now session).1.entryOf pid =
      (session.entryOf pid).filter fun entry => ¬ entry.participant.Stale ttlMs now := by
  rw [reapSession_eq, removeAll_entryOf]
  simp only [mem_stalePids seated]
  cases hp : session.participants.get? pid with
  | none => simp [Session.entryOf, hp]
  | some participant =>
      rw [Session.entryOf_of_get hp]
      by_cases hs : participant.Stale ttlMs now <;> simp [Option.filter, hs]

/-- The session is left as it was exactly when nobody in it is stale. -/
theorem reapSession_eq_self_iff {session : Session} (seated : session.Seated) {ttlMs now : Int} :
    (reapSession ttlMs now session).1 = session ↔
      (staleOf ttlMs now session.participants.values).map Participant.pid = [] := by
  rw [reapSession_eq]
  constructor
  · intro same
    rw [List.eq_nil_iff_forall_not_mem]
    intro pid hm
    have gone := removeAll_entryOf session
      ((staleOf ttlMs now session.participants.values).map Participant.pid) pid
    rw [show removeAll session _ = session from same, if_pos hm] at gone
    obtain ⟨participant, hp, _⟩ := (mem_stalePids seated).mp hm
    rw [Session.entryOf_of_get hp] at gone
    cases gone
  · intro nobody
    rw [nobody]
    rfl

/-- What is stored for a session after its turn in the outer loop. -/
def reapedEntry (ttlMs now : Int) (session : Session) (stored : Option Session) :
    Option Session :=
  let next := (reapSession ttlMs now session).1
  if next = session then stored else if isEmpty next then none else some next

/-- One turn of the sweep reaches its own session only. -/
theorem get_reapInto (ttlMs now : Int) (state : SessionRegistry × List ReapedParticipant)
    (session : Session) (sid : SessionId) :
    (reapInto ttlMs now state session).1.get sid =
      if sid = session.sid then reapedEntry ttlMs now session (state.1.get sid)
      else state.1.get sid := by
  unfold reapInto reapedEntry
  dsimp only
  split
  · split <;> rfl
  · split
    · rw [get_delete]
    · rw [get_save, reapSession_sid]

/-- The whole sweep acts on each session by itself. -/
theorem get_reapStale (registry : SessionRegistry) (ttlMs now : Int) (sid : SessionId) :
    (registry.reapStale ttlMs now).1.get sid =
      (registry.get sid).bind fun session => reapedEntry ttlMs now session (some session) := by
  obtain ⟨inside, outside⟩ := foldl_own_key
    (fun state : SessionRegistry × List ReapedParticipant => state.1.get)
    (get_reapInto ttlMs now) registry.all_sids_nodup (registry, [])
  cases hg : registry.get sid with
  | none =>
      rw [reapStale, outside sid (not_mem_sids_of_get_none hg), hg]
      rfl
  | some session =>
      have hsid := get_sid hg
      have hs := inside session (mem_all_iff.mpr (by rw [hsid, hg]))
      dsimp only at hs
      rw [hsid, hg] at hs
      exact hs

/-- Dropping a session that is empty takes no entry away. -/
theorem reapedEntry_entryOf {ttlMs now : Int} {session : Session} (pid : ParticipantId) :
    ((reapedEntry ttlMs now session (some session)).bind fun stored => stored.entryOf pid) =
      (reapSession ttlMs now session).1.entryOf pid := by
  unfold reapedEntry
  dsimp only
  split
  · next he => rw [he]; rfl
  · split
    · next hempty =>
        have hn := JsMap.size_eq_zero_iff.mp (of_decide_eq_true hempty) pid
        simp [Session.entryOf, hn]
    · rfl

/-- After a sweep the roster holds exactly those heard from within the TTL. -/
theorem entryOf_reapStale {registry : SessionRegistry} (seated : registry.Seated)
    (ttlMs now : Int) (sid : SessionId) (pid : ParticipantId) :
    (registry.reapStale ttlMs now).1.entryOf sid pid =
      (registry.entryOf sid pid).filter fun entry => ¬ entry.participant.Stale ttlMs now := by
  rw [entryOf, get_reapStale]
  cases hg : registry.get sid with
  | none => simp [entryOf, hg]
  | some session =>
      rw [Option.bind_some, reapedEntry_entryOf, reapSession_entryOf (seated sid session hg),
        entryOf_of_get hg]

/-- A sweep leaves a registry that is well formed. -/
theorem reapStale_wellFormed {registry : SessionRegistry} (wf : registry.WellFormed)
    (ttlMs now : Int) : (registry.reapStale ttlMs now).1.WellFormed := by
  intro sid session h
  rw [get_reapStale] at h
  obtain ⟨old, hg, hr⟩ := Option.bind_eq_some_iff.mp h
  unfold reapedEntry at hr
  dsimp only at hr
  split at hr
  · exact (Option.some.inj hr) ▸ wf sid old hg
  · split at hr
    · cases hr
    · rw [← Option.some.inj hr, reapSession_eq]
      exact removeAll_wellFormed (wf sid old hg) _

/-- The sweep lists the removals session by session. -/
theorem foldl_reapInto_snd {ttlMs now : Int} (sessions : List Session)
    (state : SessionRegistry × List ReapedParticipant) :
    (sessions.foldl (reapInto ttlMs now) state).2 =
      state.2 ++ sessions.flatMap fun session => (reapSession ttlMs now session).2 := by
  induction sessions generalizing state with
  | nil => simp
  | cons session sessions ih =>
      have hstep : (reapInto ttlMs now state session).2 =
          state.2 ++ (reapSession ttlMs now session).2 := by
        unfold reapInto
        dsimp only
        split
        · rfl
        · split <;> rfl
      rw [List.foldl_cons, ih, hstep, List.flatMap_cons, List.append_assoc]

/-- Nobody is reported twice for one session. -/
theorem reapStale_nodup {registry : SessionRegistry} (seated : registry.Seated) (ttlMs now : Int) :
    ((registry.reapStale ttlMs now).2.map fun reaped => (reaped.sid, reaped.pid)).Nodup := by
  rw [reapStale, foldl_reapInto_snd, List.nil_append, List.map_flatMap, List.nodup_flatMap]
  constructor
  · intro session hm
    have pids : (session.participants.values.map Participant.pid).Nodup := by
      rw [JsMap.values_map_eq_keys (seated _ _ (mem_all_iff.mp hm))]
      exact session.participants.nodup_keys
    rw [reapSession_eq, List.map_map]
    apply List.Nodup.of_map Prod.snd
    rw [List.map_map]
    exact pids.sublist (List.filter_sublist.map Participant.pid)
  · apply (List.pairwise_map.mp registry.all_sids_nodup).imp
    intro first second different pair hFirst hSecond
    dsimp only at hFirst hSecond
    rw [reapSession_eq, List.map_map, List.mem_map] at hFirst hSecond
    obtain ⟨_, _, rfl⟩ := hFirst
    obtain ⟨_, _, h⟩ := hSecond
    exact different (congrArg Prod.fst h).symm

/-- The report names exactly the stale participants. -/
theorem mem_reapStale_iff {registry : SessionRegistry} (seated : registry.Seated)
    (ttlMs now : Int) (reaped : ReapedParticipant) :
    reaped ∈ (registry.reapStale ttlMs now).2 ↔
      ∃ participant, registry.participant? reaped.sid reaped.pid = some participant ∧
        participant.Stale ttlMs now ∧ reaped.lastSeenAt = participant.lastSeenAt := by
  rw [reapStale, foldl_reapInto_snd, List.nil_append, List.mem_flatMap]
  simp only [reapSession_eq, staleOf, List.mem_map, List.mem_filter, JsMap.mem_values_iff,
    decide_eq_true_eq]
  constructor
  · rintro ⟨session, hm, participant, ⟨⟨key, hk⟩, hs⟩, rfl⟩
    have hg := mem_all_iff.mp hm
    refine ⟨participant, ?_, hs, rfl⟩
    rw [participant?_of_get hg, seated _ _ hg key participant hk, hk]
  · intro ⟨participant, hp, hs, hl⟩
    obtain ⟨session, hg, hget⟩ := Option.bind_eq_some_iff.mp hp
    have hsid := get_sid hg
    refine ⟨session, mem_all_iff.mpr (by rw [hsid, hg]), participant, ⟨⟨_, hget⟩, hs⟩, ?_⟩
    cases reaped
    simp_all [seated _ _ hg _ participant hget]

end SessionRegistry

end Copresence
