import Copresence.Models.SessionInvariant

/-! The in-memory session store and its TTL reaper. -/
namespace Copresence

open Collections

/-- A participant the reaper removed, for the caller to react to. -/
structure ReapedParticipant where
  sid : SessionId
  pid : ParticipantId
  lastSeenAt : Int
deriving DecidableEq, Repr

/-- Every session is stored under its own id: `save` is the only writer. -/
structure SessionRegistry where
  sessions : JsMap SessionId Session
  keyed : ∀ sid session, sessions.get? sid = some session → session.sid = sid

namespace SessionRegistry

def empty : SessionRegistry := ⟨JsMap.empty, by simp⟩

def get (registry : SessionRegistry) (sid : SessionId) : Option Session :=
  registry.sessions.get? sid

def save (registry : SessionRegistry) (session : Session) : SessionRegistry :=
  ⟨registry.sessions.set session.sid session, by
    intro sid stored h
    rw [JsMap.get?_set] at h
    split at h
    · next he => exact (Option.some.inj h) ▸ he.symm
    · exact registry.keyed sid stored h⟩

def delete (registry : SessionRegistry) (sid : SessionId) : SessionRegistry :=
  ⟨registry.sessions.delete sid, by
    intro other stored h
    rw [JsMap.get?_delete] at h
    split at h
    · cases h
    · exact registry.keyed other stored h⟩

def getOrCreate (registry : SessionRegistry) (sid : SessionId) (now : Int) :
    Session × SessionRegistry :=
  match registry.get sid with
  | some existing => (existing, registry)
  | none => (createSession sid now, registry.save (createSession sid now))

def all (registry : SessionRegistry) : List Session := registry.sessions.values

/-- The inner loop of `reapStale`: one participant of one session. -/
def reapParticipant (ttlMs now : Int) (sid : SessionId)
    (found : Session × List ReapedParticipant) (participant : Participant) :
    Session × List ReapedParticipant :=
  if now - participant.lastSeenAt ≤ ttlMs then found
  else
    (removeParticipant found.1 participant.pid,
      found.2 ++ [{ sid, pid := participant.pid, lastSeenAt := participant.lastSeenAt }])

def reapSession (ttlMs now : Int) (session : Session) : Session × List ReapedParticipant :=
  session.participants.values.foldl (reapParticipant ttlMs now session.sid) (session, [])

/-- The outer loop of `reapStale`. Only a session that lost somebody is
written back, and one that lost everybody is dropped. -/
def reapInto (ttlMs now : Int) (state : SessionRegistry × List ReapedParticipant)
    (session : Session) : SessionRegistry × List ReapedParticipant :=
  let next := reapSession ttlMs now session
  if next.1 = session then (state.1, state.2 ++ next.2)
  else if isEmpty next.1 then (state.1.delete session.sid, state.2 ++ next.2)
  else (state.1.save next.1, state.2 ++ next.2)

/-- Removes every participant whose `lastSeenAt` is older than `ttlMs` and
reports who was removed. -/
def reapStale (registry : SessionRegistry) (ttlMs now : Int) :
    SessionRegistry × List ReapedParticipant :=
  registry.all.foldl (reapInto ttlMs now) (registry, [])

/-- The entry of `pid` in the roster of `sid`, if there is one. -/
def participant? (registry : SessionRegistry) (sid : SessionId) (pid : ParticipantId) :
    Option Participant :=
  (registry.get sid).bind fun session => session.participants.get? pid

/-- The same together with the dirty flags. -/
def entryOf (registry : SessionRegistry) (sid : SessionId) (pid : ParticipantId) : Option Entry :=
  (registry.get sid).bind fun session => session.entryOf pid

/-- A participant is looked up by way of its entry. -/
theorem participant?_eq (registry : SessionRegistry) (sid : SessionId) (pid : ParticipantId) :
    registry.participant? sid pid = (registry.entryOf sid pid).map Entry.participant := by
  rw [participant?, entryOf, Option.map_bind]
  congr 1
  funext session
  simp [Session.entryOf, Function.comp_def]

/-- A session is stored under its own id. -/
theorem get_sid {registry : SessionRegistry} {sid : SessionId} {session : Session}
    (h : registry.get sid = some session) : session.sid = sid :=
  registry.keyed sid session h

/-- Saving a session replaces that one and no other. -/
theorem get_save (registry : SessionRegistry) (session : Session) (sid : SessionId) :
    (registry.save session).get sid = if sid = session.sid then some session else registry.get sid :=
  JsMap.get?_set registry.sessions session.sid sid session

/-- Deleting a session takes away that one and no other. -/
theorem get_delete (registry : SessionRegistry) (sid other : SessionId) :
    (registry.delete sid).get other = if other = sid then none else registry.get other :=
  JsMap.get?_delete registry.sessions sid other

/-- The sessions listed are those found under their ids. -/
theorem mem_all_iff {registry : SessionRegistry} {session : Session} :
    session ∈ registry.all ↔ registry.get session.sid = some session := by
  rw [all, JsMap.mem_values_iff]
  constructor
  · intro ⟨sid, h⟩
    rw [registry.keyed sid session h]
    exact h
  · intro h
    exact ⟨session.sid, h⟩

/-- Different sessions in the listing have different ids. -/
theorem all_sids_nodup (registry : SessionRegistry) : (registry.all.map Session.sid).Nodup := by
  rw [all, JsMap.values_map_eq_keys registry.keyed]
  exact registry.sessions.nodup_keys

/-- A session that is not found is not listed. -/
theorem not_mem_sids_of_get_none {registry : SessionRegistry} {sid : SessionId}
    (h : registry.get sid = none) : sid ∉ registry.all.map Session.sid := by
  intro hm
  obtain ⟨session, hs, rfl⟩ := List.mem_map.mp hm
  rw [mem_all_iff.mp hs] at h
  cases h

/-- Saving a session replaces the entries of that one roster. -/
theorem entryOf_save (registry : SessionRegistry) (session : Session) (sid : SessionId)
    (pid : ParticipantId) :
    (registry.save session).entryOf sid pid =
      if sid = session.sid then session.entryOf pid else registry.entryOf sid pid := by
  simp only [entryOf, get_save]
  split <;> rfl

theorem entryOf_of_get {registry : SessionRegistry} {sid : SessionId} {session : Session}
    (h : registry.get sid = some session) (pid : ParticipantId) :
    registry.entryOf sid pid = session.entryOf pid := by
  rw [entryOf, h]
  rfl

theorem entryOf_of_get_none {registry : SessionRegistry} {sid : SessionId}
    (h : registry.get sid = none) (pid : ParticipantId) : registry.entryOf sid pid = none := by
  rw [entryOf, h]
  rfl

theorem participant?_of_get {registry : SessionRegistry} {sid : SessionId} {session : Session}
    (h : registry.get sid = some session) (pid : ParticipantId) :
    registry.participant? sid pid = session.participants.get? pid := by
  rw [participant?, h]
  rfl

/-- Every session of the registry is well formed. -/
def WellFormed (registry : SessionRegistry) : Prop :=
  ∀ sid session, registry.get sid = some session → session.WellFormed

theorem empty_wellFormed : empty.WellFormed := by
  intro sid session h
  cases h

/-- Saving a well formed session keeps the registry well formed. -/
theorem WellFormed.save {registry : SessionRegistry} (wf : registry.WellFormed)
    {session : Session} (hSession : session.WellFormed) : (registry.save session).WellFormed := by
  intro sid stored h
  rw [get_save] at h
  split at h
  · exact Option.some.inj h ▸ hSession
  · exact wf sid stored h

section Rewritten

variable {registry after : SessionRegistry} {own : SessionId} {rewrite : Session → Session}

/-- Rewriting a session in place is seen under its own id only. -/
theorem get_save_rewrite (rewrite : Session → Session) {session : Session}
    (h : registry.get own = some session)
    (kept : (rewrite session).sid = session.sid) (sid : SessionId) :
    (registry.save (rewrite session)).get sid =
      if sid = own then (registry.get sid).map rewrite else registry.get sid := by
  rw [get_save, kept, get_sid h]
  split
  · next hs => rw [hs, h]; rfl
  · rfl

/-- A session that is not there is not rewritten. -/
theorem get_rewrite_of_none (h : registry.get own = none) (sid : SessionId) :
    registry.get sid = if sid = own then (registry.get sid).map rewrite else registry.get sid := by
  split
  · next hs => rw [hs, h]; rfl
  · rfl

variable (moved : ∀ sid, after.get sid =
  if sid = own then (registry.get sid).map rewrite else registry.get sid)

include moved

/-- Rewriting a session changes the entries of that one roster. -/
theorem entryOf_rewritten {pid : ParticipantId} (change : Option Entry → Option Entry)
    (changes : ∀ session, (rewrite session).entryOf pid = change (session.entryOf pid))
    (unseated : change none = none) (sid : SessionId) :
    after.entryOf sid pid =
      if sid = own then change (registry.entryOf sid pid) else registry.entryOf sid pid := by
  rw [entryOf, moved, entryOf]
  split
  · cases registry.get sid with
    | none => exact unseated.symm
    | some session => exact changes session
  · rfl

/-- Rewriting a session into a well formed one keeps the registry well formed. -/
theorem WellFormed.rewritten (wf : registry.WellFormed)
    (keeps : ∀ session : Session, session.WellFormed → (rewrite session).WellFormed) :
    after.WellFormed := by
  intro sid session h
  rw [moved] at h
  split at h
  · obtain ⟨old, ho, rfl⟩ := Option.map_eq_some_iff.mp h
    exact keeps old (wf sid old ho)
  · exact wf sid session h

end Rewritten

end SessionRegistry

end Copresence
