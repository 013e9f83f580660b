import Copresence.Services.Presenters
import Copresence.Services.ReapStale

/-! The dirty flags of a session, over everything the server does to one: they
name members only, a set flag has a value, and the patch drops none of them. -/
namespace Copresence

open Collections

/-- What a stored session can have become since its creation. A sweep works on
the registry, so its step is what the registry stores under the same id. -/
inductive Session.Reachable : Session → Prop where
  | created (sid : SessionId) (now : Int) : Reachable (createSession sid now)
  | applied {session : Session} (prior : Reachable session) (event : SessionEvent) :
      Reachable (applyEvent session event).state
  | removed {session : Session} (prior : Reachable session) (pid : ParticipantId) :
      Reachable (removeParticipant session pid)
  | cleared {session : Session} (prior : Reachable session) : Reachable (clearDirty session)
  | reaped {session next : Session} (prior : Reachable session) (registry : SessionRegistry)
      (ttlMs now : Int) (stored : registry.get session.sid = some session)
      (kept : (registry.reapStale ttlMs now).1.get session.sid = some next) : Reachable next

/-- An entry that tells its reader where a cursor or a scroll is. -/
def ParticipantPatch.Complete (entry : ParticipantPatch) : Prop :=
  (entry.x.isSome ∧ entry.y.isSome) ∨ (entry.scrollX.isSome ∧ entry.scrollY.isSome)

namespace SessionRegistry

/-- A sweep leaves a session as it was or without some of its members. -/
theorem exists_removeAll_of_reapedEntry {ttlMs now : Int} {session next : Session}
    (h : reapedEntry ttlMs now session (some session) = some next) :
    ∃ pids, next = removeAll session pids := by
  unfold reapedEntry at h
  dsimp only at h
  split at h
  · obtain rfl := Option.some.inj h
    exact ⟨[], rfl⟩
  · split at h
    · cases h
    · rw [reapSession_eq] at h
      exact ⟨_, (Option.some.inj h).symm⟩

end SessionRegistry

namespace Session

variable {session : Session}

/-- Every reachable session is well formed. -/
theorem Reachable.wellFormed (reachable : session.Reachable) : session.WellFormed := by
  induction reachable with
  | created sid now => exact WellFormed.createSession sid now
  | applied prior event ih => exact ih.applyEvent event
  | removed prior pid ih => exact ih.removeParticipant pid
  | cleared prior ih => exact ih.clearDirty
  | reaped prior registry ttlMs now stored kept ih =>
      rw [SessionRegistry.get_reapStale, stored, Option.bind_some] at kept
      obtain ⟨pids, rfl⟩ := SessionRegistry.exists_removeAll_of_reapedEntry kept
      exact removeAll_wellFormed ih pids

/-- No entry of the loop is skipped: whoever has flags is a member. -/
theorem WellFormed.exists_dirtyPatch (wf : session.WellFormed)
    {entry : ParticipantId × PresenceDirty} (dirty : entry ∈ session.dirty.entries) :
    ∃ patch, dirtyPatch session entry = some patch ∧ patch.pid = entry.1 := by
  obtain ⟨participant, member, _⟩ := wf.dirty entry.1 entry.2 (JsMap.get?_eq_some_iff.mpr dirty)
  exact ⟨_, by rw [dirtyPatch, member, Option.map_some], rfl⟩

/-- There is no patch exactly when nobody has flags. -/
theorem WellFormed.toPatch_eq_none_iff (wf : session.WellFormed) {seq now : Int} :
    toPatch session seq now = none ↔ session.dirty.size = 0 := by
  rw [Copresence.toPatch_eq_none_iff, JsMap.size_eq_zero_iff]
  constructor
  · intro nobody pid
    cases hd : session.dirty.get? pid with
    | none => rfl
    | some flags =>
        obtain ⟨participant, member, _⟩ := wf.dirty pid flags hd
        have gone := nobody pid (by rw [hd, Option.isSome_some])
        rw [member] at gone
        cases gone
  · intro clean pid flagged
    rw [clean pid] at flagged
    cases flagged

/-- A patch names those who have flags, each once and in their order. -/
theorem WellFormed.toPatch_pids (wf : session.WellFormed) {seq now : Int} {patch : PatchMessage}
    (h : toPatch session seq now = some patch) :
    patch.patches.map ParticipantPatch.pid = session.dirty.keys := by
  rw [toPatch_patches h, List.map_filterMap, JsMap.keys, ← List.filterMap_eq_map]
  apply List.filterMap_congr
  intro entry dirty
  obtain ⟨patched, found, named⟩ := wf.exists_dirtyPatch dirty
  rw [found, Option.map_some, named]
  rfl

/-- Every part of a patch carries something. -/
theorem WellFormed.toPatch_complete (wf : session.WellFormed) {seq now : Int}
    {patch : PatchMessage} (h : toPatch session seq now = some patch) {entry : ParticipantPatch}
    (listed : entry ∈ patch.patches) : entry.Complete := by
  obtain ⟨flags, participant, dirty, member, written⟩ := (mem_toPatch h).mp listed
  obtain ⟨stored, sameMember, some, cursor, scroll⟩ := wf.dirty entry.pid flags dirty
  obtain rfl : participant = stored := Option.some.inj (member.symm.trans sameMember)
  rw [written]
  rcases some with flagged | flagged
  · left
    simp [toParticipantPatch, flagged, cursor flagged]
  · right
    simp [toParticipantPatch, flagged, scroll flagged]

/-- The flags of a reachable session are well formed, and its patch reports
every one of them once, with something to show. -/
theorem Reachable.dirty_reported (reachable : session.Reachable) (seq now : Int) :
    session.WellFormed ∧
      (toPatch session seq now = none ↔ session.dirty.size = 0) ∧
      ∀ patch, toPatch session seq now = some patch →
        patch.patches.map ParticipantPatch.pid = session.dirty.keys ∧
          session.dirty.keys.Nodup ∧ ∀ entry ∈ patch.patches, entry.Complete := by
  have wf := reachable.wellFormed
  have reported : ∀ patch, toPatch session seq now = some patch →
      patch.patches.map ParticipantPatch.pid = session.dirty.keys ∧
        session.dirty.keys.Nodup ∧ ∀ entry ∈ patch.patches, entry.Complete := by
    intro patch h
    exact ⟨wf.toPatch_pids h, session.dirty.nodup_keys, fun _ listed => wf.toPatch_complete h listed⟩
  exact ⟨wf, wf.toPatch_eq_none_iff, reported⟩

def early : HelloMessage :=
  ⟨⟨1, ⟨"s", nonempty_s⟩, ⟨"a", nonempty_a⟩, 0, 0⟩, 800, 600, 1, .visible⟩

def late : HelloMessage := ⟨⟨1, ⟨"s", nonempty_s⟩, ⟨"b", nonempty_b⟩, 0, 5⟩, 800, 600, 1, .visible⟩

def moved (msg : HelloMessage) : SessionEvent := .cursor ⟨⟨1, msg.sid, msg.pid, 1, msg.ts⟩, 1, 4⟩

/-- Two members moved, and neither move was flushed yet. -/
def moving : Session :=
  [.hello early, .hello late, moved early, moved late].foldl
    (fun session event => (applyEvent session event).state) (createSession early.sid 0)

theorem moving_reachable : moving.Reachable :=
  ((((Reachable.created early.sid 0).applied (.hello early)).applied (.hello late)).applied
    (moved early)).applied (moved late)

/-- The one not heard from is swept away with its flag. -/
theorem swept_reported :
    ((SessionRegistry.empty.save moving).reapStale 3 6).1.get moving.sid =
        some (removeParticipant moving early.pid) ∧
      (removeParticipant moving early.pid).WellFormed ∧
      (toPatch (removeParticipant moving early.pid) 0 9 = none ↔
        (removeParticipant moving early.pid).dirty.size = 0) ∧
      ∀ patch, toPatch (removeParticipant moving early.pid) 0 9 = some patch →
        patch.patches.map ParticipantPatch.pid = (removeParticipant moving early.pid).dirty.keys ∧
          (removeParticipant moving early.pid).dirty.keys.Nodup ∧
          ∀ entry ∈ patch.patches, entry.Complete := by
  have stored : (SessionRegistry.empty.save moving).get moving.sid = some moving := by decide
  have kept : ((SessionRegistry.empty.save moving).reapStale 3 6).1.get moving.sid =
      some (removeParticipant moving early.pid) := by decide
  exact ⟨kept, (moving_reachable.reaped _ 3 6 stored kept).dirty_reported 0 9⟩

end Session

end Copresence
