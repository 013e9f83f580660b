import Copresence.Models.Session

/-! Domain state to wire messages. -/
namespace Copresence

open Collections

def toParticipantSnapshot (participant : Participant) : ParticipantSnapshot where
  pid := participant.pid
  color := participant.color
  lastSeenAt := participant.lastSeenAt
  x := participant.presence.cursor.map CursorPosition.x
  y := participant.presence.cursor.map CursorPosition.y
  scrollX := participant.presence.scroll.map ScrollPosition.x
  scrollY := participant.presence.scroll.map ScrollPosition.y

def toParticipantSnapshots (session : Session) : List ParticipantSnapshot :=
  session.participants.values.map toParticipantSnapshot

/-- Sent to the connecting client only, on a successful handshake. -/
def toWelcome (session : Session) (connectingPid : ParticipantId) (seq now : Int) :
    WelcomeMessage where
  sid := session.sid
  seq := seq
  ts := now
  pid := connectingPid
  participants := toParticipantSnapshots session

/-- The fields of one participant that are both flagged and present. -/
def toParticipantPatch (pid : ParticipantId) (dirty : PresenceDirty) (presence : PresenceState) :
    ParticipantPatch where
  pid := pid
  x := if dirty.cursor then presence.cursor.map CursorPosition.x else none
  y := if dirty.cursor then presence.cursor.map CursorPosition.y else none
  scrollX := if dirty.scroll then presence.scroll.map ScrollPosition.x else none
  scrollY := if dirty.scroll then presence.scroll.map ScrollPosition.y else none

/-- One entry of the loop in `toPatch`; a participant who left has none. -/
def dirtyPatch (session : Session) (entry : ParticipantId × PresenceDirty) :
    Option ParticipantPatch :=
  (session.participants.get? entry.1).map fun participant =>
    toParticipantPatch entry.1 entry.2 participant.presence

/-- The coalesced tick output, or nothing when nothing is dirty. -/
def toPatch (session : Session) (seq now : Int) : Option PatchMessage :=
  if session.dirty.size = 0 then none
  else
    let patches := session.dirty.entries.filterMap (dirtyPatch session)
    if patches.length = 0 then none else some { sid := session.sid, seq, ts := now, patches }

theorem toPatch_envelope {session : Session} {seq now : Int} {patch : PatchMessage}
    (h : toPatch session seq now = some patch) :
    patch.sid = session.sid ∧ patch.seq = seq ∧ patch.ts = now := by
  unfold toPatch at h
  dsimp only at h
  split at h
  · cases h
  · split at h
    · cases h
    · rw [← Option.some.inj h]
      exact ⟨rfl, rfl, rfl⟩

theorem toPatch_patches {session : Session} {seq now : Int} {patch : PatchMessage}
    (h : toPatch session seq now = some patch) :
    patch.patches = session.dirty.entries.filterMap (dirtyPatch session) := by
  unfold toPatch at h
  dsimp only at h
  split at h
  · cases h
  · split at h
    · cases h
    · rw [← Option.some.inj h]

/-- A patch has one entry a participant. -/
theorem toPatch_nodup {session : Session} {seq now : Int} {patch : PatchMessage}
    (h : toPatch session seq now = some patch) :
    (patch.patches.map ParticipantPatch.pid).Nodup := by
  rw [toPatch_patches h, List.map_filterMap, List.Nodup, List.pairwise_filterMap]
  apply (List.pairwise_map.mp session.dirty.nodup).imp
  intro first second distinct pid hFirst other hSecond
  obtain ⟨patchFirst, hf, rfl⟩ := Option.map_eq_some_iff.mp hFirst
  obtain ⟨patchSecond, hs, rfl⟩ := Option.map_eq_some_iff.mp hSecond
  obtain ⟨_, _, rfl⟩ := Option.map_eq_some_iff.mp hf
  obtain ⟨_, _, rfl⟩ := Option.map_eq_some_iff.mp hs
  exact distinct

/-- Each entry of a patch is the dirty content of one roster member. -/
theorem mem_toPatch {session : Session} {seq now : Int} {patch : PatchMessage}
    (h : toPatch session seq now = some patch) {entry : ParticipantPatch} :
    entry ∈ patch.patches ↔
      ∃ flags participant, session.dirty.get? entry.pid = some flags ∧
        session.participants.get? entry.pid = some participant ∧
        entry = toParticipantPatch entry.pid flags participant.presence := by
  rw [toPatch_patches h, List.mem_filterMap]
  constructor
  · intro ⟨⟨pid, flags⟩, hm, he⟩
    obtain ⟨participant, hget, rfl⟩ := Option.map_eq_some_iff.mp he
    exact ⟨flags, participant, JsMap.get?_eq_some_iff.mpr hm, hget, rfl⟩
  · intro ⟨flags, participant, hd, hget, he⟩
    refine ⟨(entry.pid, flags), JsMap.get?_eq_some_iff.mp hd, ?_⟩
    rw [dirtyPatch, hget, Option.map_some, ← he]

/-- Nothing to report means no dirty entry names a roster member. -/
theorem toPatch_eq_none_iff {session : Session} {seq now : Int} :
    toPatch session seq now = none ↔
      ∀ pid, (session.dirty.get? pid).isSome → session.participants.get? pid = none := by
  rw [toPatch]
  dsimp only
  split
  · next hz =>
      have hn := JsMap.size_eq_zero_iff.mp hz
      simp [hn]
  · rw [ite_eq_left_iff]
    simp only [reduceCtorEq, imp_false, not_not, List.length_eq_zero_iff,
      List.filterMap_eq_nil_iff, dirtyPatch, Option.map_eq_none_iff, Option.isSome_iff_exists]
    constructor
    · intro h pid ⟨flags, hf⟩
      exact h (pid, flags) (JsMap.get?_eq_some_iff.mp hf)
    · intro h ⟨pid, flags⟩ hm
      exact h pid ⟨flags, JsMap.get?_eq_some_iff.mpr hm⟩

end Copresence
