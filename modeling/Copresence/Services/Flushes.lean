import Copresence.Models.PresenceFields
import Copresence.Models.SessionInvariant
import Copresence.Services.Presenters

/-! What a flush reports, read off the roster entries it reports on. -/
namespace Copresence

open Collections

namespace PresenceField

/-- A patch entry carries exactly the flagged fields. -/
theorem ofPatch_toParticipantPatch (field : PresenceField) (pid : ParticipantId)
    (flags : PresenceDirty) (presence : PresenceState) :
    field.ofPatch (toParticipantPatch pid flags presence) =
      if field.marked flags then field.ofPresence presence else none := by
  obtain ⟨cursorFlag, scrollFlag⟩ := flags
  obtain ⟨cursor, _, scroll, _⟩ := presence
  cases field with
  | cursor => cases cursorFlag <;> cases cursor <;> rfl
  | scroll => cases scrollFlag <;> cases scroll <;> rfl

end PresenceField

/-- A snapshot has the positions of its participant. -/
theorem PresenceField.ofSnapshot_toParticipantSnapshot (field : PresenceField)
    (participant : Participant) :
    field.ofSnapshot (toParticipantSnapshot participant) =
      field.ofPresence participant.presence := by
  obtain ⟨_, _, ⟨cursor, _, scroll, _⟩, _⟩ := participant
  cases field with
  | cursor => cases cursor <;> rfl
  | scroll => cases scroll <;> rfl

/-- Flags are not empty when one of them is up. -/
theorem PresenceDirty.ne_empty_iff {flags : PresenceDirty} :
    flags ≠ {} ↔ ∃ field : PresenceField, field.marked flags = true := by
  obtain ⟨cursor, scroll⟩ := flags
  constructor
  · intro h
    cases cursor with
    | true => exact ⟨.cursor, rfl⟩
    | false =>
        cases scroll with
        | true => exact ⟨.scroll, rfl⟩
        | false => exact absurd rfl h
  · intro ⟨field, hf⟩ he
    rw [he] at hf
    cases field <;> cases hf

/-- Flags are empty when none of them is up. -/
theorem PresenceDirty.eq_empty_iff {flags : PresenceDirty} :
    flags = {} ↔ ∀ field : PresenceField, field.marked flags = false := by
  rw [← not_iff_not, ← Ne, PresenceDirty.ne_empty_iff, not_forall]
  simp only [Bool.not_eq_false]

/-- The position an entry carries, if it carries one, is that of the presence. -/
def ParticipantPatch.AgreesOn (entry : ParticipantPatch) (presence : PresenceState)
    (field : PresenceField) : Prop :=
  ∀ value, field.ofPatch entry = some value → field.ofPresence presence = some value

def ParticipantPatch.Agrees (entry : ParticipantPatch) (presence : PresenceState) : Prop :=
  ∀ field, entry.AgreesOn presence field

/-- A patch has the positions of its participant in what it carries. -/
theorem toParticipantPatch_agrees (pid : ParticipantId) (flags : PresenceDirty)
    (presence : PresenceState) : (toParticipantPatch pid flags presence).Agrees presence := by
  intro field value h
  rw [PresenceField.ofPatch_toParticipantPatch] at h
  split at h
  · exact h
  · cases h

def ParticipantPatch.Carries (entry : ParticipantPatch) : Prop :=
  ∃ (field : PresenceField) (value : ℚ × ℚ), field.ofPatch entry = some value

/-- What carries something cannot agree with a presence that has nothing. -/
theorem ParticipantPatch.Carries.not_agrees {entry : ParticipantPatch} (carries : entry.Carries)
    {presence : PresenceState} (nothing : ∀ field : PresenceField, field.ofPresence presence = none) :
    ¬ entry.Agrees presence := by
  obtain ⟨field, value, h⟩ := carries
  intro agrees
  have held := agrees field value h
  rw [nothing] at held
  cases held

/-- A flagged field has a value to report. -/
theorem PresenceDirty.Reports.of_marked {flags : PresenceDirty} {presence : PresenceState}
    (reports : flags.Reports presence) {field : PresenceField} (marked : field.marked flags = true) :
    ∃ value, field.ofPresence presence = some value := by
  cases field with
  | cursor =>
      obtain ⟨point, hp⟩ := Option.isSome_iff_exists.mp (reports.2.1 marked)
      exact ⟨(point.x, point.y), by rw [PresenceField.ofPresence, hp]; rfl⟩
  | scroll =>
      obtain ⟨position, hp⟩ := Option.isSome_iff_exists.mp (reports.2.2 marked)
      exact ⟨(position.x, position.y), by rw [PresenceField.ofPresence, hp]; rfl⟩

theorem PresenceDirty.Reports.ne_empty {flags : PresenceDirty} {presence : PresenceState}
    (reports : flags.Reports presence) : flags ≠ {} := by
  intro h
  rw [h] at reports
  rcases reports.1 with hf | hf <;> cases hf

/-- Flags with something to report make a patch that carries something. -/
theorem PresenceDirty.Reports.carries {flags : PresenceDirty} {presence : PresenceState}
    (reports : flags.Reports presence) (pid : ParticipantId) :
    (toParticipantPatch pid flags presence).Carries := by
  obtain ⟨field, marked⟩ := PresenceDirty.ne_empty_iff.mp reports.ne_empty
  obtain ⟨value, hv⟩ := reports.of_marked marked
  exact ⟨field, value, by rw [PresenceField.ofPatch_toParticipantPatch, if_pos marked, hv]⟩

/-- The snapshots of a session are of its roster. -/
theorem mem_toParticipantSnapshots_pids {session : Session} (wf : session.WellFormed)
    {pid : ParticipantId} :
    pid ∈ (toParticipantSnapshots session).map ParticipantSnapshot.pid ↔
      (session.entryOf pid).isSome := by
  rw [Session.entryOf_isSome, JsMap.has_eq_true_iff, toParticipantSnapshots, List.map_map,
    List.mem_map]
  constructor
  · intro ⟨participant, hm, hp⟩
    obtain ⟨key, hk⟩ := JsMap.mem_values_iff.mp hm
    subst hp
    refine ⟨participant, ?_⟩
    show session.participants.get? participant.pid = _
    rw [wf.keyed key participant hk, hk]
  · intro ⟨participant, hp⟩
    exact ⟨participant, JsMap.mem_values_iff.mpr ⟨pid, hp⟩, wf.keyed pid participant hp⟩

namespace Session

variable {session : Session} {seq now : Int} {patch : PatchMessage}

theorem reports_of_dirtyOf (wf : session.WellFormed) {pid : ParticipantId}
    {participant : Participant} (hp : session.participants.get? pid = some participant)
    (dirty : session.dirtyOf pid ≠ {}) :
    session.dirty.get? pid = some (session.dirtyOf pid) ∧
      (session.dirtyOf pid).Reports participant.presence := by
  unfold dirtyOf at *
  cases hd : session.dirty.get? pid with
  | none => rw [hd] at dirty; exact absurd rfl dirty
  | some flags =>
      obtain ⟨stored, hs, reports⟩ := wf.dirty pid flags hd
      rw [hp] at hs
      exact ⟨rfl, Option.some.inj hs ▸ reports⟩

/-- In a well formed session flags that are up have a position to report. -/
theorem entry_reports (wf : session.WellFormed) {pid : ParticipantId} {entry : Entry}
    (he : session.entryOf pid = some entry) (dirty : entry.dirty ≠ {}) :
    entry.dirty.Reports entry.participant.presence := by
  obtain ⟨participant, hp, rfl⟩ := Option.map_eq_some_iff.mp he
  exact (reports_of_dirtyOf wf hp dirty).2

/-- A fresh patch reports on the flagged members of the roster. -/
theorem mem_toPatch_iff (wf : session.WellFormed) (h : toPatch session seq now = some patch)
    {reported : ParticipantPatch} :
    reported ∈ patch.patches ↔
      ∃ entry, session.entryOf reported.pid = some entry ∧ entry.dirty ≠ {} ∧
        reported = toParticipantPatch reported.pid entry.dirty entry.participant.presence := by
  rw [mem_toPatch h]
  constructor
  · rintro ⟨flags, participant, hd, hp, he⟩
    obtain ⟨stored, hs, reports⟩ := wf.dirty _ _ hd
    have hf : session.dirtyOf reported.pid = flags := by
      rw [dirtyOf, hd]
      rfl
    exact ⟨⟨participant, flags⟩, by rw [entryOf_of_get hp, hf], reports.ne_empty, he⟩
  · rintro ⟨entry, hEntry, dirty, he⟩
    obtain ⟨participant, hp, rfl⟩ := Option.map_eq_some_iff.mp hEntry
    exact ⟨_, participant, (reports_of_dirtyOf wf hp dirty).1, hp, he⟩

/-- A fresh patch carries exactly what is flagged. -/
theorem carried_toPatch (wf : session.WellFormed) (h : toPatch session seq now = some patch)
    {pid : ParticipantId} {entry : Entry} (he : session.entryOf pid = some entry)
    (field : PresenceField) :
    field.carried pid patch.patches =
      if field.marked entry.dirty then field.ofPresence entry.participant.presence else none := by
  have own : ∀ reported ∈ patch.patches, pid = reported.pid → field.ofPatch reported =
      if field.marked entry.dirty then field.ofPresence entry.participant.presence else none := by
    intro reported hr hp
    obtain ⟨found, hf, _, hReported⟩ := (mem_toPatch_iff wf h).mp hr
    rw [← hp, he] at hf
    rw [hReported, PresenceField.ofPatch_toParticipantPatch, Option.some.inj hf]
  apply PresenceField.carried_eq own
  intro unlisted
  rw [if_neg]
  intro marked
  refine unlisted (List.mem_map.mpr ⟨toParticipantPatch pid entry.dirty entry.participant.presence,
    (mem_toPatch_iff wf h).mpr ⟨entry, he, ?_, rfl⟩, rfl⟩)
  exact PresenceDirty.ne_empty_iff.mpr ⟨field, marked⟩

/-- Something waits to be flushed. -/
def Unflushed (session : Session) : Prop :=
  ∃ pid entry, session.entryOf pid = some entry ∧ entry.dirty ≠ {}

/-- There is a patch exactly when something is unflushed. -/
theorem toPatch_isSome_iff (wf : session.WellFormed) :
    (toPatch session seq now).isSome ↔ session.Unflushed := by
  rw [← Option.ne_none_iff_isSome, Ne, toPatch_eq_none_iff, not_forall]
  constructor
  · intro ⟨pid, h⟩
    rw [Classical.not_imp] at h
    obtain ⟨⟨flags, hd⟩, _⟩ := (Option.isSome_iff_exists.mp h.1), h.2
    obtain ⟨participant, hp, reports⟩ := wf.dirty pid flags hd
    refine ⟨pid, _, entryOf_of_get hp, ?_⟩
    show (session.dirty.get? pid).getD {} ≠ {}
    rw [hd]
    exact reports.ne_empty
  · intro ⟨pid, entry, he, dirty⟩
    obtain ⟨participant, hp, rfl⟩ := Option.map_eq_some_iff.mp he
    refine ⟨pid, fun h => ?_⟩
    rw [h (Option.isSome_of_eq_some (reports_of_dirtyOf wf hp dirty).1)] at hp
    cases hp

end Session

end Copresence
