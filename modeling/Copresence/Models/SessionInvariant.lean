import Copresence.Models.PresenceFields
import Copresence.Models.Session

/-! What every session reachable through the reducer satisfies: each
participant under its own id, and dirty flags only on values that exist. -/
namespace Copresence

open Collections

/-- A presence field has a value exactly when it has a sequence number. -/
def PresenceState.Coherent (state : PresenceState) : Prop :=
  (state.cursor.isSome ↔ state.cursorSeq.isSome) ∧ (state.scroll.isSome ↔ state.scrollSeq.isSome)

/-- Every set flag of a dirty entry has a value to report, and one is set. -/
def PresenceDirty.Reports (flags : PresenceDirty) (state : PresenceState) : Prop :=
  (flags.cursor = true ∨ flags.scroll = true) ∧
    (flags.cursor = true → state.cursor.isSome) ∧ (flags.scroll = true → state.scroll.isSome)

structure Session.WellFormed (session : Session) : Prop where
  keyed : ∀ pid participant, session.participants.get? pid = some participant →
    participant.pid = pid
  coherent : ∀ pid participant, session.participants.get? pid = some participant →
    participant.presence.Coherent
  dirty : ∀ pid flags, session.dirty.get? pid = some flags →
    ∃ participant, session.participants.get? pid = some participant ∧
      flags.Reports participant.presence

theorem emptyPresence_coherent : emptyPresence.Coherent := by
  simp [PresenceState.Coherent, emptyPresence]

/-- Presence is coherent when each of its fields has a position exactly with a number. -/
theorem PresenceState.coherent_iff {state : PresenceState} :
    state.Coherent ↔
      ∀ field : PresenceField, (field.ofPresence state).isSome ↔ (field.seqOf state).isSome := by
  constructor
  · intro coherent field
    cases field with
    | cursor => simpa [PresenceField.seqOf] using coherent.1
    | scroll => simpa [PresenceField.seqOf] using coherent.2
  · intro fields
    have both := And.intro (fields .cursor) (fields .scroll)
    simpa [PresenceField.seqOf, Coherent] using both

/-- Writing a field writes its position and its number together. -/
theorem PresenceState.Coherent.write {state : PresenceState} (coherent : state.Coherent)
    (field : PresenceField) (point : ℚ × ℚ) (seq : Int) :
    (field.write state point seq).Coherent := by
  by_cases takes : field.Takes state seq
  · rw [coherent_iff]
    intro other
    obtain ⟨value, number⟩ := field.write_of_takes state point seq takes other
    rw [value, number]
    split
    · exact Iff.rfl
    · exact coherent_iff.mp coherent other
  · rwa [field.write_of_not_takes state point seq takes]

namespace Session.WellFormed

theorem createSession (sid : SessionId) (now : Int) :
    (Copresence.createSession sid now).WellFormed :=
  ⟨by simp, by simp, by intro pid flags h; cases h⟩

/-- A dirty entry always names somebody in the roster. -/
theorem dirty_none {session : Session} (wf : session.WellFormed) {pid : ParticipantId}
    (h : session.participants.get? pid = none) : session.dirty.get? pid = none := by
  cases hd : session.dirty.get? pid with
  | none => rfl
  | some flags =>
      obtain ⟨participant, hp, _⟩ := wf.dirty pid flags hd
      rw [h] at hp
      cases hp

/-- The flags of an entry; nobody outside the roster has any. -/
theorem dirtyOf_eq {session : Session} (wf : session.WellFormed) (pid : ParticipantId) :
    session.dirtyOf pid = ((session.entryOf pid).map Entry.dirty).getD {} := by
  cases hp : session.participants.get? pid with
  | none => simp [Session.dirtyOf, Session.entryOf, wf.dirty_none hp, hp]
  | some participant => rw [Session.entryOf_of_get hp]; rfl

/-- Removing somebody leaves the session well formed. -/
theorem removeParticipant {session : Session} (wf : session.WellFormed) (pid : ParticipantId) :
    (Copresence.removeParticipant session pid).WellFormed := by
  refine ⟨?_, ?_, ?_⟩
  · intro other participant h
    rw [removeParticipant_get?] at h
    split at h
    · cases h
    · exact wf.keyed other participant h
  · intro other participant h
    rw [removeParticipant_get?] at h
    split at h
    · cases h
    · exact wf.coherent other participant h
  · intro other flags h
    by_cases he : other = pid
    · subst he
      cases hp : session.participants.has other with
      | true =>
          rw [removeParticipant_dirty_self session other hp] at h
          cases h
      | false =>
          rw [Copresence.removeParticipant, if_neg (by simp [hp])] at h
          rw [wf.dirty_none (JsMap.has_eq_false_iff.mp hp)] at h
          cases h
    · rw [removeParticipant_dirty session pid other he] at h
      obtain ⟨participant, hp, hr⟩ := wf.dirty other flags h
      exact ⟨participant, by rw [removeParticipant_get?, if_neg he, hp], hr⟩

/-- A flush leaves the session well formed. -/
theorem clearDirty {session : Session} (wf : session.WellFormed) :
    (Copresence.clearDirty session).WellFormed := by
  refine ⟨?_, ?_, ?_⟩
  · simpa using wf.keyed
  · simpa using wf.coherent
  · intro pid flags h
    rw [clearDirty_get?] at h
    cases h

/-- An update that keeps the id, coherence and all reported values. -/
theorem updateParticipant {session : Session} (wf : session.WellFormed) (pid : ParticipantId)
    (updater : Participant → Participant) (pid_eq : ∀ p, (updater p).pid = p.pid)
    (coherent : ∀ p, session.participants.get? pid = some p → (updater p).presence.Coherent)
    (cursor : ∀ p, session.participants.get? pid = some p →
      p.presence.cursor.isSome → (updater p).presence.cursor.isSome)
    (scroll : ∀ p, session.participants.get? pid = some p →
      p.presence.scroll.isSome → (updater p).presence.scroll.isSome) :
    (Copresence.updateParticipant session pid updater).WellFormed := by
  refine ⟨?_, ?_, ?_⟩
  · intro other participant h
    rw [updateParticipant_get?] at h
    split at h
    · next he =>
        obtain ⟨old, ho, rfl⟩ := Option.map_eq_some_iff.mp h
        rw [pid_eq, wf.keyed pid old ho, he]
    · exact wf.keyed other participant h
  · intro other participant h
    rw [updateParticipant_get?] at h
    split at h
    · obtain ⟨old, ho, rfl⟩ := Option.map_eq_some_iff.mp h
      exact coherent old ho
    · exact wf.coherent other participant h
  · intro other flags h
    rw [updateParticipant_dirty] at h
    obtain ⟨participant, hp, hs, hc, hr⟩ := wf.dirty other flags h
    rw [updateParticipant_get?]
    by_cases he : other = pid
    · subst he
      rw [if_pos rfl, hp]
      exact ⟨updater participant, rfl, hs, fun hf => cursor participant hp (hc hf),
        fun hf => scroll participant hp (hr hf)⟩
    · rw [if_neg he, hp]
      exact ⟨participant, rfl, hs, hc, hr⟩

/-- Marking what has a value leaves the session well formed. -/
theorem markPresenceDirty {session : Session} (wf : session.WellFormed) (pid : ParticipantId)
    {fields : PresenceDirty} {participant : Participant}
    (hp : session.participants.get? pid = some participant)
    (reports : fields.Reports participant.presence) :
    (Copresence.markPresenceDirty session pid fields).WellFormed := by
  refine ⟨?_, ?_, ?_⟩
  · simpa using wf.keyed
  · simpa using wf.coherent
  · intro other flags h
    rw [markPresenceDirty_participants]
    rw [markPresenceDirty_get?] at h
    split at h
    · next he =>
        subst he
        refine ⟨participant, hp, ?_⟩
        obtain rfl := Option.some.inj h
        have old : ∀ flags, session.dirty.get? other = some flags →
            flags.Reports participant.presence := by
          intro flags hd
          obtain ⟨stored, hs, hr⟩ := wf.dirty other flags hd
          rw [hp] at hs
          exact (Option.some.inj hs) ▸ hr
        cases hd : session.dirty.get? other with
        | none => simpa [Session.dirtyOf, hd] using reports
        | some flags =>
            obtain ⟨_, hc, hs⟩ := old flags hd
            obtain ⟨hany, hc', hs'⟩ := reports
            refine ⟨?_, ?_, ?_⟩
            · rcases hany with hf | hf <;> simp [hf]
            · intro hf
              rcases Bool.or_eq_true _ _ ▸ hf with hf | hf
              · exact hc (by simpa [Session.dirtyOf, hd] using hf)
              · exact hc' hf
            · intro hf
              rcases Bool.or_eq_true _ _ ▸ hf with hf | hf
              · exact hs (by simpa [Session.dirtyOf, hd] using hf)
              · exact hs' hf
    · exact wf.dirty other flags h

/-- Adding somebody leaves the session well formed. -/
theorem addParticipant {session : Session} (wf : session.WellFormed) (pid : ParticipantId)
    (now : Int) : (Copresence.addParticipant session pid now).WellFormed := by
  rw [Copresence.addParticipant]
  split
  · exact wf
  · next h =>
      have hn := JsMap.has_eq_false_iff.mp (Bool.not_eq_true _ ▸ h)
      refine ⟨?_, ?_, ?_⟩
      · intro other participant hp
        rw [JsMap.get?_set] at hp
        split at hp
        · next he => rw [← Option.some.inj hp, he]; rfl
        · exact wf.keyed other participant hp
      · intro other participant hp
        rw [JsMap.get?_set] at hp
        split at hp
        · rw [← Option.some.inj hp]
          exact emptyPresence_coherent
        · exact wf.coherent other participant hp
      · intro other flags hd
        obtain ⟨participant, hp, hr⟩ := wf.dirty other flags hd
        have he : other ≠ pid := by
          rintro rfl
          rw [hn] at hp
          cases hp
        exact ⟨participant, by rw [JsMap.get?_set, if_neg he, hp], hr⟩

/-- The presence a write leaves behind has a value in the field it marks dirty. -/
theorem applyPresence {session : Session} (wf : session.WellFormed) (pid : ParticipantId)
    (field : PresenceField) (point : ℚ × ℚ) (seq : Int) (changed : FieldMask) :
    (Copresence.applyPresence session pid (fun presence => field.write presence point seq)
      field.flag changed).state.WellFormed := by
  rw [Copresence.applyPresence]
  cases hp : session.participants.get? pid with
  | none => exact wf
  | some participant =>
      dsimp only
      split
      · exact wf
      · next written =>
          have takes := (field.write_ne_iff participant.presence point seq).mp written
          have value : ∀ other : PresenceField, other = field ∨
              (other.ofPresence participant.presence).isSome →
                (other.ofPresence (field.write participant.presence point seq)).isSome := by
            intro other held
            rw [(field.write_of_takes participant.presence point seq takes other).1]
            split
            · rfl
            · next another => exact held.resolve_left another
          have kept : ∀ (other : PresenceField) (p : Participant),
              session.participants.get? pid = some p → (other.ofPresence p.presence).isSome →
                (other.ofPresence (field.write participant.presence point seq)).isSome := by
            intro other p h held
            rw [hp] at h
            rw [← Option.some.inj h] at held
            exact value other (Or.inr held)
          have updated := wf.updateParticipant pid
            (fun p => { p with presence := field.write participant.presence point seq })
            (fun _ => rfl)
            (fun _ _ => (wf.coherent pid participant hp).write field point seq)
            (fun p h => by simpa using kept .cursor p h) (fun p h => by simpa using kept .scroll p h)
          apply updated.markPresenceDirty pid (by rw [updateParticipant_get?, if_pos rfl, hp]; rfl)
          have own := value field (Or.inl rfl)
          cases field with
          | cursor => exact ⟨Or.inl rfl, fun _ => (by simpa using own), fun h => by cases h⟩
          | scroll => exact ⟨Or.inr rfl, (fun h => by cases h), fun _ => (by simpa using own)⟩

/-- Every event leaves the session well formed. -/
theorem applyEvent {session : Session} (wf : session.WellFormed) (event : SessionEvent) :
    (Copresence.applyEvent session event).state.WellFormed := by
  cases event with
  | hello msg =>
      have added := wf.addParticipant msg.pid msg.ts
      exact added.updateParticipant msg.pid _ (fun _ => rfl)
        (fun p hp => added.coherent msg.pid p hp) (fun _ _ h => h) (fun _ _ h => h)
  | cursor msg => exact wf.applyPresence msg.pid .cursor (msg.x, msg.y) msg.seq { cursor := true }
  | scroll msg =>
      exact wf.applyPresence msg.pid .scroll (msg.scrollX, msg.scrollY) msg.seq { scroll := true }
  | bye msg =>
      simp only [Copresence.applyEvent]
      split
      · exact wf.removeParticipant msg.pid
      · exact wf

end Session.WellFormed

end Copresence
