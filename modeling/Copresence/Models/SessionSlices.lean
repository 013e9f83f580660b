import Copresence.Lib.Keyed
import Copresence.Models.PresenceFields
import Copresence.Models.Session

/-! What the reducer does to one participant id: every event acts on the slice
of its own participant, and reports only what it finds there. -/
namespace Copresence

open Collections

/-- What a session holds under one participant id. -/
structure Slice where
  participant : Option Participant
  dirty : Option PresenceDirty
deriving DecidableEq

def Session.slice (session : Session) (pid : ParticipantId) : Slice :=
  { participant := session.participants.get? pid, dirty := session.dirty.get? pid }

/-- Equal as maps: what is left out is the order of the keys. -/
structure Session.SameMaps (first second : Session) : Prop where
  sid : first.sid = second.sid
  createdAt : first.createdAt = second.createdAt
  participants : ∀ pid, first.participants.get? pid = second.participants.get? pid
  dirty : ∀ pid, first.dirty.get? pid = second.dirty.get? pid

namespace Slice

/-- The flags with more of them set. -/
def marked (fields : PresenceDirty) (dirty : Option PresenceDirty) : PresenceDirty :=
  { cursor := (dirty.getD {}).cursor || fields.cursor
    scroll := (dirty.getD {}).scroll || fields.scroll }

/-- A presence written to a known participant, unless it is the old one. -/
def write (slice : Slice) (change : PresenceState → PresenceState) (fields : PresenceDirty) :
    Slice :=
  match slice.participant with
  | none => slice
  | some participant =>
    if change participant.presence = participant.presence then slice
    else
      { participant := some { participant with presence := change participant.presence }
        dirty := some (marked fields slice.dirty) }

/-- Whether such a write changes anything. -/
def changes (slice : Slice) (change : PresenceState → PresenceState) : Bool :=
  match slice.participant with
  | none => false
  | some participant => decide (change participant.presence ≠ participant.presence)

def act (slice : Slice) : SessionEvent → Slice
  | .hello msg => { slice with participant := some (helloed msg slice.participant) }
  | .cursor msg => slice.write (·.withCursor ⟨msg.x, msg.y⟩ msg.seq) { cursor := true }
  | .scroll msg => slice.write (·.withScroll ⟨msg.scrollX, msg.scrollY⟩ msg.seq) { scroll := true }
  | .bye _ => if slice.participant.isSome then { participant := none, dirty := none } else slice

def mask (slice : Slice) : SessionEvent → FieldMask
  | .hello _ => { roster := true }
  | .cursor msg => { cursor := slice.changes (·.withCursor ⟨msg.x, msg.y⟩ msg.seq) }
  | .scroll msg => { scroll := slice.changes (·.withScroll ⟨msg.scrollX, msg.scrollY⟩ msg.seq) }
  | .bye _ => { roster := slice.participant.isSome }

end Slice

/-- An event that writes acts on a slice by that write. -/
theorem Slice.act_of_writes (slice : Slice) {event : SessionEvent} {write : PresenceField × ℚ × ℚ}
    (hw : event.writes = some write) :
    slice.act event =
      slice.write (fun presence => write.1.write presence write.2 event.seq) write.1.flag := by
  cases event with
  | cursor msg =>
      obtain rfl := Option.some.inj hw
      rfl
  | scroll msg =>
      obtain rfl := Option.some.inj hw
      rfl
  | _ => cases hw

/-- Sessions of the same slices hold the same. -/
theorem Session.sameMaps_of_slices {first second : Session} (sid : first.sid = second.sid)
    (createdAt : first.createdAt = second.createdAt)
    (slices : ∀ pid, first.slice pid = second.slice pid) : first.SameMaps second where
  sid := sid
  createdAt := createdAt
  participants := fun pid => congrArg Slice.participant (slices pid)
  dirty := fun pid => congrArg Slice.dirty (slices pid)

section Presence

variable (session : Session) (pid other : ParticipantId) (change : PresenceState → PresenceState)
  (fields : PresenceDirty) (changed : FieldMask)

/-- A movement acts on the slice of its participant alone. -/
theorem applyPresence_slice :
    (applyPresence session pid change fields changed).state.slice other =
      if other = pid then (session.slice other).write change fields else session.slice other := by
  rw [applyPresence]
  cases h : session.participants.get? pid with
  | none =>
      by_cases ho : other = pid
      · subst ho
        rw [if_pos rfl]
        simp [Slice.write, Session.slice, h, unchanged]
      · rw [if_neg ho]
        rfl
  | some participant =>
      dsimp only
      by_cases same : change participant.presence = participant.presence
      · rw [if_pos same]
        by_cases ho : other = pid
        · subst ho
          simp [Slice.write, Session.slice, h, same, unchanged]
        · rw [if_neg ho]
          rfl
      · rw [if_neg same]
        by_cases ho : other = pid
        · subst ho
          simp [Slice.write, Slice.marked, Session.slice, h, same, Session.dirtyOf,
            updateParticipant_get?, markPresenceDirty_get?]
        · simp [Session.slice, ho, updateParticipant_get?, markPresenceDirty_get?]

/-- A movement reports a change when it changes the slice. -/
theorem applyPresence_changed :
    (applyPresence session pid change fields changed).changed =
      if (session.slice pid).changes change then changed else {} := by
  rw [applyPresence]
  rw [Slice.changes, Session.slice]
  cases session.participants.get? pid with
  | none => rfl
  | some participant =>
      dsimp only
      by_cases h : change participant.presence = participant.presence
      · simp [h, unchanged]
      · simp [h]

theorem applyPresence_createdAt :
    (applyPresence session pid change fields changed).state.createdAt = session.createdAt := by
  rw [applyPresence]
  split
  · rfl
  · split
    · rfl
    · rw [markPresenceDirty, updateParticipant]
      dsimp only
      split <;> split <;> rfl

end Presence

/-- Every event acts on the slice of the participant it names. -/
theorem applyEvent_slice :
    Transition.ActsOnOwn (fun session event => (applyEvent session event).state)
      SessionEvent.pid Session.slice Slice.act := by
  intro session event pid
  cases event with
  | hello msg =>
      rw [Session.slice, applyEvent_hello_get?, applyEvent_hello_dirty]
      show _ = if pid = msg.pid then _ else _
      split
      · next h => rw [h]; rfl
      · rfl
  | cursor msg =>
      exact applyPresence_slice session msg.pid pid (·.withCursor ⟨msg.x, msg.y⟩ msg.seq)
        { cursor := true } { cursor := true }
  | scroll msg =>
      exact applyPresence_slice session msg.pid pid (·.withScroll ⟨msg.scrollX, msg.scrollY⟩ msg.seq)
        { scroll := true } { scroll := true }
  | bye msg =>
      show (if session.participants.has msg.pid then _ else unchanged session : ApplyResult).state.slice
        pid = if pid = msg.pid then _ else _
      by_cases hm : session.participants.has msg.pid
      · rw [if_pos hm]
        dsimp only
        rw [Session.slice, removeParticipant_get?]
        by_cases hp : pid = msg.pid
        · subst hp
          rw [if_pos rfl, if_pos rfl, removeParticipant_dirty_self session msg.pid hm]
          exact (if_pos hm).symm
        · rw [if_neg hp, if_neg hp, removeParticipant_dirty session msg.pid pid hp]
          rfl
      · rw [if_neg hm]
        split
        · next hp =>
            subst hp
            exact (if_neg hm).symm
        · rfl

/-- What an event reports depends on that slice alone. -/
theorem applyEvent_changed (session : Session) (event : SessionEvent) :
    (applyEvent session event).changed = (session.slice event.pid).mask event := by
  cases event with
  | hello msg => rfl
  | cursor msg =>
      rw [applyEvent_cursor, applyPresence_changed, SessionEvent.pid, Slice.mask]
      cases (session.slice msg.pid).changes (·.withCursor ⟨msg.x, msg.y⟩ msg.seq) <;> rfl
  | scroll msg =>
      rw [applyEvent_scroll, applyPresence_changed, SessionEvent.pid, Slice.mask]
      cases (session.slice msg.pid).changes (·.withScroll ⟨msg.scrollX, msg.scrollY⟩ msg.seq) <;> rfl
  | bye msg =>
      show (if session.participants.has msg.pid then _ else unchanged session : ApplyResult).changed =
        { roster := session.participants.has msg.pid }
      cases session.participants.has msg.pid <;> rfl

theorem applyEvent_createdAt (session : Session) (event : SessionEvent) :
    (applyEvent session event).state.createdAt = session.createdAt := by
  cases event with
  | hello msg =>
      simp only [applyEvent, touchAndSetViewport, updateParticipant, addParticipant]
      split <;> split <;> rfl
  | cursor msg =>
      rw [applyEvent_cursor, applyPresence_createdAt]
  | scroll msg =>
      rw [applyEvent_scroll, applyPresence_createdAt]
  | bye msg =>
      unfold applyEvent
      dsimp only
      split
      · exact removeParticipant_createdAt session msg.pid
      · rfl

/-- The reducer folded over a list of events. -/
def applyEvents (session : Session) (events : List SessionEvent) : Session :=
  Transition.run (fun session event => (applyEvent session event).state) session events

theorem applyEvents_sid (session : Session) (events : List SessionEvent) :
    (applyEvents session events).sid = session.sid := by
  apply Transition.invariant_run (P := fun later : Session => later.sid = session.sid)
  · intro later event h
    rw [applyEvent_sid, h]
  · rfl

theorem applyEvents_createdAt (session : Session) (events : List SessionEvent) :
    (applyEvents session events).createdAt = session.createdAt := by
  apply Transition.invariant_run (P := fun later : Session => later.createdAt = session.createdAt)
  · intro later event h
    rw [applyEvent_createdAt, h]
  · rfl

/-- Under each id, a fold is the fold of that participant's own events. -/
theorem applyEvents_slice (session : Session) (events : List SessionEvent) (pid : ParticipantId) :
    (applyEvents session events).slice pid =
      Transition.run Slice.act (session.slice pid) (Transition.own SessionEvent.pid pid events) :=
  Transition.look_run applyEvent_slice session events pid

end Copresence
