import Copresence.Lib.JsMap
import Copresence.Models.Participant

/-! The roster and presence of one session with its dirty flags, and the
reducer through which every presence-affecting message passes. -/
namespace Copresence

open Collections

/-- Which presence fields of a participant changed since the last flush. -/
structure PresenceDirty where
  cursor : Bool := false
  scroll : Bool := false
deriving DecidableEq, Repr

structure Session where
  sid : SessionId
  participants : JsMap ParticipantId Participant
  createdAt : Int
  dirty : JsMap ParticipantId PresenceDirty
deriving DecidableEq

def createSession (sid : SessionId) (now : Int) : Session :=
  { sid, participants := JsMap.empty, createdAt := now, dirty := JsMap.empty }

def addParticipant (session : Session) (pid : ParticipantId) (now : Int) : Session :=
  if session.participants.has pid then session
  else { session with participants := session.participants.set pid (createParticipant pid now) }

def clearDirtyFor (session : Session) (pid : ParticipantId) : Session :=
  if session.dirty.has pid then { session with dirty := session.dirty.delete pid } else session

def removeParticipant (session : Session) (pid : ParticipantId) : Session :=
  if session.participants.has pid then
    { clearDirtyFor session pid with participants := session.participants.delete pid }
  else session

/-- An updater applied to an unknown participant is a no-op. -/
def updateParticipant (session : Session) (pid : ParticipantId)
    (updater : Participant → Participant) : Session :=
  match session.participants.get? pid with
  | none => session
  | some existing =>
    { session with participants := session.participants.set pid (updater existing) }

def touchAndSetViewport (session : Session) (pid : ParticipantId) (docWidth docHeight dpr : ℚ)
    (now : Int) : Session :=
  updateParticipant session pid fun participant =>
    touchParticipant (withViewport participant docWidth docHeight dpr) now

def isEmpty (session : Session) : Bool := session.participants.size = 0

/-- Merges `fields` into whatever is already dirty for `pid`. -/
def markPresenceDirty (session : Session) (pid : ParticipantId) (fields : PresenceDirty) :
    Session :=
  let existing := (session.dirty.get? pid).getD {}
  let merged : PresenceDirty :=
    { cursor := existing.cursor || fields.cursor, scroll := existing.scroll || fields.scroll }
  if merged.cursor = existing.cursor ∧ merged.scroll = existing.scroll ∧ session.dirty.has pid then
    session
  else { session with dirty := session.dirty.set pid merged }

def clearDirty (session : Session) : Session :=
  if session.dirty.size = 0 then session else { session with dirty := JsMap.empty }

/-- The presence-affecting inbound messages. -/
inductive SessionEvent where
  | hello (msg : HelloMessage)
  | cursor (msg : CursorMessage)
  | scroll (msg : ScrollMessage)
  | bye (msg : ByeMessage)
deriving DecidableEq, Repr

structure FieldMask where
  cursor : Bool := false
  scroll : Bool := false
  roster : Bool := false
deriving DecidableEq, Repr

structure ApplyResult where
  state : Session
  changed : FieldMask

def unchanged (session : Session) : ApplyResult := { state := session, changed := {} }

/-- Total on every event. A write that the presence refuses leaves it equal to
what it was, which is how the reducer recognises a no-op. -/
def applyEvent (session : Session) : SessionEvent → ApplyResult
  | .hello msg =>
    let withParticipant := addParticipant session msg.pid msg.ts
    { state := touchAndSetViewport withParticipant msg.pid msg.docWidth msg.docHeight msg.dpr msg.ts
      changed := { roster := true } }
  | .cursor msg =>
    match session.participants.get? msg.pid with
    | none => unchanged session
    | some participant =>
      let updatedPresence := participant.presence.withCursor ⟨msg.x, msg.y⟩ msg.seq
      if updatedPresence = participant.presence then unchanged session
      else
        let next := updateParticipant session msg.pid fun p => { p with presence := updatedPresence }
        { state := markPresenceDirty next msg.pid { cursor := true }
          changed := { cursor := true } }
  | .scroll msg =>
    match session.participants.get? msg.pid with
    | none => unchanged session
    | some participant =>
      let updatedPresence := participant.presence.withScroll ⟨msg.scrollX, msg.scrollY⟩ msg.seq
      if updatedPresence = participant.presence then unchanged session
      else
        let next := updateParticipant session msg.pid fun p => { p with presence := updatedPresence }
        { state := markPresenceDirty next msg.pid { scroll := true }
          changed := { scroll := true } }
  | .bye msg =>
    if session.participants.has msg.pid then
      { state := removeParticipant session msg.pid, changed := { roster := true } }
    else unchanged session

/-- The dirty flags of a participant; an absent entry has none set. -/
def Session.dirtyOf (session : Session) (pid : ParticipantId) : PresenceDirty :=
  (session.dirty.get? pid).getD {}

@[simp] theorem createSession_get? (sid : SessionId) (now : Int) (pid : ParticipantId) :
    (createSession sid now).participants.get? pid = none := rfl

@[simp] theorem createSession_sid (sid : SessionId) (now : Int) :
    (createSession sid now).sid = sid := rfl

@[simp] theorem clearDirtyFor_sid (session : Session) (pid : ParticipantId) :
    (clearDirtyFor session pid).sid = session.sid := by
  rw [clearDirtyFor]
  split <;> rfl

/-- Clearing one participant's flags clears no other's. -/
theorem clearDirtyFor_get? (session : Session) (pid other : ParticipantId) :
    (clearDirtyFor session pid).dirty.get? other =
      if other = pid then none else session.dirty.get? other := by
  rw [clearDirtyFor]
  split
  · exact JsMap.get?_delete session.dirty pid other
  · next h =>
      have hn := JsMap.has_eq_false_iff.mp (Bool.not_eq_true _ ▸ h)
      split
      · next he => rw [he, hn]
      · rfl

@[simp] theorem removeParticipant_sid (session : Session) (pid : ParticipantId) :
    (removeParticipant session pid).sid = session.sid := by
  rw [removeParticipant]
  split
  · exact clearDirtyFor_sid session pid
  · rfl

/-- Removing somebody removes nobody else. -/
theorem removeParticipant_get? (session : Session) (pid other : ParticipantId) :
    (removeParticipant session pid).participants.get? other =
      if other = pid then none else session.participants.get? other := by
  rw [removeParticipant]
  split
  · exact JsMap.get?_delete session.participants pid other
  · next h =>
      have hn := JsMap.has_eq_false_iff.mp (Bool.not_eq_true _ ▸ h)
      split
      · next he => rw [he, hn]
      · rfl

/-- Removal drops the flags of the participant who left and no others. -/
theorem removeParticipant_dirty (session : Session) (pid other : ParticipantId) (h : other ≠ pid) :
    (removeParticipant session pid).dirty.get? other = session.dirty.get? other := by
  rw [removeParticipant]
  split
  · have hc := clearDirtyFor_get? session pid other
    rw [if_neg h] at hc
    exact hc
  · rfl

/-- Whoever is removed leaves no flags behind. -/
theorem removeParticipant_dirty_self (session : Session) (pid : ParticipantId)
    (h : session.participants.has pid = true) :
    (removeParticipant session pid).dirty.get? pid = none := by
  rw [removeParticipant]
  rw [if_pos h]
  have hc := clearDirtyFor_get? session pid pid
  rw [if_pos rfl] at hc
  exact hc

theorem removeParticipant_createdAt (session : Session) (pid : ParticipantId) :
    (removeParticipant session pid).createdAt = session.createdAt := by
  rw [removeParticipant, clearDirtyFor]
  split
  · dsimp only
    split <;> rfl
  · rfl

/-- Removing somebody gives nobody flags. -/
theorem removeParticipant_dirty_none {session : Session} (pid : ParticipantId)
    {other : ParticipantId} (h : session.dirty.get? other = none) :
    (removeParticipant session pid).dirty.get? other = none := by
  rw [removeParticipant]
  split
  · have hc := clearDirtyFor_get? session pid other
    rw [h, ite_self] at hc
    exact hc
  · exact h

@[simp] theorem updateParticipant_sid (session : Session) (pid : ParticipantId)
    (updater : Participant → Participant) :
    (updateParticipant session pid updater).sid = session.sid := by
  rw [updateParticipant]
  split <;> rfl

/-- Marking what changed is left to `markPresenceDirty`. -/
@[simp] theorem updateParticipant_dirty (session : Session) (pid : ParticipantId)
    (updater : Participant → Participant) :
    (updateParticipant session pid updater).dirty = session.dirty := by
  rw [updateParticipant]
  split <;> rfl

/-- An update reaches one participant, if it is there. -/
theorem updateParticipant_get? (session : Session) (pid other : ParticipantId)
    (updater : Participant → Participant) :
    (updateParticipant session pid updater).participants.get? other =
      if other = pid then (session.participants.get? pid).map updater
      else session.participants.get? other := by
  rw [updateParticipant]
  split
  · next h =>
      split
      · next he => rw [he, h]; rfl
      · rfl
  · next existing h => simpa [h] using JsMap.get?_set session.participants pid other (updater existing)

@[simp] theorem markPresenceDirty_sid (session : Session) (pid : ParticipantId)
    (fields : PresenceDirty) : (markPresenceDirty session pid fields).sid = session.sid := by
  rw [markPresenceDirty]
  dsimp only
  split <;> rfl

@[simp] theorem markPresenceDirty_participants (session : Session) (pid : ParticipantId)
    (fields : PresenceDirty) :
    (markPresenceDirty session pid fields).participants = session.participants := by
  rw [markPresenceDirty]
  dsimp only
  split <;> rfl

/-- Marking merges the flags of one participant and touches no other. -/
theorem markPresenceDirty_get? (session : Session) (pid other : ParticipantId)
    (fields : PresenceDirty) :
    (markPresenceDirty session pid fields).dirty.get? other =
      if other = pid then
        some { cursor := (session.dirtyOf pid).cursor || fields.cursor
               scroll := (session.dirtyOf pid).scroll || fields.scroll }
      else session.dirty.get? other := by
  rw [markPresenceDirty]
  dsimp only
  split
  · next h =>
      obtain ⟨hc, hs, hh⟩ := h
      obtain ⟨flags, hf⟩ := JsMap.has_eq_true_iff.mp hh
      split
      · next he =>
          rw [he, hf]
          simp only [hf, Option.getD_some] at hc hs
          simp only [Session.dirtyOf, hf, Option.getD_some, hc, hs]
      · rfl
  · exact JsMap.get?_set session.dirty pid other _

@[simp] theorem clearDirty_sid (session : Session) : (clearDirty session).sid = session.sid := by
  rw [clearDirty]
  split <;> rfl

@[simp] theorem clearDirty_participants (session : Session) :
    (clearDirty session).participants = session.participants := by
  rw [clearDirty]
  split <;> rfl

/-- After a flush nobody has flags. -/
@[simp] theorem clearDirty_get? (session : Session) (pid : ParticipantId) :
    (clearDirty session).dirty.get? pid = none := by
  rw [clearDirty]
  split
  · next h => exact JsMap.size_eq_zero_iff.mp h pid
  · rfl

@[simp] theorem addParticipant_sid (session : Session) (pid : ParticipantId) (now : Int) :
    (addParticipant session pid now).sid = session.sid := by
  rw [addParticipant]
  split <;> rfl

@[simp] theorem addParticipant_dirty (session : Session) (pid : ParticipantId) (now : Int) :
    (addParticipant session pid now).dirty = session.dirty := by
  rw [addParticipant]
  split <;> rfl

/-- Adding somebody who is there already keeps what is known of it. -/
theorem addParticipant_get? (session : Session) (pid other : ParticipantId) (now : Int) :
    (addParticipant session pid now).participants.get? other =
      if other = pid then some ((session.participants.get? pid).getD (createParticipant pid now))
      else session.participants.get? other := by
  rw [addParticipant]
  split
  · next h =>
      obtain ⟨participant, hp⟩ := JsMap.has_eq_true_iff.mp h
      split
      · next he => rw [he, hp]; rfl
      · rfl
  · next h =>
      have hn := JsMap.has_eq_false_iff.mp (Bool.not_eq_true _ ▸ h)
      rw [hn]
      exact JsMap.get?_set session.participants pid other _

/-- What a hello makes of the participant's old entry, if any. -/
def helloed (msg : HelloMessage) (old : Option Participant) : Participant :=
  touchParticipant
    (withViewport (old.getD (createParticipant msg.pid msg.ts)) msg.docWidth msg.docHeight msg.dpr)
    msg.ts

/-- A hello introduces its participant, or refreshes what is known of it, and
moves nobody else. -/
theorem applyEvent_hello_get? (session : Session) (msg : HelloMessage) (other : ParticipantId) :
    (applyEvent session (.hello msg)).state.participants.get? other =
      if other = msg.pid then some (helloed msg (session.participants.get? msg.pid))
      else session.participants.get? other := by
  simp only [applyEvent, touchAndSetViewport, updateParticipant_get?, addParticipant_get?]
  split
  · rfl
  · rfl

/-- A hello marks nothing: whoever is new is told of by a join, not by a patch. -/
@[simp] theorem applyEvent_hello_dirty (session : Session) (msg : HelloMessage) :
    (applyEvent session (.hello msg)).state.dirty = session.dirty := by
  simp [applyEvent, touchAndSetViewport]

/-- One participant and what is flagged for the next flush. -/
structure Entry where
  participant : Participant
  dirty : PresenceDirty
deriving DecidableEq

def Session.entryOf (session : Session) (pid : ParticipantId) : Option Entry :=
  (session.participants.get? pid).map fun participant => ⟨participant, session.dirtyOf pid⟩

/-- What a hello makes of an entry: flags that are there stay. -/
def helloEntry (msg : HelloMessage) (old : Option Entry) : Entry :=
  ⟨helloed msg (old.map Entry.participant), (old.map Entry.dirty).getD {}⟩

def SessionEvent.pid : SessionEvent → ParticipantId
  | .hello msg => msg.pid
  | .cursor msg => msg.pid
  | .scroll msg => msg.pid
  | .bye msg => msg.pid

/-- The cursor and scroll events among those of the reducer. -/
def SessionEvent.IsPresence : SessionEvent → Prop
  | .cursor _ => True
  | .scroll _ => True
  | _ => False

/-- Store a presence and merge flags, unless the presence is the old one. -/
def Entry.write (entry : Entry) (presence : PresenceState) (fields : PresenceDirty) : Entry :=
  if presence = entry.participant.presence then entry
  else
    { participant := { entry.participant with presence }
      dirty :=
        { cursor := entry.dirty.cursor || fields.cursor
          scroll := entry.dirty.scroll || fields.scroll } }

/-- What a cursor or scroll event does to its own participant's entry. -/
def SessionEvent.observe : SessionEvent → Entry → Entry
  | .cursor msg, entry =>
    entry.write (entry.participant.presence.withCursor ⟨msg.x, msg.y⟩ msg.seq) { cursor := true }
  | .scroll msg, entry =>
    entry.write (entry.participant.presence.withScroll ⟨msg.scrollX, msg.scrollY⟩ msg.seq)
      { scroll := true }
  | _, entry => entry

/-- Flags that are up stay up until the next flush. -/
theorem Session.dirtyOf_markPresenceDirty (session : Session) (pid other : ParticipantId)
    (fields : PresenceDirty) :
    (markPresenceDirty session pid fields).dirtyOf other =
      if other = pid then
        { cursor := (session.dirtyOf pid).cursor || fields.cursor
          scroll := (session.dirtyOf pid).scroll || fields.scroll }
      else session.dirtyOf other := by
  rw [dirtyOf, markPresenceDirty_get?]
  split <;> rfl

/-- Whoever is on the roster has an entry, with or without flags. -/
theorem Session.entryOf_isSome (session : Session) (pid : ParticipantId) :
    (session.entryOf pid).isSome = session.participants.has pid :=
  Option.isSome_map

/-- The entry's participant is the one on the roster. -/
theorem Session.entryOf_map_participant (session : Session) (pid : ParticipantId) :
    (session.entryOf pid).map Entry.participant = session.participants.get? pid := by
  simp [entryOf, Function.comp_def]

/-- With its participant an entry goes, and no other. -/
theorem removeParticipant_entryOf (session : Session) (pid other : ParticipantId) :
    (removeParticipant session pid).entryOf other =
      if other = pid then none else session.entryOf other := by
  rw [Session.entryOf, removeParticipant_get?]
  split
  · rfl
  · next h => simp only [Session.dirtyOf, removeParticipant_dirty session pid other h]; rfl

/-- Flushing keeps every entry and unflags it. -/
theorem clearDirty_entryOf (session : Session) (pid : ParticipantId) :
    (clearDirty session).entryOf pid =
      (session.entryOf pid).map fun entry => { entry with dirty := {} } := by
  simp [Session.entryOf, Session.dirtyOf, Function.comp_def]

/-- An entry is a participant with its flags, none of them up when there are none. -/
theorem Session.entryOf_of_get {session : Session} {pid : ParticipantId}
    {participant : Participant} (h : session.participants.get? pid = some participant) :
    session.entryOf pid = some ⟨participant, session.dirtyOf pid⟩ := by
  rw [entryOf, h]
  rfl

/-- The two presence branches of the reducer, for any change of presence. -/
def applyPresence (session : Session) (pid : ParticipantId)
    (change : PresenceState → PresenceState) (fields : PresenceDirty) (changed : FieldMask) :
    ApplyResult :=
  match session.participants.get? pid with
  | none => unchanged session
  | some participant =>
    if change participant.presence = participant.presence then unchanged session
    else
      { state :=
          markPresenceDirty
            (updateParticipant session pid fun p => { p with presence := change participant.presence })
            pid fields
        changed }

/-- A cursor message moves the cursor and marks the cursor. -/
theorem applyEvent_cursor (session : Session) (msg : CursorMessage) :
    applyEvent session (.cursor msg) =
      applyPresence session msg.pid (·.withCursor ⟨msg.x, msg.y⟩ msg.seq) { cursor := true }
        { cursor := true } := rfl

/-- A scroll message moves the scroll position and marks that. -/
theorem applyEvent_scroll (session : Session) (msg : ScrollMessage) :
    applyEvent session (.scroll msg) =
      applyPresence session msg.pid (·.withScroll ⟨msg.scrollX, msg.scrollY⟩ msg.seq)
        { scroll := true } { scroll := true } := rfl

/-- The guarded write of the reducer, seen at one entry. -/
theorem applyPresence_entryOf (session : Session) (pid other : ParticipantId)
    (change : PresenceState → PresenceState) (fields : PresenceDirty) (changed : FieldMask) :
    (applyPresence session pid change fields changed).state.entryOf other =
      if other = pid then
        (session.entryOf other).map fun entry => entry.write (change entry.participant.presence) fields
      else session.entryOf other := by
  rw [applyPresence]
  cases h : session.participants.get? pid with
  | none =>
      dsimp only [unchanged]
      split
      · next he => simp [Session.entryOf, he, h]
      · rfl
  | some participant =>
      dsimp only
      by_cases ho : other = pid
      · subst ho
        rw [if_pos rfl, Session.entryOf_of_get h, Option.map_some, Entry.write]
        split
        · exact Session.entryOf_of_get h
        · rw [Session.entryOf, markPresenceDirty_participants, updateParticipant_get?, if_pos rfl, h,
            Session.dirtyOf_markPresenceDirty, if_pos rfl]
          simp [Session.dirtyOf]
      · rw [if_neg ho]
        split
        · rfl
        · rw [Session.entryOf, markPresenceDirty_participants, updateParticipant_get?, if_neg ho,
            Session.dirtyOf_markPresenceDirty, if_neg ho]
          simp [Session.entryOf, Session.dirtyOf]

/-- A presence event acts on the entry it names and on no other. -/
theorem applyEvent_presence_entryOf {event : SessionEvent} (isPresence : event.IsPresence)
    (session : Session) (other : ParticipantId) :
    (applyEvent session event).state.entryOf other =
      if other = event.pid then (session.entryOf other).map event.observe
      else session.entryOf other := by
  cases event with
  | hello msg => cases isPresence
  | bye msg => cases isPresence
  | cursor msg =>
      rw [applyEvent_cursor, applyPresence_entryOf]
      rfl
  | scroll msg =>
      rw [applyEvent_scroll, applyPresence_entryOf]
      rfl

/-- A hello keeps the flags of the participant it refreshes. -/
theorem applyEvent_hello_entryOf (session : Session) (msg : HelloMessage) (other : ParticipantId) :
    (applyEvent session (.hello msg)).state.entryOf other =
      if other = msg.pid then
        some ⟨helloed msg (session.participants.get? msg.pid), session.dirtyOf msg.pid⟩
      else session.entryOf other := by
  rw [Session.entryOf, applyEvent_hello_get?, Session.dirtyOf, applyEvent_hello_dirty]
  split
  · next he => rw [he]; rfl
  · rfl

/-- Movements stay in their session. -/
theorem applyPresence_sid (session : Session) (pid : ParticipantId)
    (change : PresenceState → PresenceState) (fields : PresenceDirty) (changed : FieldMask) :
    (applyPresence session pid change fields changed).state.sid = session.sid := by
  rw [applyPresence]
  split
  · rfl
  · split
    · rfl
    · simp

/-- No event makes another session of this one. -/
@[simp] theorem applyEvent_sid (session : Session) (event : SessionEvent) :
    (applyEvent session event).state.sid = session.sid := by
  cases event with
  | hello msg => simp [applyEvent, touchAndSetViewport]
  | cursor msg => rw [applyEvent_cursor, applyPresence_sid]
  | scroll msg => rw [applyEvent_scroll, applyPresence_sid]
  | bye msg =>
      simp only [applyEvent]
      split
      · simp
      · rfl

end Copresence
