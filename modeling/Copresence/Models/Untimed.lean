import Copresence.Models.SessionInvariant
import Copresence.Services.Presenters

/-! Rosters and messages without the times that clients report. The reducer
and the presenters commute with leaving these out. -/
namespace Copresence

open Collections

def InboundMessage.untimed : InboundMessage → InboundMessage
  | .hello msg => .hello { msg with ts := 0 }
  | .cursor msg => .cursor { msg with ts := 0 }
  | .scroll msg => .scroll { msg with ts := 0 }
  | .ack msg => .ack { msg with ts := 0 }
  | .ping msg => .ping { msg with ts := 0 }
  | .bye msg => .bye { msg with ts := 0 }
  | .audit msg => .audit { msg with ts := 0 }

def RawFrame.untimed : RawFrame → RawFrame
  | .parsed msg => .parsed msg.untimed
  | frame => frame

def ParticipantSnapshot.untimed (snapshot : ParticipantSnapshot) : ParticipantSnapshot :=
  { snapshot with lastSeenAt := 0 }

/-- A message without `pingTs` and `lastSeenAt`. -/
def OutboundMessage.untimed : OutboundMessage → OutboundMessage
  | .welcome msg =>
    .welcome { msg with participants := msg.participants.map ParticipantSnapshot.untimed }
  | .join msg => .join { msg with participant := msg.participant.untimed }
  | .snapshot msg =>
    .snapshot { msg with participants := msg.participants.map ParticipantSnapshot.untimed }
  | .pong msg => .pong { msg with pingTs := 0 }
  | message => message

def SessionEvent.untimed : SessionEvent → SessionEvent
  | .hello msg => .hello { msg with ts := 0 }
  | .cursor msg => .cursor { msg with ts := 0 }
  | .scroll msg => .scroll { msg with ts := 0 }
  | .bye msg => .bye { msg with ts := 0 }

namespace InboundMessage

@[simp] theorem untimed_pid (msg : InboundMessage) : msg.untimed.pid = msg.pid := by
  cases msg <;> rfl

@[simp] theorem untimed_seq (msg : InboundMessage) : msg.untimed.seq = msg.seq := by
  cases msg <;> rfl

@[simp] theorem untimed_isHello (msg : InboundMessage) : msg.untimed.isHello = msg.isHello := by
  cases msg <;> rfl

@[simp] theorem untimed_v (msg : InboundMessage) : msg.untimed.envelope.v = msg.envelope.v := by
  cases msg <;> rfl

end InboundMessage

/-- A frame is decoded the same with its time left out. -/
theorem decodeInbound_untimed (frame : RawFrame) :
    decodeInbound frame.untimed = (decodeInbound frame).map InboundMessage.untimed := by
  cases frame with
  | unparsable detail => rfl
  | invalid issues => rfl
  | parsed msg =>
      rw [RawFrame.untimed, decodeInbound, decodeInbound, InboundMessage.untimed_v]
      split <;> rfl

def Participant.untimed (participant : Participant) : Participant :=
  { participant with lastSeenAt := 0 }

def Session.untimed (session : Session) : Session :=
  { session with participants := session.participants.mapValues Participant.untimed }

namespace Session

variable (session : Session) (pid : ParticipantId)

theorem untimed_has : session.untimed.participants.has pid = session.participants.has pid :=
  JsMap.has_mapValues ..

/-- A participant is found without its times. -/
theorem untimed_get? :
    session.untimed.participants.get? pid =
      (session.participants.get? pid).map Participant.untimed :=
  JsMap.get?_mapValues ..

/-- Somebody new is added with no time but the one left out. -/
theorem untimed_addParticipant (now : Int) :
    (addParticipant session pid now).untimed = addParticipant session.untimed pid 0 := by
  unfold addParticipant
  rw [untimed_has]
  split
  · rfl
  · simp only [untimed, JsMap.set_mapValues]
    rfl

/-- An update that reads no time can be made without them. -/
theorem untimed_updateParticipant {updater : Participant → Participant}
    (untimedUpdater : Participant → Participant)
    (commutes : ∀ participant, (updater participant).untimed = untimedUpdater participant.untimed) :
    (updateParticipant session pid updater).untimed =
      updateParticipant session.untimed pid untimedUpdater := by
  unfold updateParticipant
  rw [untimed_get?]
  cases session.participants.get? pid with
  | none => rfl
  | some existing => simp only [untimed, Option.map_some, JsMap.set_mapValues, commutes]

/-- Flags have no times. -/
theorem untimed_markPresenceDirty (fields : PresenceDirty) :
    (markPresenceDirty session pid fields).untimed =
      markPresenceDirty session.untimed pid fields := by
  rw [markPresenceDirty]
  simp only [untimed]
  split
  · next h => exact (if_pos h).symm
  · next h => exact (if_neg h).symm

/-- Clearing somebody's flags reads no time. -/
theorem untimed_clearDirtyFor :
    (clearDirtyFor session pid).untimed = clearDirtyFor session.untimed pid := by
  rw [clearDirtyFor]
  simp only [untimed]
  split
  · next h => exact (if_pos h).symm
  · next h => exact (if_neg h).symm

/-- Removing somebody reads no time. -/
theorem untimed_removeParticipant :
    (removeParticipant session pid).untimed = removeParticipant session.untimed pid := by
  unfold removeParticipant
  rw [untimed_has, ← untimed_clearDirtyFor]
  split
  · simp only [untimed, JsMap.delete_mapValues]
  · rfl

/-- Clearing all flags reads no time. -/
theorem untimed_clearDirty : (clearDirty session).untimed = clearDirty session.untimed := by
  rw [clearDirty]
  simp only [untimed]
  split
  · next h => exact (if_pos h).symm
  · next h => exact (if_neg h).symm

/-- What a cursor or scroll event writes has no times in it. -/
theorem untimed_applyPresence (change : PresenceState → PresenceState) (fields : PresenceDirty)
    (changed : FieldMask) :
    (applyPresence session pid change fields changed).state.untimed =
      (applyPresence session.untimed pid change fields changed).state := by
  unfold applyPresence
  rw [untimed_get?]
  cases session.participants.get? pid with
  | none => rfl
  | some participant =>
      show _ = ApplyResult.state (if change participant.presence = participant.presence then _
        else _)
      dsimp only
      split
      · rfl
      · rw [untimed_markPresenceDirty, untimed_updateParticipant session pid
          (fun p => { p with presence := change participant.presence }) fun _ => rfl]
        rfl

/-- The reducer only copies the time a hello brings. -/
theorem untimed_applyEvent (event : SessionEvent) :
    (applyEvent session event).state.untimed =
      (applyEvent session.untimed event.untimed).state := by
  cases event with
  | hello msg =>
      have touched : ∀ participant,
          (touchParticipant (withViewport participant msg.docWidth msg.docHeight msg.dpr)
            msg.ts).untimed =
            touchParticipant (withViewport participant.untimed msg.docWidth msg.docHeight msg.dpr)
              0 := fun _ => rfl
      have viewed := untimed_updateParticipant (addParticipant session msg.pid msg.ts) msg.pid
        (fun participant =>
          touchParticipant (withViewport participant msg.docWidth msg.docHeight msg.dpr) 0) touched
      rw [untimed_addParticipant] at viewed
      exact viewed
  | cursor msg =>
      rw [SessionEvent.untimed, applyEvent_cursor, applyEvent_cursor, untimed_applyPresence]
  | scroll msg =>
      rw [SessionEvent.untimed, applyEvent_scroll, applyEvent_scroll, untimed_applyPresence]
  | bye msg =>
      rw [SessionEvent.untimed, applyEvent, applyEvent, untimed_has]
      split
      · exact untimed_removeParticipant session msg.pid
      · rfl

/-- A snapshot without its times is made of the roster without them. -/
theorem toParticipantSnapshots_untimed :
    (toParticipantSnapshots session).map ParticipantSnapshot.untimed =
      toParticipantSnapshots session.untimed := by
  rw [toParticipantSnapshots, toParticipantSnapshots, untimed, JsMap.values_mapValues,
    List.map_map, List.map_map]
  rfl

/-- A welcome without its times is made of the roster without them. -/
theorem toWelcome_untimed (seq now : Int) :
    (OutboundMessage.welcome (toWelcome session pid seq now)).untimed =
      .welcome (toWelcome session.untimed pid seq now) := by
  rw [OutboundMessage.untimed, toWelcome, toWelcome, toParticipantSnapshots_untimed]
  rfl

/-- Patches carry no times. -/
theorem toPatch_untimed (seq now : Int) :
    toPatch session.untimed seq now = toPatch session seq now := by
  have entries : ∀ entry, dirtyPatch session.untimed entry = dirtyPatch session entry := by
    intro entry
    rw [dirtyPatch, dirtyPatch, untimed, JsMap.get?_mapValues, Option.map_map]
    rfl
  rw [toPatch, toPatch, funext entries]
  rfl

end Session

end Copresence
