import Copresence.Lib.JsMap
import Copresence.Protocol.Messages

/-! What each connection has reconstructed from the messages delivered to it. -/
namespace Copresence

open Collections

structure SimulatedParticipant where
  color : String
  x : Option ℚ := none
  y : Option ℚ := none
  scrollX : Option ℚ := none
  scrollY : Option ℚ := none
deriving DecidableEq, Repr

/-- No patch seen yet is `lastPatchSeq` at minus infinity. -/
structure ParticipantView where
  participants : JsMap ParticipantId SimulatedParticipant := JsMap.empty
  lastPatchSeq : Option Int := none
deriving DecidableEq

structure ConvergenceTracker where
  sessions : JsMap SessionId (JsMap ParticipantId ParticipantView)

namespace SimulatedParticipant

def moveCursor (participant : SimulatedParticipant) (x y : Option ℚ) : SimulatedParticipant :=
  if x.isSome ∧ y.isSome then { participant with x, y } else participant

def moveScroll (participant : SimulatedParticipant) (x y : Option ℚ) : SimulatedParticipant :=
  if x.isSome ∧ y.isSome then { participant with scrollX := x, scrollY := y } else participant

end SimulatedParticipant

def upsert (participants : JsMap ParticipantId SimulatedParticipant)
    (snapshot : ParticipantSnapshot) : JsMap ParticipantId SimulatedParticipant :=
  let existing := (participants.get? snapshot.pid).getD { color := snapshot.color }
  let existing := { existing with color := snapshot.color }
  let existing := existing.moveCursor snapshot.x snapshot.y
  let existing := existing.moveScroll snapshot.scrollX snapshot.scrollY
  participants.set snapshot.pid existing

def applyPatch (participants : JsMap ParticipantId SimulatedParticipant)
    (patch : ParticipantPatch) : JsMap ParticipantId SimulatedParticipant :=
  let existing := (participants.get? patch.pid).getD { color := "#888888" }
  let existing := existing.moveCursor patch.x patch.y
  let existing := existing.moveScroll patch.scrollX patch.scrollY
  participants.set patch.pid existing

/-- What `upsert` makes of the entry it finds. -/
def SimulatedParticipant.upserted (snapshot : ParticipantSnapshot)
    (old : Option SimulatedParticipant) : Option SimulatedParticipant :=
  some ((({ old.getD { color := snapshot.color } with color := snapshot.color }).moveCursor
    snapshot.x snapshot.y).moveScroll snapshot.scrollX snapshot.scrollY)

/-- What `applyPatch` makes of the entry it finds. -/
def SimulatedParticipant.patched (patch : ParticipantPatch)
    (old : Option SimulatedParticipant) : Option SimulatedParticipant :=
  some (((old.getD { color := "#888888" }).moveCursor patch.x patch.y).moveScroll
    patch.scrollX patch.scrollY)

/-- A snapshot changes what is held of its participant alone. -/
theorem upsert_get? (participants : JsMap ParticipantId SimulatedParticipant)
    (snapshot : ParticipantSnapshot) (pid : ParticipantId) :
    (upsert participants snapshot).get? pid =
      if pid = snapshot.pid then SimulatedParticipant.upserted snapshot (participants.get? pid)
      else participants.get? pid := by
  rw [upsert, JsMap.get?_set]
  split
  · next h => rw [h]; rfl
  · rfl

/-- A patch changes what is held of its participant alone. -/
theorem applyPatch_get? (participants : JsMap ParticipantId SimulatedParticipant)
    (patch : ParticipantPatch) (pid : ParticipantId) :
    (applyPatch participants patch).get? pid =
      if pid = patch.pid then SimulatedParticipant.patched patch (participants.get? pid)
      else participants.get? pid := by
  rw [applyPatch, JsMap.get?_set]
  split
  · next h => rw [h]; rfl
  · rfl

namespace ParticipantView

/-- Whether the guard on patches lets this number through. -/
def Fresh (view : ParticipantView) (seq : Int) : Prop :=
  ∀ last ∈ view.lastPatchSeq, last < seq

instance (view : ParticipantView) (seq : Int) : Decidable (view.Fresh seq) := by
  rw [Fresh]
  infer_instance

/-- One delivered message. -/
def deliver (view : ParticipantView) : OutboundMessage → ParticipantView
  | .welcome msg => { view with participants := msg.participants.foldl upsert JsMap.empty }
  | .snapshot msg => { view with participants := msg.participants.foldl upsert JsMap.empty }
  | .join msg => { view with participants := upsert view.participants msg.participant }
  | .leave msg => { view with participants := view.participants.delete msg.pid }
  | .patch msg =>
    if view.Fresh msg.seq then
      { participants := msg.patches.foldl applyPatch view.participants
        lastPatchSeq := some msg.seq }
    else view
  | .pong _ => view
  | .error _ => view
  | .auditAck _ => view

end ParticipantView

namespace ConvergenceTracker

/-- The view of one connection; nothing delivered yet is the empty view. -/
def view (tracker : ConvergenceTracker) (sid : SessionId) (pid : ParticipantId) :
    ParticipantView :=
  ((tracker.sessions.get? sid).bind fun session => session.get? pid).getD {}

def recordDelivery (tracker : ConvergenceTracker) (sid : SessionId) (pid : ParticipantId)
    (message : OutboundMessage) : ConvergenceTracker :=
  let session := (tracker.sessions.get? sid).getD JsMap.empty
  let entry := (session.get? pid).getD {}
  { sessions := tracker.sessions.set sid (session.set pid (entry.deliver message)) }

/-- The view the tracker has of one connection, if anything was delivered to it. -/
def held (tracker : ConvergenceTracker) (sid : SessionId) (pid : ParticipantId) :
    Option ParticipantView :=
  (tracker.sessions.get? sid).bind fun session => session.get? pid

theorem view_eq_held (tracker : ConvergenceTracker) (sid : SessionId) (pid : ParticipantId) :
    tracker.view sid pid = (tracker.held sid pid).getD {} := rfl

/-- A delivery changes the view of its recipient alone. -/
theorem recordDelivery_held (tracker : ConvergenceTracker) (sid other : SessionId)
    (pid another : ParticipantId) (message : OutboundMessage) :
    (tracker.recordDelivery sid pid message).held other another =
      if other = sid ∧ another = pid then some ((tracker.view sid pid).deliver message)
      else tracker.held other another := by
  rw [held, recordDelivery]
  dsimp only
  rw [JsMap.get?_set]
  by_cases hs : other = sid
  · subst hs
    rw [if_pos rfl, Option.bind_some, JsMap.get?_set]
    by_cases hp : another = pid
    · subst hp
      rw [if_pos rfl, if_pos ⟨rfl, rfl⟩, view]
      cases tracker.sessions.get? other <;> rfl
    · rw [if_neg hp, if_neg fun h => hp h.2, held]
      cases tracker.sessions.get? other <;> rfl
  · rw [if_neg hs, if_neg fun h => hs h.1]
    rfl

/-- A delivery moves the view of its own connection and no other. -/
theorem recordDelivery_view (tracker : ConvergenceTracker) (sid other : SessionId)
    (pid another : ParticipantId) (message : OutboundMessage) :
    (tracker.recordDelivery sid pid message).view other another =
      if other = sid ∧ another = pid then (tracker.view sid pid).deliver message
      else tracker.view other another := by
  rw [view_eq_held, recordDelivery_held]
  split
  · rfl
  · rfl

/-- Messages delivered one after another to one connection. -/
def recordDeliveries (tracker : ConvergenceTracker) (sid : SessionId) (pid : ParticipantId)
    (messages : List OutboundMessage) : ConvergenceTracker :=
  messages.foldl (fun tracker message => tracker.recordDelivery sid pid message) tracker

/-- A list of deliveries changes the view one after the other. -/
theorem recordDeliveries_view (tracker : ConvergenceTracker) (sid : SessionId)
    (pid : ParticipantId) (messages : List OutboundMessage) :
    (tracker.recordDeliveries sid pid messages).view sid pid =
      messages.foldl ParticipantView.deliver (tracker.view sid pid) := by
  induction messages generalizing tracker with
  | nil => rfl
  | cons message messages ih =>
      rw [recordDeliveries, List.foldl_cons]
      show ((tracker.recordDelivery sid pid message).recordDeliveries sid pid messages).view _ _ = _
      rw [ih, recordDelivery_view, if_pos ⟨rfl, rfl⟩, List.foldl_cons]

end ConvergenceTracker

def PresenceField.ofSimulated : PresenceField → SimulatedParticipant → Option (ℚ × ℚ)
  | cursor, participant => both participant.x participant.y
  | scroll, participant => both participant.scrollX participant.scrollY

/-- The position a table of simulated participants has for one of them. -/
def PresenceField.seen (field : PresenceField)
    (participants : JsMap ParticipantId SimulatedParticipant) (pid : ParticipantId) :
    Option (ℚ × ℚ) :=
  (participants.get? pid).bind field.ofSimulated

namespace PresenceField

variable (field : PresenceField) (participants : JsMap ParticipantId SimulatedParticipant)
  (pid : ParticipantId)

/-- Absent coordinates leave the old ones standing. -/
theorem ofSimulated_moves (participant : SimulatedParticipant) (x y scrollX scrollY : Option ℚ) :
    field.ofSimulated ((participant.moveCursor x y).moveScroll scrollX scrollY) =
      (match field with
        | cursor => both x y
        | scroll => both scrollX scrollY).or (field.ofSimulated participant) := by
  cases field with
  | cursor =>
      have kept : ofSimulated cursor ((participant.moveCursor x y).moveScroll scrollX scrollY) =
          ofSimulated cursor (participant.moveCursor x y) := by
        rw [SimulatedParticipant.moveScroll]
        split <;> rfl
      rw [kept]
      cases x <;> cases y <;> rfl
  | scroll =>
      have kept : ofSimulated scroll (participant.moveCursor x y) = ofSimulated scroll participant := by
        rw [SimulatedParticipant.moveCursor]
        split <;> rfl
      rw [← kept]
      cases scrollX <;> cases scrollY <;> rfl

/-- A snapshot with a position brings it, and one without leaves the old. -/
theorem seen_upsert (snapshot : ParticipantSnapshot) :
    field.seen (upsert participants snapshot) pid =
      if pid = snapshot.pid then (field.ofSnapshot snapshot).or (field.seen participants pid)
      else field.seen participants pid := by
  rw [seen, upsert, JsMap.get?_set]
  split
  · next h =>
      subst h
      rw [Option.bind_some, ofSimulated_moves, seen]
      cases participants.get? snapshot.pid with
      | none => cases field <;> rfl
      | some participant => cases field <;> rfl
  · rfl

/-- A patch brings the positions it carries. -/
theorem seen_applyPatch (patch : ParticipantPatch) :
    field.seen (applyPatch participants patch) pid =
      (if pid = patch.pid then field.ofPatch patch else none).or (field.seen participants pid) := by
  rw [seen, applyPatch, JsMap.get?_set]
  split
  · next h =>
      subst h
      rw [Option.bind_some, ofSimulated_moves, seen]
      cases participants.get? patch.pid with
      | none => cases field <;> rfl
      | some participant => cases field <;> rfl
  · rfl

/-- A list of patches brings the last position carried. -/
theorem seen_foldl_applyPatch (patches : List ParticipantPatch) :
    field.seen (patches.foldl applyPatch participants) pid =
      (field.carried pid patches).or (field.seen participants pid) := by
  induction patches generalizing participants with
  | nil => rfl
  | cons patch patches ih =>
      rw [List.foldl_cons, ih, seen_applyPatch, carried, Option.or_assoc]

end PresenceField

/-- Snapshots that say the same of a participant seed a table with just that. -/
theorem PresenceField.seen_foldl_upsert {field : PresenceField} {pid : ParticipantId}
    {said : Option (ℚ × ℚ)} {snapshots : List ParticipantSnapshot}
    (own : ∀ snapshot ∈ snapshots, pid = snapshot.pid → field.ofSnapshot snapshot = said)
    (participants : JsMap ParticipantId SimulatedParticipant) :
    field.seen (snapshots.foldl upsert participants) pid =
      if pid ∈ snapshots.map ParticipantSnapshot.pid then said.or (field.seen participants pid)
      else field.seen participants pid := by
  induction snapshots generalizing participants with
  | nil => rfl
  | cons snapshot snapshots ih =>
      rw [List.foldl_cons, ih (fun other ho => own other (List.mem_cons_of_mem _ ho)),
        seen_upsert]
      by_cases hp : pid = snapshot.pid
      · rw [if_pos hp, own snapshot List.mem_cons_self hp, ← Option.or_assoc, Option.or_self,
          ite_self, List.map_cons, if_pos (List.mem_cons.mpr (Or.inl hp))]
      · rw [if_neg hp]
        simp only [List.map_cons, List.mem_cons, hp, false_or]

/-- The position this view has of a participant. -/
def ParticipantView.seen (view : ParticipantView) (field : PresenceField) (pid : ParticipantId) :
    Option (ℚ × ℚ) :=
  field.seen view.participants pid

/-- A patch that is not fresh is left out. -/
theorem ParticipantView.seen_patch (view : ParticipantView) (msg : PatchMessage)
    (field : PresenceField) (pid : ParticipantId) :
    (view.deliver (.patch msg)).seen field pid =
      if view.Fresh msg.seq then (field.carried pid msg.patches).or (view.seen field pid)
      else view.seen field pid := by
  rw [deliver]
  split
  · exact field.seen_foldl_applyPatch _ pid msg.patches
  · rfl

end Copresence
