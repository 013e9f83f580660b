import Copresence.Client.Remotes
import Copresence.Server.Run
import Copresence.Services.ConvergenceTracker

/-! The convergence tracker against the client it stands for: both are given
the same messages, and are compared participant by participant. -/
namespace Copresence

open Collections
open Client (Shown)

namespace Picture

variable (pid : ParticipantId)

/-- What a list of snapshots gives of one field of a participant: the last one
to carry it counts. -/
def given (field : PresenceField) : List ParticipantSnapshot → Option (ℚ × ℚ)
  | [] => none
  | snapshot :: snapshots =>
    (given field snapshots).or (if pid = snapshot.pid then field.ofSnapshot snapshot else none)

theorem foldl_upserted_field (old : Option Shown) (snapshots : List ParticipantSnapshot)
    (field : PresenceField) :
    field.shownOf (snapshots.foldl (upserted pid) old) =
      (given pid field snapshots).or (field.shownOf old) := by
  induction snapshots generalizing old with
  | nil => rfl
  | cons snapshot snapshots ih =>
      rw [List.foldl_cons, ih, shownOf_upserted, given, Option.or_assoc]

theorem foldl_upserted_color {first second : Option Shown}
    (same : first.map Shown.color = second.map Shown.color) (snapshots : List ParticipantSnapshot) :
    (snapshots.foldl (upserted pid) first).map Shown.color =
      (snapshots.foldl (upserted pid) second).map Shown.color := by
  induction snapshots generalizing first second with
  | nil => exact same
  | cons snapshot snapshots ih =>
      rw [List.foldl_cons, List.foldl_cons]
      apply ih
      unfold upserted
      split
      · rfl
      · exact same

/-- A participant in the list has a colour that no earlier picture has a say in. -/
theorem foldl_upserted_color_of_mem {snapshots : List ParticipantSnapshot}
    (listed : pid ∈ snapshots.map ParticipantSnapshot.pid) (first second : Option Shown) :
    (snapshots.foldl (upserted pid) first).map Shown.color =
      (snapshots.foldl (upserted pid) second).map Shown.color := by
  induction snapshots generalizing first second with
  | nil => cases listed
  | cons snapshot snapshots ih =>
      rw [List.foldl_cons, List.foldl_cons]
      by_cases own : pid = snapshot.pid
      · apply foldl_upserted_color
        rw [upserted, upserted, if_pos own, if_pos own]
        rfl
      · apply ih
        rcases List.mem_cons.mp listed with h | h
        · exact absurd h own
        · exact h

/-- Seeding over an old picture comes to the same as seeding anew exactly when
no position of a listed participant is left standing. -/
theorem seeded_eq_iff (old : Option Shown) (snapshots : List ParticipantSnapshot) :
    seeded pid old snapshots = snapshots.foldl (upserted pid) none ↔
      (pid ∈ snapshots.map ParticipantSnapshot.pid → ∀ field : PresenceField,
        given pid field snapshots = none → field.shownOf old = none) := by
  rw [seeded]
  by_cases listed : pid ∈ snapshots.map ParticipantSnapshot.pid
  · rw [if_pos listed]
    constructor
    · intro same _ field unsaid
      have component := congrArg field.shownOf same
      rw [foldl_upserted_field, foldl_upserted_field, unsaid] at component
      exact component
    · intro cleared
      apply shown_ext
      · exact foldl_upserted_color_of_mem pid listed _ _
      · intro field
        rw [foldl_upserted_field, foldl_upserted_field]
        cases said : given pid field snapshots with
        | some position => rfl
        | none => exact cleared listed field said
  · rw [if_neg listed]
    exact iff_of_true rfl fun h => absurd h listed

end Picture

def SimulatedParticipant.shown (participant : SimulatedParticipant) : Shown where
  color := participant.color
  cursor := both participant.x participant.y
  scroll := both participant.scrollX participant.scrollY

theorem SimulatedParticipant.shown_moves (participant : SimulatedParticipant)
    (x y scrollX scrollY : Option ℚ) :
    ((participant.moveCursor x y).moveScroll scrollX scrollY).shown =
      participant.shown.move (both x y) (both scrollX scrollY) := by
  cases x <;> cases y <;> cases scrollX <;> cases scrollY <;> rfl

namespace ParticipantView

/-- What a view shows of one participant, as the picture a client would have. -/
def picture (view : ParticipantView) (pid : ParticipantId) : Picture where
  lastPatchSeq := view.lastPatchSeq
  shown := (view.participants.get? pid).map SimulatedParticipant.shown

end ParticipantView

namespace Picture

variable (pid : ParticipantId)

/-- `recordDelivery` as seen by one participant: a seed starts anew. -/
def track (picture : Picture) : OutboundMessage → Picture
  | .welcome msg => { picture with shown := msg.participants.foldl (upserted pid) none }
  | .snapshot msg => { picture with shown := msg.participants.foldl (upserted pid) none }
  | message => picture.see pid message

theorem upsert_shown (participants : JsMap ParticipantId SimulatedParticipant)
    (snapshot : ParticipantSnapshot) :
    ((upsert participants snapshot).get? pid).map SimulatedParticipant.shown =
      upserted pid ((participants.get? pid).map SimulatedParticipant.shown) snapshot := by
  rw [upsert_get?, upserted]
  split
  · rw [SimulatedParticipant.upserted, Option.map_some, SimulatedParticipant.shown_moves]
    cases participants.get? pid <;> rfl
  · rfl

theorem applyPatch_shown (participants : JsMap ParticipantId SimulatedParticipant)
    (patch : ParticipantPatch) :
    ((applyPatch participants patch).get? pid).map SimulatedParticipant.shown =
      patched pid ((participants.get? pid).map SimulatedParticipant.shown) patch := by
  rw [applyPatch_get?, patched]
  split
  · rw [SimulatedParticipant.patched, Option.map_some, SimulatedParticipant.shown_moves]
    cases participants.get? pid <;> rfl
  · rfl

theorem foldl_upsert_shown (snapshots : List ParticipantSnapshot)
    (participants : JsMap ParticipantId SimulatedParticipant) :
    ((snapshots.foldl upsert participants).get? pid).map SimulatedParticipant.shown =
      snapshots.foldl (upserted pid) ((participants.get? pid).map SimulatedParticipant.shown) := by
  induction snapshots generalizing participants with
  | nil => rfl
  | cons snapshot snapshots ih => rw [List.foldl_cons, ih, upsert_shown, List.foldl_cons]

theorem foldl_applyPatch_shown (patches : List ParticipantPatch)
    (participants : JsMap ParticipantId SimulatedParticipant) :
    ((patches.foldl applyPatch participants).get? pid).map SimulatedParticipant.shown =
      patches.foldl (patched pid) ((participants.get? pid).map SimulatedParticipant.shown) := by
  induction patches generalizing participants with
  | nil => rfl
  | cons patch patches ih => rw [List.foldl_cons, ih, applyPatch_shown, List.foldl_cons]

end Picture

/-- A delivery moves a view as it moves each participant's picture. -/
theorem ParticipantView.deliver_picture (view : ParticipantView) (pid : ParticipantId)
    (message : OutboundMessage) :
    (view.deliver message).picture pid = (view.picture pid).track pid message := by
  cases message with
  | welcome msg =>
      rw [deliver, picture, Picture.foldl_upsert_shown]
      rfl
  | snapshot msg =>
      rw [deliver, picture, Picture.foldl_upsert_shown]
      rfl
  | join msg =>
      rw [deliver, picture, Picture.upsert_shown]
      rfl
  | leave msg =>
      show _ = (view.picture pid).see pid (.leave msg)
      rw [deliver, picture, JsMap.get?_delete, Picture.see]
      split <;> rfl
  | patch msg =>
      show _ = (view.picture pid).see pid (.patch msg)
      rw [deliver, Picture.see]
      by_cases fresh : view.Fresh msg.seq
      · rw [if_pos fresh, if_pos (by exact fresh), picture, Picture.foldl_applyPatch_shown]
        rfl
      · rw [if_neg fresh, if_neg (by exact fresh)]
  | pong msg => rfl
  | auditAck msg => rfl
  | error msg => rfl

/-- The roster a message seeds, if it does. -/
def OutboundMessage.seed? : OutboundMessage → Option (List ParticipantSnapshot)
  | .welcome msg => some msg.participants
  | .snapshot msg => some msg.participants
  | _ => none

/-- Tracking is seeing, but for a seed over positions it does not replace. -/
theorem Picture.track_eq_see_iff (picture : Picture) (pid : ParticipantId)
    (message : OutboundMessage) :
    (picture.track pid message).shown = (picture.see pid message).shown ↔
      ∀ snapshots, message.seed? = some snapshots →
        pid ∈ snapshots.map ParticipantSnapshot.pid → ∀ field : PresenceField,
          given pid field snapshots = none → field.shownOf picture.shown = none := by
  have seeds : ∀ snapshots : List ParticipantSnapshot,
      snapshots.foldl (upserted pid) none = seeded pid picture.shown snapshots ↔
        ∀ others, some snapshots = some others →
          pid ∈ others.map ParticipantSnapshot.pid → ∀ field : PresenceField,
            given pid field others = none → field.shownOf picture.shown = none := by
    intro snapshots
    rw [eq_comm, seeded_eq_iff]
    simp only [Option.some.injEq, forall_eq']
  cases message with
  | welcome msg => exact seeds msg.participants
  | snapshot msg => exact seeds msg.participants
  | _ => exact iff_of_true rfl (by simp [OutboundMessage.seed?])

/-- A view and a client whose guards on patches are the same take the same patches. -/
theorem ParticipantView.deliver_guards {view : ParticipantView} {client : Client}
    (guards : view.lastPatchSeq = client.lastPatchSeq) (now : Int) (message : OutboundMessage) :
    (view.deliver message).lastPatchSeq = (client.routeMessage now message).lastPatchSeq := by
  rw [Client.routeMessage_lastPatchSeq]
  cases message with
  | patch msg =>
      rw [deliver]
      dsimp only
      have same : view.Fresh msg.seq ↔ client.Fresh msg.seq := by
        rw [Fresh, guards]
        exact Iff.rfl
      by_cases fresh : view.Fresh msg.seq
      · rw [if_pos fresh, if_pos (same.mp fresh)]
      · rw [if_neg fresh, if_neg fun h => fresh (same.mpr h), guards]
  | _ => exact guards

/-- A tracker and the client whose connection it watches. -/
structure Mirrored where
  tracker : ConvergenceTracker
  client : Client

namespace Mirrored

/-- Nothing delivered yet. -/
def start (pid : ParticipantId) : Mirrored :=
  { tracker := { sessions := JsMap.empty }, client := { pid } }

variable (sid : SessionId)

/-- One message, delivered to both, at the client's own time. -/
def deliver (mirrored : Mirrored) (delivery : Int × OutboundMessage) : Mirrored where
  tracker := mirrored.tracker.recordDelivery sid mirrored.client.pid delivery.2
  client := mirrored.client.routeMessage delivery.1 delivery.2

/-- The tracker's view of the client's connection. -/
def view (mirrored : Mirrored) : ParticipantView :=
  mirrored.tracker.view sid mirrored.client.pid

/-- Of everybody but the client itself, both have the same: presence in the
roster, colour, latest cursor and scroll. -/
def Agree (mirrored : Mirrored) : Prop :=
  ∀ pid, pid ≠ mirrored.client.pid →
    ((mirrored.view sid).picture pid).shown = mirrored.client.shown pid

/-- A seed gives a position wherever the client shows one of a participant it
lists. -/
def Regives (mirrored : Mirrored) (delivery : Int × OutboundMessage) : Prop :=
  ∀ pid, pid ≠ mirrored.client.pid → ∀ snapshots, delivery.2.seed? = some snapshots →
    pid ∈ snapshots.map ParticipantSnapshot.pid → ∀ field : PresenceField,
      Picture.given pid field snapshots = none →
        field.shownOf (mirrored.client.shown pid) = none

variable {sid : SessionId} {mirrored : Mirrored} {delivery : Int × OutboundMessage}

theorem view_deliver :
    (mirrored.deliver sid delivery).view sid = (mirrored.view sid).deliver delivery.2 := by
  show (mirrored.tracker.recordDelivery sid mirrored.client.pid delivery.2).view sid
    (mirrored.client.routeMessage delivery.1 delivery.2).pid = _
  rw [Client.routeMessage_pid, ConvergenceTracker.recordDelivery_view, if_pos ⟨rfl, rfl⟩]
  rfl

/-- The two guards on patches are always the same. -/
theorem guards_deliver (guards : (mirrored.view sid).lastPatchSeq = mirrored.client.lastPatchSeq) :
    ((mirrored.deliver sid delivery).view sid).lastPatchSeq =
      (mirrored.deliver sid delivery).client.lastPatchSeq := by
  rw [view_deliver]
  exact ParticipantView.deliver_guards guards delivery.1 delivery.2

/-- Where everybody's picture is the same, it stays so exactly for a delivery
that regives what it lists. -/
theorem agree_deliver_iff
    (guards : (mirrored.view sid).lastPatchSeq = mirrored.client.lastPatchSeq)
    (agree : mirrored.Agree sid) :
    (mirrored.deliver sid delivery).Agree sid ↔ mirrored.Regives delivery := by
  have pictures : ∀ pid, pid ≠ mirrored.client.pid →
      (mirrored.view sid).picture pid = mirrored.client.picture pid := by
    intro pid other
    rw [ParticipantView.picture, Client.picture, guards, ← agree pid other]
    rfl
  have same_pid : (mirrored.deliver sid delivery).client.pid = mirrored.client.pid :=
    Client.routeMessage_pid delivery.1 delivery.2
  rw [Agree, same_pid, view_deliver, Regives]
  apply forall_congr'
  intro pid
  apply forall_congr'
  intro other
  have seen : (mirrored.deliver sid delivery).client.shown pid =
      ((mirrored.client.picture pid).see pid delivery.2).shown :=
    congrArg Picture.shown (Client.routeMessage_picture delivery.1 other delivery.2)
  rw [seen, ParticipantView.deliver_picture, pictures pid other]
  exact (mirrored.client.picture pid).track_eq_see_iff pid delivery.2

variable (sid)

/-- The tracker mirrors the client throughout exactly when every welcome and
snapshot gives a position wherever the client shows one of a participant that
is listed. -/
theorem agree_always_iff (pid : ParticipantId) (deliveries : List (Int × OutboundMessage)) :
    Transition.Always (deliver sid) (Agree sid) (start pid) deliveries ↔
      Transition.Along (deliver sid) Regives (start pid) deliveries := by
  have keeps : ∀ mirrored : Mirrored, ∀ delivery, True →
      (mirrored.view sid).lastPatchSeq = mirrored.client.lastPatchSeq →
        ((mirrored.deliver sid delivery).view sid).lastPatchSeq =
          (mirrored.deliver sid delivery).client.lastPatchSeq :=
    fun _ _ _ guards => guards_deliver guards
  have exact_step : ∀ mirrored : Mirrored, ∀ delivery, True →
      (mirrored.view sid).lastPatchSeq = mirrored.client.lastPatchSeq → mirrored.Agree sid →
        ((mirrored.deliver sid delivery).Agree sid ↔ mirrored.Regives delivery) :=
    fun _ _ _ guards agree => agree_deliver_iff guards agree
  exact Transition.always_iff_along keeps exact_step rfl (fun _ _ => rfl) (fun _ _ => trivial)

open Scenario

/-- A roster of the viewer and one other, who may have a cursor. -/
def rosterWith (x y : Option ℚ) : OutboundMessage :=
  .welcome { sid := session, seq := 0, ts := 0, pid := alice, participants :=
    [{ pid := alice, color := "#e6194b", lastSeenAt := 0 },
      { pid := bob, color := "#3cb44b", x, y, lastSeenAt := 0 }] }

/-- The other is back without a cursor when the roster comes again. -/
def reseeded : List (Int × OutboundMessage) :=
  [(1, rosterWith (some 1) (some 4)), (2, rosterWith none none)]

/-- The client still shows the old cursor, the tracker none. -/
theorem reseeded_differs :
    ((Transition.run (deliver session) (start alice) reseeded).client.shown bob).map Client.Shown.cursor =
        some (some (1, 4)) ∧
      (((Transition.run (deliver session) (start alice) reseeded).view session).picture
        bob).shown.map Client.Shown.cursor = some none ∧
      ¬(Transition.run (deliver session) (start alice) reseeded).Agree session := by
  have client : ((Transition.run (deliver session) (start alice) reseeded).client.shown bob).map
      Client.Shown.cursor = some (some (1, 4)) := by decide
  have tracker : (((Transition.run (deliver session) (start alice) reseeded).view session).picture
      bob).shown.map Client.Shown.cursor = some none := by decide
  refine ⟨client, tracker, ?_⟩
  intro agree
  have same := agree bob (by decide)
  rw [same, client] at tracker
  cases tracker

end Mirrored

end Copresence
