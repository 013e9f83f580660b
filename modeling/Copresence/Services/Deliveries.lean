import Copresence.Services.Announcing
import Copresence.Services.ConvergenceReport

/-! What reaches each participant of what the hub sends, when the network loses,
repeats, delays and reorders nothing, and what the tracker makes of it. -/
namespace Copresence

open Collections

/-- What the hub hands to the middleware is delivered at once. Frames written
past the hub are not seen. -/
def ConvergenceTracker.onDeliver (tracker : ConvergenceTracker) (write : Write) :
    ConvergenceTracker :=
  match write.recipient with
  | none => tracker
  | some pid => tracker.recordDelivery write.message.envelope.sid pid write.message

/-- The messages of one session among these writes that go to one participant. -/
def deliveredTo (sid : SessionId) (pid : ParticipantId) (writes : List Write) :
    List OutboundMessage :=
  writes.filterMap fun write =>
    if write.recipient = some pid ∧ write.message.envelope.sid = sid then some write.message
    else none

/-- What is delivered of two lists is delivered in their order. -/
theorem deliveredTo_append (sid : SessionId) (pid : ParticipantId) (first second : List Write) :
    deliveredTo sid pid (first ++ second) =
      deliveredTo sid pid first ++ deliveredTo sid pid second :=
  List.filterMap_append

theorem deliveredTo_cons (sid : SessionId) (pid : ParticipantId) (write : Write)
    (writes : List Write) :
    deliveredTo sid pid (write :: writes) =
      if write.recipient = some pid ∧ write.message.envelope.sid = sid then
        write.message :: deliveredTo sid pid writes
      else deliveredTo sid pid writes := by
  rw [deliveredTo, List.filterMap_cons]
  by_cases addressed : write.recipient = some pid ∧ write.message.envelope.sid = sid
  · rw [if_pos addressed, if_pos addressed]
    rfl
  · rw [if_neg addressed, if_neg addressed]
    rfl

/-- What is written to others is not delivered. -/
theorem deliveredTo_eq_nil {sid : SessionId} {pid : ParticipantId} {writes : List Write}
    (h : ∀ write ∈ writes, write.recipient = some pid → write.message.envelope.sid ≠ sid) :
    deliveredTo sid pid writes = [] := by
  rw [deliveredTo, List.filterMap_eq_nil_iff]
  intro write hw
  apply if_neg
  intro addressed
  exact h write hw addressed.1 addressed.2

namespace ConvergenceTracker

variable (sid : SessionId) (pid : ParticipantId) (writes : List Write) (tracker : ConvergenceTracker)

/-- A send delivers to the view it is addressed to and to no other. -/
theorem onDeliver_held (write : Write) :
    (tracker.onDeliver write).held sid pid =
      if write.recipient = some pid ∧ write.message.envelope.sid = sid then
        some ((tracker.view sid pid).deliver write.message)
      else tracker.held sid pid := by
  rw [onDeliver]
  split
  · next unaddressed =>
      rw [unaddressed, if_neg fun h => nomatch h.1]
  · next other addressed =>
      rw [addressed, recordDelivery_held]
      by_cases own : write.message.envelope.sid = sid ∧ other = pid
      · obtain ⟨rfl, rfl⟩ := own
        rw [if_pos ⟨rfl, rfl⟩, if_pos ⟨rfl, rfl⟩]
      · rw [if_neg fun h => own ⟨h.1.symm, h.2.symm⟩,
          if_neg fun h => own ⟨h.2, Option.some.inj h.1⟩]

/-- A view is made of what was delivered to it. -/
theorem foldl_onDeliver_view :
    (writes.foldl onDeliver tracker).view sid pid =
      (deliveredTo sid pid writes).foldl ParticipantView.deliver (tracker.view sid pid) := by
  induction writes generalizing tracker with
  | nil => rfl
  | cons write writes ih =>
      rw [List.foldl_cons, ih, deliveredTo_cons, view_eq_held, onDeliver_held]
      split
      · rfl
      · rfl

/-- There is a view for everybody anything was delivered to. -/
theorem foldl_onDeliver_held_isSome :
    ((writes.foldl onDeliver tracker).held sid pid).isSome ↔
      (tracker.held sid pid).isSome ∨ deliveredTo sid pid writes ≠ [] := by
  induction writes generalizing tracker with
  | nil => simp [deliveredTo]
  | cons write writes ih =>
      rw [List.foldl_cons, ih, deliveredTo_cons, onDeliver_held]
      split
      · simp
      · rfl

variable {sid pid tracker}

/-- A view that is held is the view. -/
theorem view_of_held {view : ParticipantView} (h : tracker.held sid pid = some view) :
    tracker.view sid pid = view := by
  rw [view_eq_held, h]
  rfl

end ConvergenceTracker

namespace BroadcastHub

/-- Registered for the session, on an open socket. -/
def Reaches (hub : BroadcastHub) (isOpen : SocketId → Bool) (sid : SessionId)
    (pid : ParticipantId) : Prop :=
  ∃ connection ∈ hub.registration pid, connection.sid = sid ∧ isOpen connection.socket = true

instance (hub : BroadcastHub) (isOpen : SocketId → Bool) (sid : SessionId) (pid : ParticipantId) :
    Decidable (hub.Reaches isOpen sid pid) := by
  rw [Reaches]
  infer_instance

variable {home : ParticipantId → SessionId} {hub : BroadcastHub} {isOpen : SocketId → Bool}

/-- What is sent to a participant is delivered to that one, where it is reached. -/
theorem deliveredTo_sendTo (pid other : ParticipantId) (message : OutboundMessage)
    (atHome : ∀ connection ∈ hub.registration pid, connection.sid = message.envelope.sid)
    (sid : SessionId) :
    deliveredTo sid other (hub.sendTo isOpen pid message) =
      if other = pid ∧ message.envelope.sid = sid ∧ hub.Reaches isOpen sid other then [message]
      else [] := by
  by_cases own : other = pid ∧ message.envelope.sid = sid
  · obtain ⟨rfl, rfl⟩ := own
    rw [sendTo, ← registration]
    cases hr : hub.registration other with
    | none =>
        rw [if_neg]
        · rfl
        · intro reached
          obtain ⟨connection, h, -⟩ := reached.2.2
          rw [hr] at h
          cases h
    | some connection =>
        dsimp only
        by_cases opened : isOpen connection.socket = true
        · rw [if_pos opened, if_pos ⟨rfl, rfl, connection, hr, atHome connection hr, opened⟩,
            deliveredTo, List.filterMap_cons, if_pos ⟨rfl, rfl⟩]
          rfl
        · rw [if_neg opened, if_neg]
          · rfl
          · intro reached
            obtain ⟨found, hf, -, stillOpen⟩ := reached.2.2
            cases hr.symm.trans hf
            exact opened stillOpen
  · rw [if_neg fun h => own ⟨h.1, h.2.1⟩]
    apply deliveredTo_eq_nil
    intro write hw addressed hs
    obtain ⟨connection, _, _, rfl⟩ := mem_sendTo.mp hw
    exact own ⟨(Option.some.inj addressed).symm, hs⟩

/-- A broadcast reaches everybody registered for the session on an open socket,
the excluded one apart, once. -/
theorem Seated.deliveredTo_broadcast (seated : hub.Seated home) (message : OutboundMessage)
    (exclude : Option ParticipantId) (sid : SessionId) (pid : ParticipantId) :
    deliveredTo sid pid
        (hub.broadcastToSession isOpen message.envelope.sid message exclude) =
      if message.envelope.sid = sid ∧ some pid ≠ exclude ∧ hub.Reaches isOpen sid pid then
        [message]
      else [] := by
  by_cases reached : message.envelope.sid = sid ∧ some pid ≠ exclude ∧ hub.Reaches isOpen sid pid
  · rw [if_pos reached]
    obtain ⟨rfl, another, connection, hr, hs, opened⟩ := reached
    have registered : hub.registration pid = some connection := hr
    have listed : pid ∈ hub.participantsOf message.envelope.sid :=
      (seated.peers _ pid).mpr ⟨connection, registered, hs⟩
    have own : deliveredTo message.envelope.sid pid
        (if some pid = exclude then [] else hub.sendTo isOpen pid message) = [message] := by
      rw [if_neg another, deliveredTo_sendTo pid pid message ?_ _,
        if_pos ⟨rfl, rfl, connection, hr, hs, opened⟩]
      intro found hf
      cases registered.symm.trans hf
      exact hs
    rw [← own, deliveredTo, broadcastToSession, List.filterMap_flatMap]
    apply flatMap_of_unique (JsMap.nodup_keys _) listed
    intro other _ different
    split
    · rfl
    · apply deliveredTo_eq_nil
      intro write hw addressed
      obtain ⟨_, _, _, rfl⟩ := mem_sendTo.mp hw
      exact absurd (Option.some.inj addressed) different
  · rw [if_neg reached]
    apply deliveredTo_eq_nil
    intro write hw addressed hSid
    obtain ⟨other, listed, another, sent⟩ := mem_broadcastToSession.mp hw
    obtain ⟨connection, registered, opened, rfl⟩ := mem_sendTo.mp sent
    obtain rfl := Option.some.inj addressed
    obtain ⟨found, hf, hs⟩ := (seated.peers _ other).mp listed
    cases registered.symm.trans hf
    exact reached ⟨hSid, another, connection, registered, hs.trans hSid, opened⟩

end BroadcastHub

end Copresence
