import Copresence.Server.Roster

/-! The latest hello of each participant, read off the history of accepted
frames, and how it moves with each action. -/
namespace Copresence

open Collections

/-- The actions that come from an accepted frame. -/
def Action.IsFrame : Action → Prop
  | .hello _ _ => True
  | .presence _ _ => True
  | .bye _ _ => True
  | _ => False

/-- An accepted frame acts as its message says. -/
theorem Server.action_of_received {server : Server} {stamped : Stamped} {ctx : ConnectionContext}
    {msg : InboundMessage} (h : server.received stamped = some (ctx, msg)) :
    server.action stamped = .ofMessage ctx msg := by
  obtain ⟨socket, frame, he, _, _⟩ := received_eq_some h
  rw [action, he, h]

/-- An action of a frame is that of an accepted one. -/
theorem Server.received_of_isFrame {server : Server} {stamped : Stamped}
    (h : (server.action stamped).IsFrame) :
    ∃ ctx msg, server.received stamped = some (ctx, msg) ∧
      server.action stamped = .ofMessage ctx msg := by
  cases hr : server.received stamped with
  | some pair => exact ⟨pair.1, pair.2, rfl, action_of_received hr⟩
  | none =>
      unfold action at h
      split at h
      · split at h <;> exact h.elim
      · rw [hr] at h
        exact h.elim
      · split at h <;> exact h.elim
      · split at h <;> exact h.elim
      · exact h.elim
      · exact h.elim
      · exact h.elim
      · exact h.elim

/-- A hello that acts was accepted. -/
theorem Server.action_eq_hello {server : Server} {stamped : Stamped} {ctx : ConnectionContext}
    {msg : HelloMessage} (h : server.action stamped = .hello ctx msg) :
    server.received stamped = some (ctx, .hello msg) := by
  obtain ⟨found, received, hr, ha⟩ := received_of_isFrame (by rw [h]; trivial)
  rw [h] at ha
  cases received with
  | hello other => cases ha; exact hr
  | _ => cases ha

/-- A goodbye that acts was accepted. -/
theorem Server.action_eq_bye {server : Server} {stamped : Stamped} {ctx : ConnectionContext}
    {pid : ParticipantId} (h : server.action stamped = .bye ctx pid) :
    ∃ msg, server.received stamped = some (ctx, .bye msg) := by
  obtain ⟨found, received, hr, ha⟩ := received_of_isFrame (by rw [h]; trivial)
  rw [h] at ha
  cases received with
  | bye other => cases ha; exact ⟨other, hr⟩
  | _ => cases ha

/-- The hello of this participant in this session. -/
def Action.IsHelloFor (sid : SessionId) (pid : ParticipantId) (action : Action) : Prop :=
  ∃ ctx msg, action = .hello ctx msg ∧ sid = ctx.sid ∧ pid = msg.pid

/-- The frame whose acceptance this action is, for a hello. -/
def Action.acceptedHello (time : Int) : Action → Option Accepted
  | .hello ctx msg => some { time, socket := ctx.socket, sid := ctx.sid, msg := .hello msg }
  | _ => none

/-- A hello is the only action that is one. -/
theorem Action.acceptedHello_eq_some {time : Int} {action : Action} {accepted : Accepted} :
    action.acceptedHello time = some accepted ↔
      ∃ ctx msg, action = .hello ctx msg ∧
        { time, socket := ctx.socket, sid := ctx.sid, msg := .hello msg } = accepted := by
  cases action <;> simp [acceptedHello]

/-- A hello carrying this participant id. -/
def Accepted.IsHelloOf (accepted : Accepted) (pid : ParticipantId) : Prop :=
  accepted.msg.isHello = true ∧ accepted.msg.pid = pid

instance (accepted : Accepted) (pid : ParticipantId) : Decidable (accepted.IsHelloOf pid) := by
  rw [Accepted.IsHelloOf]
  infer_instance

namespace Observed

/-- The most recent hello of a participant in one session. -/
def lastHello (observed : Observed) (sid : SessionId) (pid : ParticipantId) : Option Accepted :=
  observed.accepted.find? fun accepted => accepted.sid = sid ∧ accepted.IsHelloOf pid

/-- The most recent hello of a participant on any connection. -/
def latestHello (observed : Observed) (pid : ParticipantId) : Option Accepted :=
  observed.accepted.find? fun accepted => accepted.IsHelloOf pid

/-- Only a hello moves what is found of hellos. -/
theorem find?_accepted_step (cfg : Config) (observed : Observed) (stamped : Stamped)
    {wanted : Accepted → Bool} (onlyHellos : ∀ accepted, wanted accepted = true →
      accepted.msg.isHello = true) :
    (observed.step cfg stamped).accepted.find? wanted =
      (((observed.server.action stamped).acceptedHello stamped.time).filter wanted).or
        (observed.accepted.find? wanted) := by
  rw [step, List.find?_append]
  congr 1
  cases hr : observed.server.received stamped with
  | none =>
      have quiet : (observed.server.action stamped).acceptedHello stamped.time = none := by
        rw [Option.eq_none_iff_forall_not_mem]
        intro accepted ha
        obtain ⟨ctx, msg, he, _⟩ := Action.acceptedHello_eq_some.mp ha
        rw [Server.action_eq_hello he] at hr
        cases hr
      rw [acceptedFrame, hr, quiet]
      rfl
  | some pair =>
      obtain ⟨ctx, msg⟩ := pair
      rw [acceptedFrame, hr, Server.action_of_received hr]
      have refused : msg.isHello = false → List.find? wanted
          [{ time := stamped.time, socket := ctx.socket, sid := ctx.sid, msg }] = none := by
        intro hf
        rw [List.find?_singleton, if_neg]
        intro hw
        rw [onlyHellos _ hw] at hf
        cases hf
      cases msg with
      | hello msg =>
          simp only [Option.map_some, Option.toList_some, List.find?_singleton, Action.ofMessage,
            Action.acceptedHello, Option.filter_some]
      | cursor msg => exact refused rfl
      | scroll msg => exact refused rfl
      | ack msg => exact refused rfl
      | ping msg => exact refused rfl
      | bye msg => exact refused rfl
      | audit msg => exact refused rfl

/-- A step may bring a later hello of a participant in a session. -/
theorem lastHello_step (cfg : Config) (observed : Observed) (stamped : Stamped) (sid : SessionId)
    (pid : ParticipantId) :
    (observed.step cfg stamped).lastHello sid pid =
      (((observed.server.action stamped).acceptedHello stamped.time).filter fun accepted =>
        accepted.sid = sid ∧ accepted.IsHelloOf pid).or (observed.lastHello sid pid) :=
  observed.find?_accepted_step cfg stamped fun _ h => (of_decide_eq_true h).2.1

/-- A step may bring a later hello of a participant in any session. -/
theorem latestHello_step (cfg : Config) (observed : Observed) (stamped : Stamped)
    (pid : ParticipantId) :
    (observed.step cfg stamped).latestHello pid =
      (((observed.server.action stamped).acceptedHello stamped.time).filter fun accepted =>
        accepted.IsHelloOf pid).or (observed.latestHello pid) :=
  observed.find?_accepted_step cfg stamped fun _ h => (of_decide_eq_true h).1

/-- The observed run of the same server under the same events. -/
theorem run_concat (cfg : Config) (observed : Observed) (events : List Stamped)
    (stamped : Stamped) :
    observed.run cfg (events ++ [stamped]) = (observed.run cfg events).step cfg stamped :=
  Transition.run_concat _ _ _ _

/-- Every observed run keeps the server well formed. -/
theorem run_wellFormed (cfg : Config) (events : List Stamped) :
    (run cfg initial events).server.WellFormed := by
  rw [run_server]
  exact Server.run_wellFormed cfg Server.initial_wellFormed events

end Observed

end Copresence
