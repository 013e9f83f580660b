import Copresence.Server.Run

/-! Whether the hub keeps sessions apart. Its two maps agree until a
participant is registered under a second session, and no longer after. -/
namespace Copresence

open Collections

namespace BroadcastHub

/-- A call that changes the hub. -/
inductive Call where
  | register (connection : Connection)
  | unregister (pid : ParticipantId)
deriving DecidableEq

def apply (hub : BroadcastHub) : Call → BroadcastHub
  | .register connection => hub.register connection
  | .unregister pid => hub.unregister pid

/-- A socket is registered for the session it was opened with. -/
def Call.Opened (opened : SocketId → SessionId) : Call → Prop
  | .register connection => connection.sid = opened connection.socket
  | .unregister _ => True

instance (opened : SocketId → SessionId) (call : Call) : Decidable (call.Opened opened) := by
  cases call <;> unfold Call.Opened <;> infer_instance

/-- The participants of a session are those registered for it, and its
broadcasts reach only sockets registered for, and opened with, that session. -/
structure Isolated (opened : SocketId → SessionId) (hub : BroadcastHub) : Prop where
  members : ∀ pid sid, pid ∈ hub.participantsOf sid ↔
    ∃ connection, hub.registration pid = some connection ∧ connection.sid = sid
  unregistered : ∀ pid, hub.registration pid = none → ∀ sid, pid ∉ hub.participantsOf sid
  targets : ∀ isOpen sid message exclude,
    ∀ write ∈ hub.broadcastToSession isOpen sid message exclude,
      (∃ pid connection, hub.registration pid = some connection ∧
        connection.socket = write.socket ∧ connection.sid = sid) ∧ opened write.socket = sid

/-- The call registers a registered participant under another session. -/
def CrossRegisters (hub : BroadcastHub) (call : Call) : Prop :=
  ∃ connection old, call = .register connection ∧
    hub.registration connection.pid = some old ∧ old.sid ≠ connection.sid

/-- Every registration is under its own key, for a socket's own session. -/
def Consistent (opened : SocketId → SessionId) (hub : BroadcastHub) : Prop :=
  ∀ pid connection, hub.registration pid = some connection →
    connection.sid = opened connection.socket

section Steps

variable {opened : SocketId → SessionId} {hub : BroadcastHub} {call : Call}

theorem Consistent.apply (consistent : hub.Consistent opened) (hOpened : call.Opened opened) :
    (hub.apply call).Consistent opened := by
  intro pid connection h
  cases call with
  | register fresh =>
      rw [BroadcastHub.apply, registration_register] at h
      split at h
      · rw [← Option.some.inj h]
        exact hOpened
      · exact consistent pid connection h
  | unregister gone =>
      rw [BroadcastHub.apply, registration_unregister] at h
      split at h
      · cases h
      · exact consistent pid connection h

/-- Membership alone makes a hub isolated. -/
theorem isolated_of_members (consistent : hub.Consistent opened)
    (members : ∀ pid sid, pid ∈ hub.participantsOf sid ↔
      ∃ connection, hub.registration pid = some connection ∧ connection.sid = sid) :
    hub.Isolated opened := by
  refine ⟨members, ?_, ?_⟩
  · intro pid hn sid hm
    obtain ⟨connection, hr, _⟩ := (members pid sid).mp hm
    rw [hn] at hr
    cases hr
  · intro isOpen sid message exclude write hw
    obtain ⟨pid, hm, _, hs⟩ := mem_broadcastToSession.mp hw
    obtain ⟨connection, hr, _, rfl⟩ := mem_sendTo.mp hs
    obtain ⟨found, hf, hsid⟩ := (members pid sid).mp hm
    obtain rfl := Option.some.inj (hr.symm.trans hf)
    exact ⟨⟨pid, connection, hr, rfl, hsid⟩, (consistent pid connection hr).symm.trans hsid⟩

/-- One call keeps an isolated hub isolated exactly when it does not move a
registered participant to another session. -/
theorem isolated_apply_iff (consistent : hub.Consistent opened) (hOpened : call.Opened opened)
    (isolated : hub.Isolated opened) :
    (hub.apply call).Isolated opened ↔ ¬ hub.CrossRegisters call := by
  constructor
  · rintro after ⟨connection, old, rfl, hr, hne⟩
    have stays : connection.pid ∈ (hub.register connection).participantsOf old.sid :=
      mem_participantsOf_register.mpr
        (Or.inr ((isolated.members connection.pid old.sid).mpr ⟨old, hr, rfl⟩))
    obtain ⟨found, hf, hs⟩ := (after.members connection.pid old.sid).mp stays
    rw [BroadcastHub.apply, registration_register, if_pos rfl] at hf
    rw [← Option.some.inj hf] at hs
    exact hne hs.symm
  · intro stays
    apply isolated_of_members (consistent.apply hOpened)
    intro pid sid
    cases call with
    | register connection =>
        rw [BroadcastHub.apply, mem_participantsOf_register, registration_register,
          isolated.members]
        by_cases hp : pid = connection.pid
        · subst hp
          rw [if_pos rfl]
          constructor
          · rintro (⟨rfl, _⟩ | ⟨old, hr, rfl⟩)
            · exact ⟨connection, rfl, rfl⟩
            · refine ⟨connection, rfl, ?_⟩
              by_contra hne
              exact stays ⟨connection, old, rfl, hr, fun he => hne he.symm⟩
          · rintro ⟨found, hf, rfl⟩
            rw [← Option.some.inj hf]
            exact Or.inl ⟨rfl, rfl⟩
        · rw [if_neg hp]
          simp [hp]
    | unregister gone =>
        rw [BroadcastHub.apply, mem_participantsOf_unregister, registration_unregister,
          isolated.members]
        by_cases hp : pid = gone
        · subst hp
          simp
        · simp [hp]

end Steps

theorem empty_isolated (opened : SocketId → SessionId) : empty.Isolated opened := by
  refine isolated_of_members (fun pid connection h => nomatch h) fun pid sid => ?_
  exact ⟨fun h => (List.not_mem_nil h).elim, fun ⟨_, h, _⟩ => nomatch h⟩

/-- Over any sequence of calls the hub isolates its sessions at every point
exactly when no call registers a registered participant under another one. -/
theorem isolated_always_iff (opened : SocketId → SessionId) (calls : List Call)
    (hOpened : ∀ call ∈ calls, call.Opened opened) :
    Transition.Always apply (Isolated opened) empty calls ↔
      Transition.Along apply (fun hub call => ¬ hub.CrossRegisters call) empty calls := by
  have keeps : ∀ (hub : BroadcastHub) (call : Call), call.Opened opened →
      hub.Consistent opened → (hub.apply call).Consistent opened :=
    fun _ _ hOpened consistent => consistent.apply hOpened
  have exact_step : ∀ (hub : BroadcastHub) (call : Call), call.Opened opened →
      hub.Consistent opened → hub.Isolated opened →
      ((hub.apply call).Isolated opened ↔ ¬ hub.CrossRegisters call) :=
    fun _ _ hOpened consistent isolated => isolated_apply_iff consistent hOpened isolated
  have initially : empty.Consistent opened := by
    intro pid connection h
    cases h
  exact Transition.always_iff_along keeps exact_step initially (empty_isolated opened) hOpened

open Scenario

/-- Socket 1 was opened for the one session, every other for the other. -/
def openedWith (socket : SocketId) : SessionId := if socket = 1 then session else otherSession

/-- One participant, registered for both sessions. -/
def sharedPid : List Call :=
  [.register { pid := alice, sid := session, socket := 1 },
    .register { pid := alice, sid := otherSession, socket := 2 }]

theorem sharedPid_opened : ∀ call ∈ sharedPid, call.Opened openedWith := by decide

/-- What is broadcast to the first session goes out on the second's socket. -/
theorem sharedPid_leaks :
    (∀ call ∈ sharedPid, call.Opened openedWith) ∧
      ¬ Transition.Always apply (Isolated openedWith) empty sharedPid := by
  refine ⟨sharedPid_opened, fun always => ?_⟩
  have isolated := Transition.always_iff_prefix.mp always sharedPid (List.prefix_refl _)
  have leaked := isolated.targets (fun _ => true) session (leaveMessage session bob 0) none
    { recipient := some alice, socket := 2, message := leaveMessage session bob 0 } (by decide)
  exact absurd leaked.2 (by decide)

theorem isolated_always_iff_sharedPid :
    Transition.Always apply (Isolated openedWith) empty sharedPid ↔
      Transition.Along apply (fun hub call => ¬ hub.CrossRegisters call) empty sharedPid :=
  isolated_always_iff openedWith sharedPid sharedPid_opened

end BroadcastHub

end Copresence
