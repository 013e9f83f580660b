import Copresence.Client.Transport

/-! How the status, the socket, the timer and the deliberate disconnect of a
connection belong together, whatever happens in whatever order. -/
namespace Copresence

/-- The listeners are on the socket the connection holds, the timer it knows is
the one that is set, it never has both, and one of them while its status says
so. No timer follows a deliberate disconnect. -/
structure Wiring.Owned (wiring : Wiring) : Prop where
  attached : wiring.listening = wiring.socket.toList
  timed : wiring.pending = wiring.reconnectTimer.toList
  exclusive : wiring.socket = none ∨ wiring.reconnectTimer = none
  active : wiring.currentStatus.live = (wiring.socket.isSome || wiring.reconnectTimer.isSome)
  deliberate : wiring.intentionalDisconnect = true → wiring.reconnectTimer = none
  alone : ∀ creation ∈ wiring.creations, creation = ([], [])

/-- A connection that is not live has nothing. -/
theorem Wiring.Owned.free {wiring : Wiring} (owned : wiring.Owned)
    (settled : wiring.currentStatus.live = false) :
    (wiring.socket = none ∧ wiring.reconnectTimer = none) ∧
      wiring.listening = [] ∧ wiring.pending = [] := by
  have active := owned.active
  rw [settled] at active
  simp only [Bool.false_eq, Bool.or_eq_false_iff, Option.isSome_eq_false_iff,
    Option.isNone_iff_eq_none] at active
  refine ⟨active, ?_, ?_⟩
  · rw [owned.attached, active.1]
    rfl
  · rw [owned.timed, active.2]
    rfl

/-- At most one socket has the listeners, never along with a timer that is set;
`createSocket` has only been called with neither; and a connection that is
closed or idle has neither. -/
structure Wiring.OwnsOneSocket (wiring : Wiring) : Prop where
  one : wiring.listening.length ≤ 1
  notBoth : wiring.listening = [] ∨ wiring.pending = []
  createdAlone : ∀ creation ∈ wiring.creations, creation = ([], [])
  quiet : wiring.currentStatus = .closed ∨ wiring.currentStatus = .idle →
    wiring.listening = [] ∧ wiring.pending = []

/-- A connection whose parts belong together owns one socket at most. -/
theorem Wiring.Owned.ownsOneSocket {wiring : Wiring} (owned : wiring.Owned) :
    wiring.OwnsOneSocket := by
  constructor
  · rw [owned.attached]
    exact Option.length_toList_le
  · rw [owned.attached, owned.timed]
    rcases owned.exclusive with none | none
    · exact Or.inl (by rw [none]; rfl)
    · exact Or.inr (by rw [none]; rfl)
  · exact owned.alone
  · rintro (closed | idle)
    · exact (owned.free (by rw [closed]; rfl)).2
    · exact (owned.free (by rw [idle]; rfl)).2

namespace Transport

open Wiring

variable {transport : Transport} (onStatusChange : StatusHandler)

/-- A connection begins without socket or timer. -/
theorem owned_initial : Owned ({} : Transport).toWiring :=
  ⟨rfl, rfl, Or.inl rfl, rfl, fun _ => rfl, by simp⟩

/-- Without its socket, a connection that had one listens to nothing. -/
theorem detachSocket_toWiring (owned : Owned transport.toWiring) :
    transport.detachSocket.toWiring = { transport.toWiring with socket := none, listening := [] } := by
  have attached := owned.attached
  rw [detachSocket]
  cases hs : transport.socket with
  | none =>
      rw [hs] at attached
      show transport.toWiring = { transport.toWiring with socket := none, listening := [] }
      rw [← hs, show ([] : List Nat) = transport.listening from attached.symm]
  | some socket =>
      rw [hs] at attached
      show { transport.toWiring with
        listening := transport.listening.filter (· ≠ socket), socket := none } = _
      rw [show transport.listening = [socket] from attached]
      simp

/-- Nothing is left to fire once the timer is cleared. -/
theorem clearReconnectTimer_toWiring (timed : transport.pending = transport.reconnectTimer.toList) :
    transport.clearReconnectTimer.toWiring =
      { transport.toWiring with reconnectTimer := none, pending := [] } := by
  rw [clearReconnectTimer]
  cases ht : transport.reconnectTimer with
  | none =>
      rw [ht] at timed
      show transport.toWiring = { transport.toWiring with reconnectTimer := none, pending := [] }
      rw [← ht, show ([] : List Nat) = transport.pending from timed.symm]
  | some handle =>
      rw [ht] at timed
      show { transport.toWiring with
        pending := transport.pending.filter (· ≠ handle), reconnectTimer := none } = _
      rw [show transport.pending = [handle] from timed]
      simp

/-- A socket that is opened becomes the current one, with listeners of its own. -/
@[simp] theorem openSocket_toWiring (transport : Transport) :
    (transport.openSocket onStatusChange).toWiring =
      { transport.toWiring with
        currentStatus := if transport.currentStatus = .idle then .connecting else .reconnecting
        creations := transport.creations ++ [(transport.listening, transport.pending)]
        created := transport.created + 1
        socket := some transport.created
        listening := transport.listening ++ [transport.created] } := by
  simp [openSocket]

/-- A reconnect is scheduled unless the page has disconnected. -/
@[simp] theorem scheduleReconnect_toWiring (transport : Transport) :
    (transport.scheduleReconnect onStatusChange).toWiring =
      if transport.intentionalDisconnect then transport.toWiring
      else { transport.toWiring with
        currentStatus := .reconnecting
        reconnectAttempt := transport.reconnectAttempt + 1
        reconnectTimer := some transport.timersSet
        timersSet := transport.timersSet + 1
        pending := transport.pending ++ [transport.timersSet] } := by
  rw [scheduleReconnect]
  split <;> simp

/-- An open socket sets the attempts back to zero. -/
@[simp] theorem handleOpen_toWiring (reading : SocketReading) (transport : Transport) :
    (transport.handleOpen onStatusChange reading).toWiring =
      { transport.toWiring with reconnectAttempt := 0, currentStatus := .open } := by
  simp [handleOpen]

section Events

/-- A socket opened with nothing left is the only thing there is. -/
theorem openSocket_owned (listening : transport.listening = []) (pending : transport.pending = [])
    (timer : transport.reconnectTimer = none)
    (alone : ∀ creation ∈ transport.creations, creation = ([], [])) :
    Owned (transport.openSocket onStatusChange).toWiring := by
  rw [openSocket_toWiring]
  constructor
  · rw [listening]
    rfl
  · rw [pending, timer]
    rfl
  · exact Or.inr timer
  · split <;> rfl
  · exact fun _ => timer
  · intro creation hm
    rcases List.mem_append.mp hm with hm | hm
    · exact alone creation hm
    · rw [List.mem_singleton.mp hm, listening, pending]

/-- A connect opens a socket only where there is none. -/
theorem connect_owned (owned : Owned transport.toWiring) :
    Owned (transport.connect onStatusChange).toWiring := by
  cases hLive : transport.currentStatus.live with
  | true =>
      rw [connect_of_live hLive]
      exact owned
  | false =>
      obtain ⟨⟨_, timer⟩, listening, pending⟩ := owned.free hLive
      rw [connect_of_settled hLive]
      exact openSocket_owned _ listening pending timer owned.alone

/-- A timer that fires is the connection's own, and opens the next socket. -/
theorem timer_owned (owned : Owned transport.toWiring) {handle : Nat}
    (fires : handle ∈ transport.pending) :
    Owned (({ transport with
        pending := transport.pending.filter (· ≠ handle)
        reconnectTimer := none } : Transport).openSocket onStatusChange).toWiring := by
  have timed : transport.pending = [handle] ∧ transport.socket = none := by
    rw [owned.timed] at fires ⊢
    rw [Option.mem_toList] at fires
    rw [fires]
    refine ⟨rfl, ?_⟩
    rcases owned.exclusive with none | none
    · exact none
    · rw [fires] at none
      cases none
  apply openSocket_owned
  · show transport.listening = []
    rw [owned.attached, timed.2]
    rfl
  · show transport.pending.filter (· ≠ handle) = []
    rw [timed.1]
    simp
  · rfl
  · exact owned.alone

/-- The close of the attached socket ends a deliberate disconnect; any other
sets a timer. -/
theorem handleClose_toWiring (owned : Owned transport.toWiring) {socket : Nat}
    (attached : socket ∈ transport.listening) :
    (transport.handleClose onStatusChange).toWiring =
      if transport.intentionalDisconnect then
        { transport.toWiring with socket := none, listening := [], currentStatus := .closed }
      else
        { transport.toWiring with
          socket := none
          listening := []
          currentStatus := .reconnecting
          reconnectAttempt := transport.reconnectAttempt + 1
          reconnectTimer := some transport.timersSet
          timersSet := transport.timersSet + 1
          pending := [transport.timersSet] } := by
  have pending : transport.pending = [] := by
    rw [owned.attached, Option.mem_toList] at attached
    rw [owned.timed]
    rcases owned.exclusive with none | none
    · rw [attached] at none
      cases none
    · rw [none]
      rfl
  have detached := detachSocket_toWiring owned
  have same : transport.detachSocket.intentionalDisconnect = transport.intentionalDisconnect := by
    have h := congrArg Wiring.intentionalDisconnect detached
    exact h
  rw [handleClose, same]
  split
  · rw [setStatus_toWiring, detached]
  · next notDeliberate =>
      rw [scheduleReconnect_toWiring, same, if_neg notDeliberate, detached, pending]
      rfl

/-- A close lets its socket go before the next is scheduled. -/
theorem handleClose_owned (owned : Owned transport.toWiring) {socket : Nat}
    (attached : socket ∈ transport.listening) :
    Owned (transport.handleClose onStatusChange).toWiring := by
  rw [handleClose_toWiring _ owned attached]
  split
  · next deliberate =>
      have timer := owned.deliberate deliberate
      exact ⟨rfl, owned.timed, Or.inl rfl, by simp [ConnectionStatus.live, timer],
        owned.deliberate, owned.alone⟩
  · next notDeliberate =>
      exact ⟨rfl, rfl, Or.inl rfl, rfl, fun deliberate => absurd deliberate notDeliberate,
        owned.alone⟩

/-- A disconnect of a live connection stops its timer, and closes its socket
or, without one, the connection. -/
theorem disconnect_toWiring (owned : Owned transport.toWiring)
    (live : transport.currentStatus.live = true) :
    (transport.disconnect onStatusChange).toWiring =
      match transport.socket with
      | some socket =>
        { transport.toWiring with
          intentionalDisconnect := true
          reconnectTimer := none
          pending := []
          closing := transport.closing ++ [socket] }
      | none =>
        { transport.toWiring with
          intentionalDisconnect := true
          reconnectTimer := none
          pending := []
          currentStatus := .closed } := by
  have stopped : transport.stopped.toWiring = { transport.toWiring with
      intentionalDisconnect := true, reconnectTimer := none, pending := [] } :=
    clearReconnectTimer_toWiring owned.timed
  have hSocket : transport.stopped.socket = transport.socket := by
    have h := congrArg Wiring.socket stopped
    exact h
  rw [disconnect_of_live live, hSocket]
  cases transport.socket with
  | none => rw [setStatus_toWiring, stopped]
  | some socket =>
      show ({ transport.stopped.toWiring with
        closing := transport.stopped.closing ++ [socket] } : Wiring) = _
      rw [stopped]

/-- A disconnect lets the socket and the timer go. -/
theorem disconnect_owned (owned : Owned transport.toWiring) :
    Owned (transport.disconnect onStatusChange).toWiring := by
  cases hLive : transport.currentStatus.live with
  | false =>
      rw [disconnect_of_settled hLive]
      exact owned
  | true =>
      rw [disconnect_toWiring _ owned hLive]
      cases hs : transport.socket with
      | none =>
          exact ⟨owned.attached, rfl, Or.inr rfl, by simp [ConnectionStatus.live, hs], fun _ => rfl,
            owned.alone⟩
      | some socket =>
          exact ⟨owned.attached, rfl, Or.inr rfl, by simp [hLive, hs], fun _ => rfl, owned.alone⟩

/-- A socket that opens is the current one. -/
theorem handleOpen_owned (owned : Owned transport.toWiring) {socket : Nat}
    (attached : socket ∈ transport.listening) (reading : SocketReading) :
    Owned (transport.handleOpen onStatusChange reading).toWiring := by
  rw [owned.attached, Option.mem_toList] at attached
  rw [handleOpen_toWiring]
  exact ⟨owned.attached, owned.timed, owned.exclusive, by simp [ConnectionStatus.live, attached],
    owned.deliberate, owned.alone⟩

/-- Every event leaves a connection whose parts belong together. -/
theorem step_owned (owned : Owned transport.toWiring) (event : TransportEvent) :
    Owned (step transport event).toWiring := by
  cases event with
  | connect onStatusChange => exact connect_owned _ owned
  | disconnect onStatusChange => exact disconnect_owned _ owned
  | send message reading =>
      show Owned (transport.send message reading).toWiring
      rw [send_toWiring]
      exact owned
  | opened socket onStatusChange reading =>
      rw [step]
      split
      · next attached => exact handleOpen_owned _ owned attached reading
      · exact owned
  | message socket => exact owned
  | closed socket onStatusChange =>
      have reported : Owned ({ transport with
          closing := transport.closing.filter (· ≠ socket) } : Transport).toWiring :=
        { owned with }
      rw [step]
      split
      · next attached => exact handleClose_owned _ reported attached
      · exact reported
  | errored socket onStatusChange =>
      rw [step]
      split
      · next attached => exact handleClose_owned _ owned attached
      · exact owned
  | timer handle onStatusChange =>
      rw [step]
      split
      · next fires => exact timer_owned _ owned fires
      · exact owned

end Events

/-- In every run the parts of a connection belong together. -/
theorem run_owned (events : List TransportEvent) :
    Owned (Transition.run step ({} : Transport) events).toWiring :=
  Transition.invariant_run (P := fun transport : Transport => Owned transport.toWiring)
    (fun _ event owned => step_owned owned event) owned_initial events

/-- No timer is set, and what socket there is was told to close. -/
structure Halted (wiring : Wiring) : Prop where
  owned : Owned wiring
  timer : wiring.reconnectTimer = none
  deliberate : wiring.socket ≠ none → wiring.intentionalDisconnect = true

section Halted

/-- A disconnect halts the connection and creates nothing. -/
theorem disconnect_halted (owned : Owned transport.toWiring) :
    Halted (transport.disconnect onStatusChange).toWiring ∧
      (transport.disconnect onStatusChange).creations = transport.creations := by
  have after := disconnect_owned onStatusChange owned
  cases hLive : transport.currentStatus.live with
  | false =>
      rw [disconnect_of_settled hLive] at after ⊢
      obtain ⟨⟨socket, timer⟩, _⟩ := owned.free hLive
      exact ⟨⟨after, timer, fun attached => absurd socket attached⟩, rfl⟩
  | true =>
      have told := disconnect_toWiring onStatusChange owned hLive
      generalize transport.disconnect onStatusChange = rest at after told
      cases hs : transport.socket with
      | none =>
          rw [hs] at told
          exact ⟨⟨after, by rw [told], fun _ => by rw [told]⟩, by rw [told]⟩
      | some socket =>
          rw [hs] at told
          exact ⟨⟨after, by rw [told], fun _ => by rw [told]⟩, by rw [told]⟩

/-- A close after a disconnect schedules nothing. -/
theorem handleClose_halted (halted : Halted transport.toWiring) {socket : Nat}
    (attached : socket ∈ transport.listening) :
    Halted (transport.handleClose onStatusChange).toWiring ∧
      (transport.handleClose onStatusChange).creations = transport.creations := by
  have after := handleClose_owned onStatusChange halted.owned attached
  have deliberate : transport.intentionalDisconnect = true := by
    apply halted.deliberate
    rw [halted.owned.attached, Option.mem_toList] at attached
    rw [attached]
    simp
  have closed := handleClose_toWiring onStatusChange halted.owned attached
  rw [if_pos deliberate] at closed
  generalize transport.handleClose onStatusChange = rest at after closed
  exact ⟨⟨after, by rw [closed]; exact halted.timer, fun _ => by rw [closed]; exact deliberate⟩,
    by rw [closed]⟩

/-- A halted connection opens no socket before it is told to connect. -/
theorem step_halted (halted : Halted transport.toWiring) {event : TransportEvent}
    (notConnect : ∀ onStatusChange, event ≠ .connect onStatusChange) :
    Halted (step transport event).toWiring ∧
      (step transport event).creations = transport.creations := by
  cases event with
  | connect onStatusChange => exact absurd rfl (notConnect onStatusChange)
  | disconnect onStatusChange => exact disconnect_halted _ halted.owned
  | send message reading =>
      have same := send_toWiring message reading transport
      rw [step]
      refine ⟨by rw [same]; exact halted, ?_⟩
      have h := congrArg Wiring.creations same
      exact h
  | opened socket onStatusChange reading =>
      have opened := handleOpen_toWiring onStatusChange reading transport
      rw [step]
      split
      · next attached =>
          have after := handleOpen_owned onStatusChange halted.owned attached
            reading
          refine ⟨⟨after, ?_, ?_⟩, ?_⟩
          · rw [opened]
            exact halted.timer
          · rw [opened]
            exact halted.deliberate
          · have h := congrArg Wiring.creations opened
            exact h
      · exact ⟨halted, rfl⟩
  | message socket => exact ⟨halted, rfl⟩
  | closed socket onStatusChange =>
      have reported : Halted ({ transport with
          closing := transport.closing.filter (· ≠ socket) } : Transport).toWiring :=
        ⟨{ halted.owned with }, halted.timer, halted.deliberate⟩
      rw [step]
      split
      · next attached => exact handleClose_halted _ reported attached
      · exact ⟨reported, rfl⟩
  | errored socket onStatusChange =>
      rw [step]
      split
      · next attached => exact handleClose_halted _ halted attached
      · exact ⟨halted, rfl⟩
  | timer handle onStatusChange =>
      have nothing : transport.pending = [] := by
        rw [halted.owned.timed, halted.timer]
        rfl
      rw [step, if_neg (by rw [nothing]; simp)]
      exact ⟨halted, rfl⟩

/-- After a disconnect no socket is created before the next connect. -/
theorem run_halted (halted : Halted transport.toWiring) {events : List TransportEvent}
    (notConnect : ∀ event ∈ events, ∀ onStatusChange, event ≠ .connect onStatusChange) :
    (Transition.run step transport events).creations = transport.creations := by
  have both := Transition.invariant_run_mem
    (P := fun later : Transport => Halted later.toWiring ∧ later.creations = transport.creations)
    ⟨halted, rfl⟩ fun later event hm both => by
      obtain ⟨still, same⟩ := step_halted both.1 (notConnect event hm)
      exact (⟨still, same.trans both.2⟩ : Halted (step later event).toWiring ∧ _)
  exact both.2

end Halted

/-- In every state a run reaches, the connection owns at most one socket, and
from a disconnect on it creates none until it is told to connect. -/
theorem run_ownsOneSocket (events : List TransportEvent) :
    OwnsOneSocket (Transition.run step ({} : Transport) events).toWiring ∧
      ∀ onStatusChange later, (∀ event ∈ later, ∀ handler, event ≠ .connect handler) →
        (Transition.run step ({} : Transport)
            (events ++ .disconnect onStatusChange :: later)).creations =
          (Transition.run step ({} : Transport) events).creations := by
  have owned := run_owned events
  refine ⟨owned.ownsOneSocket, ?_⟩
  intro onStatusChange later notConnect
  obtain ⟨halted, same⟩ := disconnect_halted onStatusChange owned
  rw [Transition.run_append, Transition.run_cons]
  exact (run_halted halted notConnect).trans same

end Transport

end Copresence
