import Copresence.Properties.Ownership

/-! Whether the last of the `connect` and `disconnect` calls decides where a
connection ends up. A disconnect is completed by a later event, and a connect
that comes before it is ignored. -/
namespace Copresence

/-- The two calls by which a page says what it wants. -/
inductive IntentCall where
  | connect
  | disconnect
deriving DecidableEq, Repr

/-- A connection with the last of these calls; `ignored` says that it was a
connect which met a connection still on its way out. -/
structure Intended where
  transport : Transport := {}
  lastCall : Option IntentCall := none
  ignored : Bool := false

namespace Intended

open Wiring

def step (intended : Intended) (event : TransportEvent) : Intended where
  transport := intended.transport.step event
  lastCall := match event with
    | .connect _ => some .connect
    | .disconnect _ => some .disconnect
    | _ => intended.lastCall
  ignored := match event with
    | .connect _ => intended.transport.currentStatus.live && intended.transport.intentionalDisconnect
    | .disconnect _ => false
    | _ => intended.ignored

/-- A page that wanted to connect last, with no close still to be reported, is
connected or on its way. -/
def LastIntentWins (intended : Intended) : Prop :=
  intended.lastCall = some .connect → intended.transport.closing = [] →
    intended.transport.currentStatus.live = true ∧
      (intended.transport.socket ≠ none ∨ intended.transport.reconnectTimer ≠ none)

/-- The last close that is still to be reported is not reported while the last
call is a connect that was ignored. -/
def Heeded (intended : Intended) (event : TransportEvent) : Prop :=
  intended.ignored = true → ∀ socket onStatusChange, event = .closed socket onStatusChange →
    intended.transport.closing.filter (· ≠ socket) ≠ []

/-- `halfClosed`: a live connection on its way out has its socket, which was
told to close. -/
structure Tracked (wiring : Wiring) (lastCall : Option IntentCall) (ignored : Bool) : Prop where
  owned : Owned wiring
  halfClosed : wiring.currentStatus.live = true → wiring.intentionalDisconnect = true →
    ∃ socket ∈ wiring.closing, wiring.socket = some socket
  wanted : lastCall = some .connect → ignored = false →
    wiring.currentStatus.live = true ∧ wiring.intentionalDisconnect = false
  unwanted : ignored = true → lastCall = some .connect ∧
    (wiring.currentStatus.live = true → wiring.intentionalDisconnect = true)

section Events

variable {transport : Transport} {lastCall : Option IntentCall} {ignored : Bool}
  {onStatusChange : StatusHandler}

/-- A connect is heeded unless the connection is still on its way out. -/
theorem Tracked.connect (tracked : Tracked transport.toWiring lastCall ignored) :
    Tracked (transport.connect onStatusChange).toWiring (some .connect)
      (transport.currentStatus.live && transport.intentionalDisconnect) := by
  have owned := Transport.connect_owned onStatusChange tracked.owned
  cases hLive : transport.currentStatus.live with
  | true =>
      rw [Transport.connect_of_live hLive] at owned ⊢
      rw [Bool.true_and]
      exact ⟨owned, tracked.halfClosed, fun _ heeded => ⟨hLive, heeded⟩,
        fun ignored => ⟨rfl, fun _ => ignored⟩⟩
  | false =>
      rw [Transport.connect_of_settled hLive] at owned ⊢
      rw [Transport.openSocket_toWiring] at owned ⊢
      rw [Bool.false_and]
      constructor
      · exact owned
      · intro _ deliberate
        cases deliberate
      · intro _ _
        refine ⟨?_, rfl⟩
        show ConnectionStatus.live (if _ then _ else _) = true
        split <;> rfl
      · intro ignored
        cases ignored

/-- A disconnect is never ignored. -/
theorem Tracked.disconnect (tracked : Tracked transport.toWiring lastCall ignored) :
    Tracked (transport.disconnect onStatusChange).toWiring (some .disconnect) false := by
  have owned := Transport.disconnect_owned onStatusChange tracked.owned
  refine ⟨owned, ?_, fun called => (by cases called), fun ignored => (by cases ignored)⟩
  cases hLive : transport.currentStatus.live with
  | false =>
      rw [Transport.disconnect_of_settled hLive]
      exact tracked.halfClosed
  | true =>
      rw [Transport.disconnect_toWiring _ tracked.owned hLive]
      cases hs : transport.socket with
      | none =>
          intro live
          cases live
      | some socket =>
          intro _ _
          exact ⟨socket, List.mem_append_right _ (List.mem_singleton_self _), hs⟩

/-- A transport with a socket attached is live. -/
theorem Tracked.live (tracked : Tracked transport.toWiring lastCall ignored) {socket : Nat}
    (attached : socket ∈ transport.listening) : transport.currentStatus.live = true := by
  rw [tracked.owned.attached, Option.mem_toList] at attached
  rw [tracked.owned.active, attached]
  rfl

/-- An opened socket changes no intent. -/
theorem Tracked.handleOpen (tracked : Tracked transport.toWiring lastCall ignored) {socket : Nat}
    (attached : socket ∈ transport.listening) (reading : SocketReading) :
    Tracked (transport.handleOpen onStatusChange reading).toWiring lastCall ignored := by
  have owned := Transport.handleOpen_owned onStatusChange tracked.owned attached
    reading
  have live := tracked.live attached
  rw [Transport.handleOpen_toWiring] at owned ⊢
  exact ⟨owned, fun _ => tracked.halfClosed live,
    fun called heeded => ⟨rfl, (tracked.wanted called heeded).2⟩,
    fun ignored => ⟨(tracked.unwanted ignored).1, fun _ => (tracked.unwanted ignored).2 live⟩⟩

/-- Closing the attached socket, whatever else was still to be reported. -/
theorem Tracked.handleClose (tracked : Tracked transport.toWiring lastCall ignored) {socket : Nat}
    (attached : socket ∈ transport.listening) (closing : List Nat) :
    Tracked (({ transport with closing } : Transport).handleClose onStatusChange).toWiring lastCall
      ignored := by
  have reported : Owned ({ transport with closing } : Transport).toWiring := { tracked.owned with }
  have owned := Transport.handleClose_owned onStatusChange reported attached
  have live := tracked.live attached
  rw [Transport.handleClose_toWiring _ reported attached] at owned ⊢
  by_cases deliberate : transport.intentionalDisconnect = true
  · rw [if_pos deliberate] at owned ⊢
    constructor
    · exact owned
    · intro live
      cases live
    · intro called heeded
      rw [(tracked.wanted called heeded).2] at deliberate
      cases deliberate
    · intro ignored
      exact ⟨(tracked.unwanted ignored).1, fun live => nomatch live⟩
  · rw [if_neg deliberate] at owned ⊢
    constructor
    · exact owned
    · intro _ still
      exact absurd still deliberate
    · intro called heeded
      exact ⟨rfl, (tracked.wanted called heeded).2⟩
    · intro ignored
      exact absurd ((tracked.unwanted ignored).2 live) deliberate

/-- A timer opens a socket and changes no intent. -/
theorem Tracked.timer (tracked : Tracked transport.toWiring lastCall ignored) {handle : Nat}
    (fires : handle ∈ transport.pending) :
    Tracked (({ transport with
        pending := transport.pending.filter (· ≠ handle)
        reconnectTimer := none } : Transport).openSocket onStatusChange).toWiring lastCall
      ignored := by
  have owned := Transport.timer_owned onStatusChange tracked.owned fires
  have timed : transport.reconnectTimer = some handle := by
    rw [tracked.owned.timed, Option.mem_toList] at fires
    exact fires
  have live : transport.currentStatus.live = true := by
    rw [tracked.owned.active, timed]
    simp
  have notDeliberate : ¬ transport.intentionalDisconnect = true := by
    intro deliberate
    rw [tracked.owned.deliberate deliberate] at timed
    cases timed
  rw [Transport.openSocket_toWiring] at owned ⊢
  constructor
  · exact owned
  · intro _ deliberate
    exact absurd deliberate notDeliberate
  · intro called heeded
    refine ⟨?_, (tracked.wanted called heeded).2⟩
    show ConnectionStatus.live (if _ then _ else _) = true
    split <;> rfl
  · intro ignored
    exact absurd ((tracked.unwanted ignored).2 live) notDeliberate

/-- The report of a close that is not the attached socket's changes nothing else. -/
theorem Tracked.reported (tracked : Tracked transport.toWiring lastCall ignored) {socket : Nat}
    (other : socket ∉ transport.listening) :
    Tracked { transport.toWiring with closing := transport.closing.filter (· ≠ socket) } lastCall
      ignored := by
  refine ⟨{ tracked.owned with }, ?_, tracked.wanted, tracked.unwanted⟩
  intro live deliberate
  obtain ⟨closing, hm, attached⟩ := tracked.halfClosed live deliberate
  refine ⟨closing, List.mem_filter.mpr ⟨hm, ?_⟩, attached⟩
  rw [decide_eq_true_iff]
  intro same
  rw [tracked.owned.attached, attached, same] at other
  exact other (List.mem_singleton_self _)

end Events

/-- An ignored connect waits for a close that is still to be reported. -/
structure Waiting (intended : Intended) : Prop where
  tracked : Tracked intended.transport.toWiring intended.lastCall intended.ignored
  waits : intended.ignored = true → intended.transport.closing ≠ []

theorem waiting_initial : Waiting {} := by
  refine ⟨⟨Transport.owned_initial, ?_, ?_, ?_⟩, ?_⟩
  · intro live
    cases live
  · intro called
    cases called
  · intro ignored
    cases ignored
  · intro ignored
    cases ignored

/-- With no close still to be reported no connect was ignored, so the last call has won. -/
theorem Waiting.lastIntentWins {intended : Intended} (waiting : Waiting intended) :
    LastIntentWins intended := by
  intro called reported
  have heeded : intended.ignored = false := by
    cases hi : intended.ignored with
    | false => rfl
    | true => exact absurd reported (waiting.waits hi)
  have live := (waiting.tracked.wanted called heeded).1
  refine ⟨live, ?_⟩
  have active := waiting.tracked.owned.active
  rw [live] at active
  rcases Bool.or_eq_true_iff.mp active.symm with attached | timed
  · exact Or.inl (Option.isSome_iff_ne_none.mp attached)
  · exact Or.inr (Option.isSome_iff_ne_none.mp timed)

/-- Every event keeps track of the last call and of whether it was ignored. -/
theorem Tracked.step {intended : Intended}
    (tracked : Tracked intended.transport.toWiring intended.lastCall intended.ignored)
    (event : TransportEvent) :
    Tracked (intended.step event).transport.toWiring (intended.step event).lastCall
      (intended.step event).ignored := by
  cases event with
  | connect onStatusChange => exact tracked.connect
  | disconnect onStatusChange => exact tracked.disconnect
  | send message reading =>
      have same := Transport.send_toWiring message reading intended.transport
      show Tracked (intended.transport.send message reading).toWiring _ _
      rw [same]
      exact tracked
  | opened socket onStatusChange reading =>
      show Tracked (if socket ∈ intended.transport.listening then _ else _ : Transport).toWiring _ _
      split
      · next attached => exact tracked.handleOpen attached reading
      · exact tracked
  | message socket => exact tracked
  | closed socket onStatusChange =>
      show Tracked (if socket ∈ intended.transport.listening then _ else _ : Transport).toWiring _ _
      split
      · next attached => exact tracked.handleClose attached _
      · next other => exact tracked.reported other
  | errored socket onStatusChange =>
      show Tracked (if socket ∈ intended.transport.listening then _ else _ : Transport).toWiring _ _
      split
      · next attached => exact tracked.handleClose attached intended.transport.closing
      · exact tracked
  | timer handle onStatusChange =>
      show Tracked (if handle ∈ intended.transport.pending then _ else _ : Transport).toWiring _ _
      split
      · next fires => exact tracked.timer fires
      · exact tracked

/-- A close asks for no other. -/
theorem handleClose_closing {transport : Transport} (owned : Owned transport.toWiring)
    {socket : Nat} (attached : socket ∈ transport.listening) (onStatusChange : StatusHandler) :
    (transport.handleClose onStatusChange).closing = transport.closing := by
  have told := Transport.handleClose_toWiring onStatusChange owned attached
  generalize transport.handleClose onStatusChange = rest at told
  rw [told]
  split <;> rfl

/-- Only a disconnect and the report of a close change what is still to be
reported. -/
theorem step_closing {intended : Intended}
    (owned : Owned intended.transport.toWiring) (event : TransportEvent) :
    (∀ onStatusChange, event ≠ .disconnect onStatusChange) →
      (intended.step event).transport.closing =
        match event with
        | .closed socket _ => intended.transport.closing.filter (· ≠ socket)
        | _ => intended.transport.closing := by
  intro notDisconnect
  cases event with
  | connect onStatusChange =>
      show (intended.transport.connect onStatusChange).closing = _
      cases hLive : intended.transport.currentStatus.live with
      | true => rw [Transport.connect_of_live hLive]
      | false =>
          have opened := Transport.openSocket_toWiring onStatusChange ({ intended.transport with
            intentionalDisconnect := false, reconnectAttempt := 0 } : Transport)
          rw [Transport.connect_of_settled hLive]
          have h := congrArg Wiring.closing opened
          exact h
  | disconnect onStatusChange => exact absurd rfl (notDisconnect onStatusChange)
  | send message reading =>
      have h := congrArg Wiring.closing
        (Transport.send_toWiring message reading intended.transport)
      exact h
  | opened socket onStatusChange reading =>
      show (if socket ∈ intended.transport.listening then _ else _ : Transport).closing = _
      split
      · have h := congrArg Wiring.closing
          (Transport.handleOpen_toWiring onStatusChange reading intended.transport)
        exact h
      · rfl
  | message socket => rfl
  | closed socket onStatusChange =>
      show (if socket ∈ intended.transport.listening then _ else _ : Transport).closing = _
      split
      · next attached =>
          have reported : Owned ({ intended.transport with
              closing := intended.transport.closing.filter (· ≠ socket) } : Transport).toWiring :=
            { owned with }
          exact handleClose_closing reported attached onStatusChange
      · rfl
  | errored socket onStatusChange =>
      show (if socket ∈ intended.transport.listening then _ else _ : Transport).closing = _
      split
      · next attached => exact handleClose_closing owned attached onStatusChange
      · rfl
  | timer handle onStatusChange =>
      show (if handle ∈ intended.transport.pending then _ else _ : Transport).closing = _
      split
      · have h := congrArg Wiring.closing (Transport.openSocket_toWiring onStatusChange
          ({ intended.transport with
            pending := intended.transport.pending.filter (· ≠ handle)
            reconnectTimer := none } : Transport))
        exact h
      · rfl

/-- The last report of a close ends a connection whose connect was ignored. -/
theorem Waiting.heeded {intended : Intended} (waiting : Waiting intended) {event : TransportEvent}
    (wins : LastIntentWins (intended.step event)) : Heeded intended event := by
  rintro ignored socket onStatusChange rfl last
  obtain ⟨called, deliberate⟩ := waiting.tracked.unwanted ignored
  have closing := step_closing waiting.tracked.owned (.closed socket onStatusChange)
    (by intro handler h; cases h)
  obtain ⟨live, _⟩ := wins called (closing.trans last)
  have stepped : (intended.step (.closed socket onStatusChange)).transport =
      if socket ∈ intended.transport.listening then
        ({ intended.transport with
          closing := intended.transport.closing.filter (· ≠ socket) } :
            Transport).handleClose onStatusChange
      else
        { intended.transport with
          closing := intended.transport.closing.filter (· ≠ socket) } := rfl
  have owned := waiting.tracked.owned
  cases hLive : intended.transport.currentStatus.live with
  | true =>
      obtain ⟨own, hm, attached⟩ := waiting.tracked.halfClosed hLive (deliberate hLive)
      have same : own = socket := by
        by_contra other
        have kept : own ∈ intended.transport.closing.filter (· ≠ socket) :=
          List.mem_filter.mpr ⟨hm, by simpa using other⟩
        rw [last] at kept
        cases kept
      have listens : socket ∈ intended.transport.listening := by
        rw [owned.attached, attached, same]
        exact List.mem_singleton_self _
      have told := @Transport.handleClose_toWiring { intended.transport with
          closing := intended.transport.closing.filter (· ≠ socket) } onStatusChange { owned with }
            socket listens
      rw [if_pos (deliberate hLive)] at told
      rw [stepped, if_pos listens] at live
      have closed := congrArg (fun wiring : Wiring => wiring.currentStatus.live) told
      exact absurd (closed.symm.trans live) (by simp [ConnectionStatus.live])
  | false =>
      have nothing : socket ∉ intended.transport.listening := by
        rw [(owned.free hLive).2.1]
        simp
      rw [stepped, if_neg nothing] at live
      exact absurd (hLive.symm.trans live) (by simp)

/-- A heeded event leaves an ignored connect waiting for a close. -/
theorem Waiting.step {intended : Intended} (waiting : Waiting intended) {event : TransportEvent}
    (heeded : Heeded intended event) : Waiting (intended.step event) := by
  refine ⟨waiting.tracked.step event, ?_⟩
  intro ignored
  cases event with
  | connect onStatusChange =>
      have both := Bool.and_eq_true_iff.mp ignored
      obtain ⟨socket, hm, _⟩ := waiting.tracked.halfClosed both.1 both.2
      show (intended.transport.connect onStatusChange).closing ≠ []
      rw [Transport.connect_of_live both.1]
      exact List.ne_nil_of_mem hm
  | disconnect onStatusChange => cases ignored
  | closed socket onStatusChange =>
      rw [step_closing waiting.tracked.owned _ (by intro handler h; cases h)]
      exact heeded ignored socket onStatusChange rfl
  | _ =>
      rw [step_closing waiting.tracked.owned _ (by intro handler h; cases h)]
      exact waiting.waits ignored

/-- In every run, the last intent wins in every state exactly when no step
reports the last close while the last call is a connect that was ignored. -/
theorem lastIntentWins_always_iff (events : List TransportEvent) :
    Transition.Always step LastIntentWins {} events ↔ Transition.Along step Heeded {} events :=
  Transition.always_iff_along_of_kept (fun _ waiting => waiting.lastIntentWins)
    (fun _ _ (_ : True) waiting wins => waiting.heeded wins)
    (fun _ _ _ waiting heeded => waiting.step heeded) waiting_initial fun _ _ => trivial

/-- A connect between a disconnect and the close it causes. -/
def hastyReconnect : List TransportEvent :=
  [.connect fun _ => [], .opened 0 (fun _ => []) ⟨true, fun _ => 0⟩, .disconnect fun _ => [],
    .connect fun _ => [], .closed 0 fun _ => []]

/-- It leaves the connection closed. -/
theorem hastyReconnect_closed : ¬ Transition.Always step LastIntentWins {} hastyReconnect := by
  intro always
  have wins := Transition.always_iff_prefix.mp always hastyReconnect (List.prefix_refl _)
  have live := (wins (by decide) (by decide)).1
  exact absurd live (by decide)

end Intended

end Copresence
