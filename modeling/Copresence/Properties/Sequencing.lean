import Copresence.Client.Sdk
import Copresence.Server.Run

/-! In which order one socket gets its numbers. A number is drawn when a
message is built, but an audit message is sent only when storage is done with
it, and a lossy one may take an older place in the queue. -/
namespace Copresence

/-- Each message has a higher number than the one before. -/
def InOrder (messages : List InboundMessage) : Prop :=
  (messages.map InboundMessage.seq).Pairwise (· < ·)

instance (messages : List InboundMessage) : Decidable (InOrder messages) :=
  inferInstanceAs (Decidable (List.Pairwise _ _))

/-- A message at the end must have a larger number than each before it. -/
theorem inOrder_append_one {messages : List InboundMessage} {message : InboundMessage} :
    InOrder (messages ++ [message]) ↔
      InOrder messages ∧ ∀ earlier ∈ messages, earlier.seq < message.seq := by
  simp [InOrder, List.pairwise_append]

def SdkEvent.bufferedAmount : SdkEvent → Nat → Int
  | .opened _ _ _ bufferedAmount => bufferedAmount
  | .pointer _ _ _ bufferedAmount => bufferedAmount
  | .scroll _ _ _ bufferedAmount => bufferedAmount
  | .ping _ bufferedAmount => bufferedAmount
  | .visibilityChange _ _ _ _ _ bufferedAmount => bufferedAmount
  | .added _ bufferedAmount => bufferedAmount
  | .disconnect _ bufferedAmount => bufferedAmount
  | _ => fun _ => 0

def SdkEvent.Unpressured (event : SdkEvent) : Prop :=
  ClientConnection.Unpressured event.bufferedAmount

namespace Page

/-- The counter has not gone back, and nothing emitted is ahead of it. -/
def Draws (page : Page) (emitted : Page × List AuditMessage) : Prop :=
  page.wire.seq ≤ emitted.1.wire.seq ∧ ∀ message ∈ emitted.2, message.seq ≤ emitted.1.wire.seq

variable (page : Page) (now : Int)

theorem draws_nothing : page.Draws (page, []) := ⟨Int.le_refl _, by simp⟩

/-- The start of a session draws one number. -/
theorem draws_openSession (eventId : EventId) : page.Draws (page.openSession now eventId) := by
  rw [openSession]
  split
  · exact page.draws_nothing
  · refine ⟨Int.le_of_lt (Int.lt_succ _), ?_⟩
    intro message hm
    rw [List.mem_singleton.mp hm]
    exact Int.le_refl _

/-- The end of a session draws one. -/
theorem draws_closeSession (eventId : EventId) (reason : EndReason) :
    page.Draws (page.closeSession now eventId reason) := by
  rw [closeSession]
  split
  · refine ⟨Int.le_of_lt (Int.lt_succ _), ?_⟩
    intro message hm
    rw [List.mem_singleton.mp hm]
    exact Int.le_refl _
  · exact page.draws_nothing

/-- A change of visibility draws one, and one more for the session it ends or starts. -/
theorem draws_onVisibilityChange (changeId sessionId : EventId) (state : VisibilityState) :
    page.Draws (page.onVisibilityChange now changeId sessionId state) := by
  rw [onVisibilityChange]
  split
  · exact page.draws_nothing
  · -- the change takes the next number, and the session's event, if any, the one after
    have after : ∀ (noted : Page) (emitted : Page × List AuditMessage) (change : AuditMessage),
        noted.wire.seq = page.wire.seq + 1 → change.seq = page.wire.seq + 1 →
        noted.Draws emitted → page.Draws (emitted.1, change :: emitted.2) := by
      intro noted emitted change hNoted hChange ⟨grown, drawn⟩
      rw [hNoted] at grown
      refine ⟨by show page.wire.seq ≤ emitted.1.wire.seq; omega, ?_⟩
      intro message hm
      rcases List.mem_cons.mp hm with rfl | hm
      · show message.seq ≤ emitted.1.wire.seq
        omega
      · exact drawn message hm
    cases state with
    | hidden => exact after _ _ _ rfl rfl (draws_closeSession _ now sessionId .navigate)
    | visible => exact after _ _ _ rfl rfl (draws_openSession _ now sessionId)

/-- A page that starts visible draws one number. -/
theorem draws_start (eventId : EventId) (state : VisibilityState) :
    page.Draws (page.start now eventId state) := by
  unfold start
  cases state with
  | visible => exact draws_openSession { page with lastVisibilityState := _ } now eventId
  | hidden => exact ⟨Int.le_refl _, by simp⟩

end Page

namespace Sdk

/-- No number is ahead of the counter, an open socket leaves nothing queued
and one that is not open yet has been handed nothing. -/
structure Numbered (sdk : Sdk) : Prop where
  handed : ∀ message ∈ sdk.connection.handed, message.seq ≤ sdk.page.wire.seq
  queued : ∀ message ∈ sdk.connection.queue.items, message.seq ≤ sdk.page.wire.seq
  adding : ∀ message ∈ sdk.adding, message.seq ≤ sdk.page.wire.seq
  drained : sdk.connection.socket = some .open → sdk.connection.queue.items = []
  fresh : sdk.connection.socket = some .connecting → sdk.connection.handed = []

/-- A number that is drawn and never sent only widens the gap to the next. -/
theorem Numbered.turn {sdk : Sdk} (numbered : sdk.Numbered) {page : Page}
    (grown : sdk.page.wire.seq ≤ page.wire.seq) : { sdk with page }.Numbered where
  handed := fun message hm => Int.le_trans (numbered.handed message hm) grown
  queued := fun message hm => Int.le_trans (numbered.queued message hm) grown
  adding := fun message hm => Int.le_trans (numbered.adding message hm) grown
  drained := numbered.drained
  fresh := numbered.fresh

/-- Reports that wait for the storage have numbers drawn already. -/
theorem Numbered.emitAll {sdk : Sdk} (numbered : sdk.Numbered)
    {emitted : Page × List AuditMessage} (draws : sdk.page.Draws emitted) :
    (sdk.emitAll emitted).Numbered := by
  refine { numbered.turn draws.1 with adding := ?_ }
  intro message hm
  rcases List.mem_append.mp hm with hm | hm
  · exact Int.le_trans (numbered.adding message hm) draws.1
  · exact draws.2 message hm

/-- The connection moved without sending: its socket is gone, new or about to
close. -/
structure Silent (before after : ClientConnection) : Prop where
  notOpen : after.socket ≠ some .open
  queue : after.queue = before.queue
  handed : after.handed = [] ∨
    after.handed = before.handed ∧ after.socket ≠ some .connecting

/-- Opening a socket hands nothing to any. -/
theorem silent_openSocket {before connection : ClientConnection}
    (same : connection.queue = before.queue) : Silent before connection.openSocket :=
  ⟨by simp [ClientConnection.openSocket], same, Or.inl rfl⟩

/-- A call to connect hands on nothing, whether it opens a socket or not. -/
theorem silent_connect (connection : ClientConnection) :
    connection.connect = connection ∨ Silent connection connection.connect := by
  rw [ClientConnection.connect]
  split
  · exact Or.inl rfl
  · exact Or.inl rfl
  · exact Or.inl rfl
  · exact Or.inr (silent_openSocket rfl)
  · exact Or.inr (silent_openSocket rfl)

/-- A retry hands on nothing. -/
theorem silent_retry (connection : ClientConnection) :
    connection.retry = connection ∨ Silent connection connection.retry := by
  rw [ClientConnection.retry]
  split
  · exact Or.inr (silent_openSocket rfl)
  · exact Or.inl rfl

/-- A socket that begins to close is handed nothing. -/
theorem silent_closing (connection : ClientConnection) :
    connection.closing = connection ∨ Silent connection connection.closing := by
  rw [ClientConnection.closing]
  split
  · exact Or.inl rfl
  · exact Or.inr ⟨by simp, rfl, Or.inr ⟨rfl, by simp⟩⟩

/-- A socket that has closed is handed nothing. -/
theorem silent_handleClose (connection : ClientConnection) :
    connection.handleClose = connection ∨ Silent connection connection.handleClose := by
  rw [ClientConnection.handleClose]
  split
  · exact Or.inl rfl
  · exact Or.inr ⟨by simp, rfl, Or.inr ⟨rfl, by simp⟩⟩

/-- A call to disconnect hands on nothing. -/
theorem silent_disconnect (connection : ClientConnection) :
    connection.disconnect = connection ∨ Silent connection connection.disconnect := by
  rw [ClientConnection.disconnect]
  split
  · exact Or.inl rfl
  · exact Or.inl rfl
  · split
    · exact Or.inr ⟨by simp, rfl, Or.inr ⟨rfl, by simp⟩⟩
    · next gone =>
        exact Or.inr ⟨by simp [gone], rfl, Or.inr ⟨rfl, by simp [gone]⟩⟩

/-- What hands on nothing keeps the numbers below the last one drawn. -/
theorem Numbered.silent {sdk after : Sdk} (numbered : sdk.Numbered) (page : after.page = sdk.page)
    (adding : after.adding = sdk.adding)
    (moved : after.connection = sdk.connection ∨ Silent sdk.connection after.connection) :
    after.Numbered := by
  rcases moved with same | silent
  · refine ⟨?_, ?_, ?_, ?_, ?_⟩
    · rw [same, page]
      exact numbered.handed
    · rw [same, page]
      exact numbered.queued
    · rw [adding, page]
      exact numbered.adding
    · rw [same]
      exact numbered.drained
    · rw [same]
      exact numbered.fresh
  · refine ⟨?_, ?_, ?_, fun isOpen => absurd isOpen silent.notOpen, ?_⟩
    · intro message hm
      rcases silent.handed with none | ⟨old, _⟩
      · rw [none] at hm
        cases hm
      · rw [old] at hm
        rw [page]
        exact numbered.handed message hm
    · rw [silent.queue, page]
      exact numbered.queued
    · rw [adding, page]
      exact numbered.adding
    · intro connecting
      rcases silent.handed with none | ⟨_, other⟩
      · exact none
      · exact absurd connecting other

/-- What hands on nothing keeps the order of what was handed on. -/
theorem inOrder_silent {before after : ClientConnection}
    (moved : after = before ∨ Silent before after) (ordered : InOrder before.handed) :
    InOrder after.handed := by
  rcases moved with rfl | silent
  · exact ordered
  · rcases silent.handed with none | ⟨old, _⟩
    · rw [none]
      exact List.Pairwise.nil
    · rw [old]
      exact ordered

/-- A message just built carries the number just drawn. -/
def JustBuilt (sdk : Sdk) (built : WireContext × InboundMessage) : Prop :=
  built.1.seq = sdk.page.wire.seq + 1 ∧ built.2.seq = sdk.page.wire.seq + 1

section Sending

variable {sdk : Sdk} {bufferedAmount : Nat → Int} (numbered : sdk.Numbered)
  (calm : ClientConnection.Unpressured bufferedAmount)

include numbered calm

/-- A message whose number is drawn keeps all numbers below the last. -/
theorem Numbered.send (message : InboundMessage) (drawn : message.seq ≤ sdk.page.wire.seq) :
    { sdk with connection := sdk.connection.send bufferedAmount message }.Numbered := by
  by_cases isOpen : sdk.connection.socket = some .open
  · rw [ClientConnection.send_open calm isOpen (numbered.drained isOpen) message]
    refine { numbered with handed := ?_, queued := ?_, drained := fun _ => rfl, fresh := ?_ }
    · intro other ho
      rcases List.mem_append.mp ho with ho | ho
      · exact numbered.handed other ho
      · rw [List.mem_singleton.mp ho]
        exact drawn
    · intro other ho
      cases ho
    · intro connecting
      exact absurd (isOpen.symm.trans connecting) (by simp)
  · rw [ClientConnection.send_not_open bufferedAmount isOpen message]
    refine { numbered with queued := ?_, drained := fun h => absurd h isOpen }
    intro other ho
    rcases OutboundQueue.mem_enqueue ho with rfl | ho
    · exact drawn
    · exact numbered.queued other ho

/-- Sending keeps the order where the socket is not open, and where what it
was handed so far is older. -/
theorem inOrder_send_iff (message : InboundMessage) :
    InOrder (sdk.connection.send bufferedAmount message).handed ↔
      InOrder sdk.connection.handed ∧ (sdk.connection.socket = some .open →
        ∀ earlier ∈ sdk.connection.handed, earlier.seq < message.seq) := by
  by_cases isOpen : sdk.connection.socket = some .open
  · rw [ClientConnection.send_open calm isOpen (numbered.drained isOpen) message]
    simp only [inOrder_append_one, isOpen, true_implies]
  · rw [ClientConnection.send_not_open bufferedAmount isOpen message]
    simp only [isOpen, false_implies, and_true]

variable {built : WireContext × InboundMessage} (justBuilt : sdk.JustBuilt built)

include justBuilt

/-- A message that is built draws a number of its own, which is then the last. -/
theorem Numbered.sendBuilt : (sdk.sendBuilt bufferedAmount built).Numbered := by
  obtain ⟨hWire, hSeq⟩ := justBuilt
  have turned : { sdk with page := { sdk.page with wire := built.1 } }.Numbered :=
    numbered.turn (by show _ ≤ built.1.seq; omega)
  exact turned.send calm built.2 (by show _ ≤ built.1.seq; omega)

/-- It comes after everything handed over so far. -/
theorem inOrder_sendBuilt (ordered : InOrder sdk.connection.handed) :
    InOrder (sdk.sendBuilt bufferedAmount built).connection.handed := by
  apply (inOrder_send_iff numbered calm built.2).mpr ⟨ordered, _⟩
  intro _ earlier he
  have old := numbered.handed earlier he
  have new := justBuilt.2
  omega

variable (on : Prop) [Decidable on]

/-- A message that is built only sometimes keeps all numbers below the last, too. -/
theorem Numbered.sendBuilt_if :
    (if on then sdk.sendBuilt bufferedAmount built else sdk).Numbered := by
  split
  · exact numbered.sendBuilt calm justBuilt
  · exact numbered

/-- A message built now comes after all before, if it is built. -/
theorem inOrder_sendBuilt_if (ordered : InOrder sdk.connection.handed) :
    InOrder (if on then sdk.sendBuilt bufferedAmount built else sdk).connection.handed := by
  split
  · exact inOrder_sendBuilt numbered calm justBuilt ordered
  · exact ordered

end Sending

/-- The message whose storage is done goes out on an open socket before any
frame with a higher number has; and the queue a new socket gets is in order. -/
def InTurn (sdk : Sdk) : SdkEvent → Prop
  | .opened _ _ _ _ =>
    sdk.connection.socket = some .connecting → InOrder sdk.connection.queue.items
  | .added index _ =>
    ∀ message ∈ sdk.adding[index]?, sdk.connection.status = .open →
      sdk.connection.socket = some .open →
        ∀ earlier ∈ sdk.connection.handed, earlier.seq < message.seq
  | _ => True

instance (sdk : Sdk) : DecidablePred sdk.InTurn := by
  intro event
  unfold InTurn
  split <;> infer_instance

section Step

variable {sdk : Sdk} (numbered : sdk.Numbered)

/-- A socket that opens gets the queue, and the hello last. -/
theorem opened_eq (now : Int) (viewport : ViewportInfo) (state : VisibilityState)
    {bufferedAmount : Nat → Int} (calm : ClientConnection.Unpressured bufferedAmount)
    (connecting : sdk.connection.socket = some .connecting) :
    sdk.opened now viewport state bufferedAmount =
      { sdk with
        page := { sdk.page with wire := (buildHello sdk.page.wire now viewport state).1 }
        pinging := true
        connection :=
          { sdk.connection with
            socket := some .open, status := .open, queue := OutboundQueue.empty
            handed := sdk.connection.handed ++ (sdk.connection.queue.items ++
              [.hello (buildHello sdk.page.wire now viewport state).2]) } } := by
  have lossless : classify (InboundMessage.t
      (.hello (buildHello sdk.page.wire now viewport state).2)) ≠ .lossy := by
    show classify .hello ≠ .lossy
    decide
  rw [opened]
  rw [if_pos connecting]
  dsimp only [sendHello, Sdk.sendBuilt, Prod.map, ClientConnection.send]
  rw [ClientConnection.flushQueue_open calm rfl]
  rw [ClientConnection.flushQueue_open calm rfl]
  dsimp only
  rw [OutboundQueue.enqueue_lossless lossless]
  simp [OutboundQueue.empty]

/-- A socket that opens is sent the hello and the queue, all of numbers drawn. -/
theorem Numbered.opened (numbered : sdk.Numbered) (now : Int) (viewport : ViewportInfo)
    (state : VisibilityState) {bufferedAmount : Nat → Int}
    (calm : ClientConnection.Unpressured bufferedAmount) :
    (sdk.opened now viewport state bufferedAmount).Numbered := by
  by_cases connecting : sdk.connection.socket = some .connecting
  · rw [opened_eq now viewport state calm connecting]
    have grown : ∀ {seq : Int}, seq ≤ sdk.page.wire.seq → seq ≤ sdk.page.wire.seq + 1 :=
      fun h => Int.le_trans h (Int.le_of_lt (Int.lt_succ _))
    refine ⟨?_, by simp [OutboundQueue.empty],
      fun message hm => grown (numbered.adding message hm), fun _ => rfl, by simp⟩
    intro message hm
    rcases List.mem_append.mp hm with hm | hm
    · exact grown (numbered.handed message hm)
    · rcases List.mem_append.mp hm with hm | hm
      · exact grown (numbered.queued message hm)
      · rw [List.mem_singleton.mp hm]
        exact Int.le_refl _
  · rw [Sdk.opened, if_neg connecting]
    exact numbered

/-- A change of visibility sends what it has drawn numbers for. -/
theorem Numbered.visibilityChange (numbered : sdk.Numbered) (now : Int) (viewport : ViewportInfo)
    (state : VisibilityState) (changeId sessionId : EventId) {bufferedAmount : Nat → Int}
    (calm : ClientConnection.Unpressured bufferedAmount) :
    (sdk.visibilityChange now viewport state changeId sessionId bufferedAmount).Numbered := by
  have resynced : (if state = .visible ∧ sdk.connection.status = .open then
      sdk.sendHello now viewport state bufferedAmount else sdk).Numbered :=
    numbered.sendBuilt_if calm ⟨rfl, rfl⟩ _
  exact resynced.emitAll (Page.draws_onVisibilityChange _ now changeId sessionId state)

/-- A report has the number it drew before it was stored. -/
theorem Numbered.added (numbered : sdk.Numbered) (index : Nat) {bufferedAmount : Nat → Int}
    (calm : ClientConnection.Unpressured bufferedAmount) :
    (sdk.added index bufferedAmount).Numbered := by
  rw [Sdk.added]
  split
  · exact numbered
  · next message hm =>
      have remaining : { sdk with adding := sdk.adding.eraseIdx index }.Numbered :=
        { numbered with
          adding := fun other ho => numbered.adding other (List.mem_of_mem_eraseIdx ho) }
      have drawn := numbered.adding message (List.mem_of_getElem? hm)
      split
      · exact remaining.send calm (.audit message) drawn
      · exact remaining

/-- Every event keeps all numbers below the last one drawn. -/
theorem Numbered.step (numbered : sdk.Numbered) {event : SdkEvent} (calm : event.Unpressured) :
    (sdk.step event).Numbered := by
  cases event with
  | connect now eventId state =>
      have connected : { sdk with connection := sdk.connection.connect
                                  listening := true }.Numbered :=
        numbered.silent rfl rfl (silent_connect sdk.connection)
      exact connected.emitAll (sdk.page.draws_start now eventId state)
  | opened now viewport state bufferedAmount => exact numbered.opened now viewport state calm
  | closing => exact numbered.silent rfl rfl (silent_closing sdk.connection)
  | closed => exact numbered.silent rfl rfl (silent_handleClose sdk.connection)
  | retry => exact numbered.silent rfl rfl (silent_retry sdk.connection)
  | pointer now x y bufferedAmount => exact numbered.sendBuilt_if calm ⟨rfl, rfl⟩ sdk.listening
  | scroll now x y bufferedAmount => exact numbered.sendBuilt_if calm ⟨rfl, rfl⟩ sdk.listening
  | ping now bufferedAmount => exact numbered.sendBuilt_if calm ⟨rfl, rfl⟩ sdk.pinging
  | visibilityChange now viewport state changeId sessionId bufferedAmount =>
      show (if sdk.listening then _ else sdk).Numbered
      split
      · exact numbered.visibilityChange now viewport state changeId sessionId calm
      · exact numbered
  | added index bufferedAmount => exact numbered.added index calm
  | addFailed index =>
      exact { numbered with
              adding := fun other ho => numbered.adding other (List.mem_of_mem_eraseIdx ho) }
  | disconnect now bufferedAmount =>
      have left : (sdk.sendBuilt bufferedAmount
          ((buildBye sdk.page.wire now).map id .bye)).Numbered :=
        numbered.sendBuilt calm ⟨rfl, rfl⟩
      exact left.silent rfl rfl (silent_disconnect _)

/-- A step keeps the order of what the socket is handed exactly when it is in
turn. -/
theorem step_inOrder_iff (numbered : sdk.Numbered) {event : SdkEvent} (calm : event.Unpressured)
    (ordered : InOrder sdk.connection.handed) :
    InOrder (sdk.step event).connection.handed ↔ sdk.InTurn event := by
  cases event with
  | connect now eventId state =>
      exact iff_of_true (inOrder_silent (silent_connect sdk.connection) ordered) trivial
  | opened now viewport state bufferedAmount =>
      have calm : ClientConnection.Unpressured bufferedAmount := calm
      show InOrder (sdk.opened now viewport state bufferedAmount).connection.handed ↔
        (sdk.connection.socket = some .connecting → InOrder sdk.connection.queue.items)
      by_cases connecting : sdk.connection.socket = some .connecting
      · rw [opened_eq now viewport state calm connecting]
        dsimp only
        rw [numbered.fresh connecting, List.nil_append, inOrder_append_one]
        -- the hello is numbered above all that was queued
        have last : ∀ earlier ∈ sdk.connection.queue.items, earlier.seq <
            InboundMessage.seq (.hello (buildHello sdk.page.wire now viewport state).2) := by
          intro earlier he
          have := numbered.queued earlier he
          show earlier.seq < sdk.page.wire.seq + 1
          omega
        exact ⟨fun h _ => h.1, fun h => ⟨h connecting, last⟩⟩
      · rw [opened, if_neg connecting]
        exact iff_of_true ordered fun h => absurd h connecting
  | closing => exact iff_of_true (inOrder_silent (silent_closing sdk.connection) ordered) trivial
  | closed => exact iff_of_true (inOrder_silent (silent_handleClose sdk.connection) ordered) trivial
  | retry => exact iff_of_true (inOrder_silent (silent_retry sdk.connection) ordered) trivial
  | pointer now x y bufferedAmount =>
      exact iff_of_true (inOrder_sendBuilt_if numbered calm ⟨rfl, rfl⟩ sdk.listening ordered) trivial
  | scroll now x y bufferedAmount =>
      exact iff_of_true (inOrder_sendBuilt_if numbered calm ⟨rfl, rfl⟩ sdk.listening ordered) trivial
  | ping now bufferedAmount =>
      exact iff_of_true (inOrder_sendBuilt_if numbered calm ⟨rfl, rfl⟩ sdk.pinging ordered) trivial
  | visibilityChange now viewport state changeId sessionId bufferedAmount =>
      refine iff_of_true ?_ trivial
      show InOrder (if sdk.listening then _ else sdk).connection.handed
      split
      · -- what the lifecycle reports is not sent yet
        exact inOrder_sendBuilt_if numbered calm ⟨rfl, rfl⟩ _ ordered
      · exact ordered
  | added index bufferedAmount =>
      have calm : ClientConnection.Unpressured bufferedAmount := calm
      show InOrder (sdk.added index bufferedAmount).connection.handed ↔
        ∀ message ∈ sdk.adding[index]?, sdk.connection.status = .open →
          sdk.connection.socket = some .open →
            ∀ earlier ∈ sdk.connection.handed, earlier.seq < message.seq
      unfold Sdk.added
      cases hm : sdk.adding[index]? with
      | none => exact iff_of_true ordered (by simp)
      | some message =>
          dsimp only
          by_cases isOpen : sdk.connection.status = .open
          · rw [if_pos isOpen, inOrder_send_iff numbered calm (.audit message)]
            simp only [ordered, true_and, Option.mem_def, Option.some.injEq, forall_eq', isOpen,
              true_implies]
            exact Iff.rfl
          · rw [if_neg isOpen]
            exact iff_of_true ordered fun _ _ h => absurd h isOpen
  | addFailed index => exact iff_of_true ordered trivial
  | disconnect now bufferedAmount =>
      have left : InOrder (sdk.sendBuilt bufferedAmount
          ((buildBye sdk.page.wire now).map id .bye)).connection.handed :=
        inOrder_sendBuilt numbered calm ⟨rfl, rfl⟩ ordered
      exact iff_of_true (inOrder_silent (silent_disconnect _) left) trivial

end Step

/-- The frames handed to the current socket, and what a guard that gets them
in that order, and nothing before them, makes of them. -/
structure Accepted (sdk : Sdk) : Prop where
  inOrder : InOrder sdk.connection.handed
  accepted : ({} : SequenceGuard).acceptAll (sdk.connection.handed.map InboundMessage.seq) = true

/-- The server's guard takes everything exactly when the numbers rise. -/
theorem accepted_iff {sdk : Sdk} : sdk.Accepted ↔ InOrder sdk.connection.handed := by
  constructor
  · exact Accepted.inOrder
  · intro ordered
    refine ⟨ordered, SequenceGuard.acceptAll_iff.mpr ⟨?_, ordered⟩⟩
    intro seq _ last hl
    cases hl

def initial (page : Page) : Sdk := { page }

/-- A page begins with no number drawn. -/
theorem initial_numbered (page : Page) : (initial page).Numbered :=
  ⟨by simp [initial], by simp [initial, OutboundQueue.empty], by simp [initial],
    by simp [initial], by simp [initial]⟩

/-- Without backpressure, everything handed to every socket is accepted exactly
when every step is in turn. -/
theorem accepted_always_iff (page : Page) {events : List SdkEvent}
    (calm : ∀ event ∈ events, event.Unpressured) :
    Transition.Always step Accepted (initial page) events ↔
      Transition.Along step InTurn (initial page) events := by
  have keeps : ∀ (sdk : Sdk) (event : SdkEvent), event.Unpressured → sdk.Numbered →
      (sdk.step event).Numbered := fun _ _ calm numbered => numbered.step calm
  have exact_step : ∀ (sdk : Sdk) (event : SdkEvent), event.Unpressured → sdk.Numbered →
      sdk.Accepted → ((sdk.step event).Accepted ↔ sdk.InTurn event) := by
    intro sdk event calm numbered accepted
    rw [accepted_iff]
    exact step_inOrder_iff numbered calm accepted.inOrder
  have nothing : (initial page).Accepted := accepted_iff.mpr List.Pairwise.nil
  exact Transition.always_iff_along keeps exact_step (initial_numbered page) nothing calm

open Scenario

def viewport : ViewportInfo := { docWidth := 1, docHeight := 1, dpr := 1 }

def idleSocket : Nat → Int := fun _ => 0

/-- A page opened in the background comes to the front. -/
def broughtForward : List SdkEvent :=
  [.connect 0 (freshId 0) .hidden, .opened 1 viewport .hidden idleSocket,
    .visibilityChange 2 viewport .visible (freshId 1) (freshId 2) idleSocket]

/-- Storage takes the two events before anything else is sent. -/
def storedInTime : List SdkEvent :=
  broughtForward ++ [.added 0 idleSocket, .added 0 idleSocket, .pointer 3 1 7 idleSocket]

/-- The pointer moves before storage is done with the first. -/
def storedLate : List SdkEvent :=
  broughtForward ++ [.pointer 3 1 7 idleSocket, .added 0 idleSocket]

/-- Storage that is done before the next movement keeps every number in its place. -/
theorem storedInTime_accepted :
    Transition.Always step Accepted (initial { wire := createWireContext session alice })
      storedInTime := by
  apply (accepted_always_iff { wire := createWireContext session alice } ?_).mpr
  · decide
  · intro event he i
    have quiet : event.bufferedAmount i = 0 := by
      simp only [storedInTime, broughtForward, List.cons_append, List.nil_append, List.mem_cons,
        List.not_mem_nil, or_false] at he
      rcases he with rfl | rfl | rfl | rfl | rfl | rfl <;> rfl
    rw [quiet]
    decide

/-- It is numbered below the pointer, and the guard refuses it. -/
theorem storedLate_rejected :
    ¬ Transition.Always step Accepted (initial { wire := createWireContext session alice })
      storedLate := by
  intro always
  have accepted := Transition.always_iff_prefix.mp always storedLate (List.prefix_refl _)
  exact absurd accepted.inOrder (by decide)

end Sdk

end Copresence
