import Copresence.Client.Lifecycle
import Copresence.Client.Transport

/-! `init`: the page on top of its connection, with every socket the connection
creates. Captures, pings and hellos are sent as they are built, audit events
only after the outbox has stored them. -/
namespace Copresence

/-- `adding` lists the audit messages whose `outbox.add` has not completed;
`listening` says whether the scroll capture and the visibility listeners are
on, `greetings` has the hello built at the open event of each socket. -/
structure CopresenceInstance where
  page : Page
  transport : Transport := {}
  adding : List AuditMessage := []
  pointerCaptureActive : Bool := false
  listening : Bool := false
  pinging : Bool := false
  greetings : List (Nat × HelloMessage) := []

/-- What happens to a page; `now` is the clock. `added` and `addFailed` end the
`outbox.add` of one message, in whatever order storage gets to them. -/
inductive InstanceEvent where
  | connect (now : Int) (eventId : EventId) (state : VisibilityState)
  | disconnect (now : Int) (reading : SocketReading)
  | opened (socket : Nat) (now : Int) (viewport : ViewportInfo) (state : VisibilityState)
      (greeting reading : SocketReading)
  | closed (socket : Nat)
  | errored (socket : Nat)
  | timer (handle : Nat)
  | pointer (now : Int) (x y : ℚ) (reading : SocketReading)
  | scroll (now : Int) (x y : ℚ) (reading : SocketReading)
  | ping (now : Int) (reading : SocketReading)
  | visibilityChange (now : Int) (viewport : ViewportInfo) (state : VisibilityState)
      (changeId sessionId : EventId) (reading : SocketReading)
  | added (index : Nat) (reading : SocketReading)
  | addFailed (index : Nat)

namespace CopresenceInstance

/-- The frames a socket has been handed, in order. -/
def framesOf (socket : Nat) (page : CopresenceInstance) : List InboundMessage :=
  (page.transport.handed.filter fun frame => frame.1 = socket).map Prod.snd

/-- What a `WebSocket` can report: it is not open before its open event, and
has nothing buffered before it was handed anything. -/
def observe (reading : SocketReading) (page : CopresenceInstance) : SocketReading :=
  match page.transport.socket with
  | none => reading
  | some socket =>
    { isOpen := reading.isOpen && decide (socket ∈ page.greetings.map Prod.fst)
      bufferedAmount := fun i =>
        if i = 0 ∧ page.framesOf socket = [] then 0 else reading.bufferedAmount i }

/-- Send a message that has just been built. -/
def sendBuilt (reading : SocketReading) (built : WireContext × InboundMessage)
    (page : CopresenceInstance) : CopresenceInstance :=
  { page with
    page := { page.page with wire := built.1 }
    transport := page.transport.send built.2 (page.observe reading) }

/-- Each message given to `emit` waits for its `outbox.add` first. -/
def emitAll (emitted : Page × List AuditMessage) (page : CopresenceInstance) : CopresenceInstance :=
  { page with page := emitted.1, adding := page.adding ++ emitted.2 }

/-- Only an open connection makes `handleStatusChange` send. -/
def handleStatusChange (hello : HelloMessage) (reading : SocketReading) : StatusHandler
  | .open => [(.hello hello, reading)]
  | _ => []

def connect (now : Int) (eventId : EventId) (state : VisibilityState) (page : CopresenceInstance) :
    CopresenceInstance :=
  { page with
    transport := page.transport.connect fun _ => []
    pointerCaptureActive := true
    listening := true }.emitAll (page.page.start now eventId state)

def disconnect (now : Int) (reading : SocketReading) (page : CopresenceInstance) :
    CopresenceInstance :=
  let left := page.sendBuilt reading ((buildBye page.page.wire now).map id .bye)
  { left with
    transport := left.transport.disconnect fun _ => []
    pointerCaptureActive := false
    listening := false
    pinging := false }

/-- The open event, dispatched with `readyState` already OPEN: the new status
makes the page say hello, and the queue is flushed once more after that. -/
def opened (socket : Nat) (now : Int) (viewport : ViewportInfo) (state : VisibilityState)
    (greeting reading : SocketReading) (page : CopresenceInstance) : CopresenceInstance :=
  if socket ∈ page.transport.listening ∧ page.transport.currentStatus ≠ .open then
    let (wire, hello) := buildHello page.page.wire now viewport state
    let greeted :=
      { page with
        page := { page.page with wire }
        greetings := page.greetings ++ [(socket, hello)] }
    { greeted with
      transport := page.transport.handleOpen
        (handleStatusChange hello (greeted.observe { greeting with isOpen := true })) reading
      pinging := true }
  else page

/-- A close or an error of the attached socket; `closed` stops the pings. -/
def handleClose (transport : Transport) (page : CopresenceInstance) : CopresenceInstance :=
  { page with
    transport
    pinging := if transport.currentStatus = .closed then false else page.pinging }

/-- The hello comes first, then what the lifecycle reports. -/
def visibilityChange (now : Int) (viewport : ViewportInfo) (state : VisibilityState)
    (changeId sessionId : EventId) (reading : SocketReading) (page : CopresenceInstance) :
    CopresenceInstance :=
  let captured := { page with pointerCaptureActive := decide (state = VisibilityState.visible) }
  let resynced :=
    if state = .visible ∧ page.transport.currentStatus = .open then
      captured.sendBuilt reading
        ((buildHello page.page.wire now viewport state).map id .hello)
    else captured
  resynced.emitAll (resynced.page.onVisibilityChange now changeId sessionId state)

/-- `emit` resumes: over the socket if the connection is open, else by beacon. -/
def added (index : Nat) (reading : SocketReading) (page : CopresenceInstance) :
    CopresenceInstance :=
  match page.adding[index]? with
  | none => page
  | some message =>
    { page with
      adding := page.adding.eraseIdx index
      transport :=
        if page.transport.currentStatus = .open then
          page.transport.send (.audit message) (page.observe reading)
        else page.transport }

def step (page : CopresenceInstance) : InstanceEvent → CopresenceInstance
  | .connect now eventId state => page.connect now eventId state
  | .disconnect now reading => page.disconnect now reading
  | .opened socket now viewport state greeting reading =>
    page.opened socket now viewport state greeting reading
  | .closed socket => page.handleClose (page.transport.step (.closed socket fun _ => []))
  | .errored socket => page.handleClose (page.transport.step (.errored socket fun _ => []))
  | .timer handle => { page with transport := page.transport.step (.timer handle fun _ => []) }
  | .pointer now x y reading =>
    if page.pointerCaptureActive then
      page.sendBuilt reading ((buildCursor page.page.wire now x y).map id .cursor)
    else page
  | .scroll now x y reading =>
    if page.listening then
      page.sendBuilt reading ((buildScroll page.page.wire now x y).map id .scroll)
    else page
  | .ping now reading =>
    if page.pinging then page.sendBuilt reading ((buildPing page.page.wire now).map id .ping)
    else page
  | .visibilityChange now viewport state changeId sessionId reading =>
    if page.listening then page.visibilityChange now viewport state changeId sessionId reading
    else page
  | .added index reading => page.added index reading
  | .addFailed index => { page with adding := page.adding.eraseIdx index }

end CopresenceInstance

end Copresence
