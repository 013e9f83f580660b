import Copresence.Client.Connection
import Copresence.Client.Lifecycle
import Copresence.Lib.Run

/-! Everything on a page that sends over its connection: captures, pings and
hellos are sent as they are built, audit events only after the outbox has
stored them. All draw their numbers from one counter. -/
namespace Copresence

/-- `adding` lists the audit messages whose `outbox.add` has not completed;
`listening` and `pinging` say whether the listeners and the ping timer are on. -/
structure Sdk where
  page : Page
  connection : ClientConnection := {}
  adding : List AuditMessage := []
  listening : Bool := false
  pinging : Bool := false

/-- What happens to a page. `now` is the clock, and `bufferedAmount` what the
socket reports to the sends of this step. `added` and `addFailed` end the
`outbox.add` of one message, in whatever order storage gets to them. -/
inductive SdkEvent where
  | connect (now : Int) (eventId : EventId) (state : VisibilityState)
  | opened (now : Int) (viewport : ViewportInfo) (state : VisibilityState)
      (bufferedAmount : Nat → Int)
  | closing
  | closed
  | retry
  | pointer (now : Int) (x y : ℚ) (bufferedAmount : Nat → Int)
  | scroll (now : Int) (x y : ℚ) (bufferedAmount : Nat → Int)
  | ping (now : Int) (bufferedAmount : Nat → Int)
  | visibilityChange (now : Int) (viewport : ViewportInfo) (state : VisibilityState)
      (changeId sessionId : EventId) (bufferedAmount : Nat → Int)
  | added (index : Nat) (bufferedAmount : Nat → Int)
  | addFailed (index : Nat)
  | disconnect (now : Int) (bufferedAmount : Nat → Int)

namespace Sdk

/-- Send a message that has just been built. -/
def sendBuilt (bufferedAmount : Nat → Int) (sdk : Sdk) (built : WireContext × InboundMessage) :
    Sdk :=
  { sdk with
    page := { sdk.page with wire := built.1 }
    connection := sdk.connection.send bufferedAmount built.2 }

def sendHello (now : Int) (viewport : ViewportInfo) (state : VisibilityState)
    (bufferedAmount : Nat → Int) (sdk : Sdk) : Sdk :=
  sdk.sendBuilt bufferedAmount ((buildHello sdk.page.wire now viewport state).map id .hello)

/-- Each message given to `emit` waits for its `outbox.add` first. -/
def emitAll (sdk : Sdk) (emitted : Page × List AuditMessage) : Sdk :=
  { sdk with page := emitted.1, adding := sdk.adding ++ emitted.2 }

def connect (now : Int) (eventId : EventId) (state : VisibilityState) (sdk : Sdk) : Sdk :=
  { sdk with connection := sdk.connection.connect, listening := true }.emitAll
    (sdk.page.start now eventId state)

/-- `handleOpen`: the new status makes the page say hello, and the queue is
flushed once more after that. -/
def opened (now : Int) (viewport : ViewportInfo) (state : VisibilityState)
    (bufferedAmount : Nat → Int) (sdk : Sdk) : Sdk :=
  if sdk.connection.socket = some .connecting then
    let greeted :=
      { sdk with
        connection := { sdk.connection with socket := some .open, status := .open }
        pinging := true }.sendHello now viewport state bufferedAmount
    { greeted with connection := greeted.connection.flushQueue bufferedAmount }
  else sdk

def closed (sdk : Sdk) : Sdk :=
  let connection := sdk.connection.handleClose
  { sdk with connection, pinging := if connection.status = .closed then false else sdk.pinging }

/-- The hello comes first, then what the lifecycle reports. -/
def visibilityChange (now : Int) (viewport : ViewportInfo) (state : VisibilityState)
    (changeId sessionId : EventId) (bufferedAmount : Nat → Int) (sdk : Sdk) : Sdk :=
  let resynced :=
    if state = .visible ∧ sdk.connection.status = .open then
      sdk.sendHello now viewport state bufferedAmount
    else sdk
  resynced.emitAll (resynced.page.onVisibilityChange now changeId sessionId state)

/-- `emit` resumes: over the socket if the connection is open, else by beacon. -/
def added (index : Nat) (bufferedAmount : Nat → Int) (sdk : Sdk) : Sdk :=
  match sdk.adding[index]? with
  | none => sdk
  | some message =>
    { sdk with
      adding := sdk.adding.eraseIdx index
      connection :=
        if sdk.connection.status = .open then
          sdk.connection.send bufferedAmount (.audit message)
        else sdk.connection }

def disconnect (now : Int) (bufferedAmount : Nat → Int) (sdk : Sdk) : Sdk :=
  let left := sdk.sendBuilt bufferedAmount ((buildBye sdk.page.wire now).map id .bye)
  { left with connection := left.connection.disconnect, listening := false, pinging := false }

def step (sdk : Sdk) : SdkEvent → Sdk
  | .connect now eventId state => sdk.connect now eventId state
  | .opened now viewport state bufferedAmount => sdk.opened now viewport state bufferedAmount
  | .closing => { sdk with connection := sdk.connection.closing }
  | .closed => sdk.closed
  | .retry => { sdk with connection := sdk.connection.retry }
  | .pointer now x y bufferedAmount =>
    if sdk.listening then
      sdk.sendBuilt bufferedAmount ((buildCursor sdk.page.wire now x y).map id .cursor)
    else sdk
  | .scroll now x y bufferedAmount =>
    if sdk.listening then
      sdk.sendBuilt bufferedAmount ((buildScroll sdk.page.wire now x y).map id .scroll)
    else sdk
  | .ping now bufferedAmount =>
    if sdk.pinging then
      sdk.sendBuilt bufferedAmount ((buildPing sdk.page.wire now).map id .ping)
    else sdk
  | .visibilityChange now viewport state changeId sessionId bufferedAmount =>
    if sdk.listening then
      sdk.visibilityChange now viewport state changeId sessionId bufferedAmount
    else sdk
  | .added index bufferedAmount => sdk.added index bufferedAmount
  | .addFailed index => { sdk with adding := sdk.adding.eraseIdx index }
  | .disconnect now bufferedAmount => sdk.disconnect now bufferedAmount

end Sdk

end Copresence
