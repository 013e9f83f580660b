import Copresence.Client.Connection
import Copresence.Lib.Run

/-! `createConnection` down to its sockets and timers: every socket it ever
created may still deliver events, a close is reported after it was asked for,
and the page's `onStatusChange` may send while a handler is running. -/
namespace Copresence

/-- What the socket reports to one flush: `readyState` before it, and
`bufferedAmount` before each send. -/
structure SocketReading where
  isOpen : Bool
  bufferedAmount : Nat → Int

/-- What `onStatusChange` sends when it is told a status. -/
abbrev StatusHandler := ConnectionStatus → List (InboundMessage × SocketReading)

/-- The variables of `createConnection` that decide on sockets and timers, then
what these look like from outside: `created` and `timersSet` count them,
`listening` lists the sockets with this connection's listeners, `pending` the
timers that are set, `closing` the sockets told to close that have not reported
it. `creations` has what was listening and pending at each `createSocket`. -/
structure Wiring where
  socket : Option Nat := none
  currentStatus : ConnectionStatus := .idle
  reconnectAttempt : Nat := 0
  reconnectTimer : Option Nat := none
  intentionalDisconnect : Bool := false
  created : Nat := 0
  timersSet : Nat := 0
  listening : List Nat := []
  pending : List Nat := []
  closing : List Nat := []
  creations : List (List Nat × List Nat) := []
deriving DecidableEq, Repr

/-- `passed` lists every message given to `send`, `handed` every frame given to
a socket. -/
structure Transport extends Wiring where
  queue : OutboundQueue := OutboundQueue.empty
  passed : List InboundMessage := []
  handed : List (Nat × InboundMessage) := []

/-- What can happen to a connection. Sockets and timers are named by the order
of their creation; an event of a socket may come at any time. -/
inductive TransportEvent where
  | connect (onStatusChange : StatusHandler)
  | disconnect (onStatusChange : StatusHandler)
  | send (message : InboundMessage) (reading : SocketReading)
  | opened (socket : Nat) (onStatusChange : StatusHandler) (reading : SocketReading)
  | message (socket : Nat)
  | closed (socket : Nat) (onStatusChange : StatusHandler)
  | errored (socket : Nat) (onStatusChange : StatusHandler)
  | timer (handle : Nat) (onStatusChange : StatusHandler)

/-- Connecting, open or reconnecting. -/
def ConnectionStatus.live : ConnectionStatus → Bool
  | connecting | .open | reconnecting => true
  | idle | closed => false

namespace Transport

def flushQueue (reading : SocketReading) (transport : Transport) : Transport :=
  match transport.socket with
  | none => transport
  | some socket =>
    if reading.isOpen then
      let (pending, cleared) := transport.queue.drain
      let (sent, left) := ClientConnection.sendPending reading.bufferedAmount 0 pending
      { transport with
        queue := ClientConnection.requeue left cleared
        handed := transport.handed ++ sent.map fun message => (socket, message) }
    else transport

def send (message : InboundMessage) (reading : SocketReading) (transport : Transport) : Transport :=
  { transport with
    queue := transport.queue.enqueue message
    passed := transport.passed ++ [message] }.flushQueue reading

def sendAll (messages : List (InboundMessage × SocketReading)) (transport : Transport) :
    Transport :=
  messages.foldl (fun transport (message, reading) => transport.send message reading) transport

def setStatus (next : ConnectionStatus) (onStatusChange : StatusHandler) (transport : Transport) :
    Transport :=
  if transport.currentStatus = next then transport
  else { transport with currentStatus := next }.sendAll (onStatusChange next)

def clearReconnectTimer (transport : Transport) : Transport :=
  match transport.reconnectTimer with
  | none => transport
  | some handle =>
    { transport with
      pending := transport.pending.filter (· ≠ handle)
      reconnectTimer := none }

def scheduleReconnect (onStatusChange : StatusHandler) (transport : Transport) : Transport :=
  if transport.intentionalDisconnect then transport
  else
    let transport := transport.setStatus .reconnecting onStatusChange
    { transport with
      reconnectAttempt := transport.reconnectAttempt + 1
      reconnectTimer := some transport.timersSet
      timersSet := transport.timersSet + 1
      pending := transport.pending ++ [transport.timersSet] }

def detachSocket (transport : Transport) : Transport :=
  match transport.socket with
  | none => transport
  | some socket =>
    { transport with
      listening := transport.listening.filter (· ≠ socket)
      socket := none }

def handleOpen (onStatusChange : StatusHandler) (reading : SocketReading) (transport : Transport) :
    Transport :=
  ({ transport with reconnectAttempt := 0 }.setStatus .open onStatusChange).flushQueue reading

def handleClose (onStatusChange : StatusHandler) (transport : Transport) : Transport :=
  let detached := transport.detachSocket
  if detached.intentionalDisconnect then detached.setStatus .closed onStatusChange
  else detached.scheduleReconnect onStatusChange

def openSocket (onStatusChange : StatusHandler) (transport : Transport) : Transport :=
  let transport := transport.setStatus
    (if transport.currentStatus = .idle then .connecting else .reconnecting) onStatusChange
  { transport with
    creations := transport.creations ++ [(transport.listening, transport.pending)]
    created := transport.created + 1
    socket := some transport.created
    listening := transport.listening ++ [transport.created] }

/-- Never opens a second socket underneath an existing one. -/
def connect (onStatusChange : StatusHandler) (transport : Transport) : Transport :=
  if transport.currentStatus = .connecting ∨ transport.currentStatus = .open ∨
      transport.currentStatus = .reconnecting then transport
  else
    { transport with intentionalDisconnect := false, reconnectAttempt := 0 }.openSocket
      onStatusChange

/-- What is left of a connection once `disconnect` has stopped its timer. -/
def stopped (transport : Transport) : Transport :=
  { transport with intentionalDisconnect := true }.clearReconnectTimer

def disconnect (onStatusChange : StatusHandler) (transport : Transport) : Transport :=
  if transport.currentStatus = .closed ∨ transport.currentStatus = .idle then transport
  else
    match transport.stopped.socket with
    | some socket =>
      { transport.stopped with closing := transport.stopped.closing ++ [socket] }
    | none => transport.stopped.setStatus .closed onStatusChange

/-- An event reaches its handler only while the listener is on, and a timer
fires only while it is set. -/
def step (transport : Transport) : TransportEvent → Transport
  | .connect onStatusChange => transport.connect onStatusChange
  | .disconnect onStatusChange => transport.disconnect onStatusChange
  | .send message reading => transport.send message reading
  | .opened socket onStatusChange reading =>
    if socket ∈ transport.listening then transport.handleOpen onStatusChange reading else transport
  | .message _ => transport
  | .closed socket onStatusChange =>
    let reported := { transport with closing := transport.closing.filter (· ≠ socket) }
    if socket ∈ reported.listening then reported.handleClose onStatusChange else reported
  | .errored socket onStatusChange =>
    if socket ∈ transport.listening then transport.handleClose onStatusChange else transport
  | .timer handle onStatusChange =>
    if handle ∈ transport.pending then
      { transport with
        pending := transport.pending.filter (· ≠ handle)
        reconnectTimer := none }.openSocket onStatusChange
    else transport

section Calls

variable {transport : Transport} {onStatusChange : StatusHandler}

/-- A connection that is live ignores a connect. -/
theorem connect_of_live (live : transport.currentStatus.live = true) :
    transport.connect onStatusChange = transport := by
  apply if_pos
  cases hs : transport.currentStatus <;> simp_all [ConnectionStatus.live]

/-- A connection that is idle or closed opens a socket. -/
theorem connect_of_settled (settled : transport.currentStatus.live = false) :
    transport.connect onStatusChange =
      ({ transport with intentionalDisconnect := false, reconnectAttempt := 0 } :
        Transport).openSocket onStatusChange := by
  apply if_neg
  cases hs : transport.currentStatus <;> simp_all [ConnectionStatus.live]

/-- A connection that is idle or closed ignores a disconnect. -/
theorem disconnect_of_settled (settled : transport.currentStatus.live = false) :
    transport.disconnect onStatusChange = transport := by
  apply if_pos
  cases hs : transport.currentStatus <;> simp_all [ConnectionStatus.live]

/-- A live connection closes its socket, or is closed at once where it has none. -/
theorem disconnect_of_live (live : transport.currentStatus.live = true) :
    transport.disconnect onStatusChange =
      match transport.stopped.socket with
      | some socket =>
        { transport.stopped with closing := transport.stopped.closing ++ [socket] }
      | none => transport.stopped.setStatus .closed onStatusChange := by
  apply if_neg
  cases hs : transport.currentStatus <;> simp_all [ConnectionStatus.live]

end Calls

/-- Flushing the queue moves neither socket nor timer. -/
@[simp] theorem flushQueue_toWiring (reading : SocketReading) (transport : Transport) :
    (transport.flushQueue reading).toWiring = transport.toWiring := by
  rw [flushQueue]
  split
  · rfl
  · split <;> rfl

/-- Sending moves neither socket nor timer. -/
@[simp] theorem send_toWiring (message : InboundMessage) (reading : SocketReading)
    (transport : Transport) : (transport.send message reading).toWiring = transport.toWiring := by
  rw [send, flushQueue_toWiring]

/-- Sending a list of messages moves neither socket nor timer. -/
@[simp] theorem sendAll_toWiring (messages : List (InboundMessage × SocketReading))
    (transport : Transport) : (transport.sendAll messages).toWiring = transport.toWiring := by
  induction messages generalizing transport with
  | nil => rfl
  | cons first messages ih =>
      show ((transport.send first.1 first.2).sendAll messages).toWiring = _
      rw [ih, send_toWiring]

/-- Whatever the page sends when it is told, only the status has changed. -/
@[simp] theorem setStatus_toWiring (next : ConnectionStatus) (onStatusChange : StatusHandler)
    (transport : Transport) :
    (transport.setStatus next onStatusChange).toWiring =
      { transport.toWiring with currentStatus := next } := by
  rw [setStatus]
  split
  · next h => rw [← h]
  · rw [sendAll_toWiring]

end Transport

end Copresence
