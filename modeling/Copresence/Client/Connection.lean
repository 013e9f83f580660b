import Copresence.Lib.JsMap
import Copresence.Protocol.Messages

/-! The client's end of the WebSocket: the outbound queue with its drop policy
and the connection that drains it into the current socket. -/
namespace Copresence

open Collections

/-- `lossySlot` remembers where the queued message of a lossy type stands. -/
structure OutboundQueue where
  items : List InboundMessage
  lossySlot : JsMap MessageType Nat
  slots : ∀ t index, lossySlot.get? t = some index → index < items.length

namespace OutboundQueue

def empty : OutboundQueue := ⟨[], JsMap.empty, by simp⟩

def push (message : InboundMessage) (queue : OutboundQueue) : OutboundQueue where
  items := queue.items ++ [message]
  lossySlot := queue.lossySlot
  slots := by
    intro t index h
    have := queue.slots t index h
    rw [List.length_append]
    omega

/-- A lossy message replaces the queued one of its type, in its place. -/
def enqueue (message : InboundMessage) (queue : OutboundQueue) : OutboundQueue :=
  if classify message.t ≠ .lossy then queue.push message
  else
    match queue.lossySlot.get? message.t with
    | some index =>
      { items := queue.items.set index message
        lossySlot := queue.lossySlot
        slots := by simpa using queue.slots }
    | none =>
      { items := queue.items ++ [message]
        lossySlot := queue.lossySlot.set message.t queue.items.length
        slots := by
          intro t index h
          rw [List.length_append, List.length_singleton]
          rw [JsMap.get?_set] at h
          split at h
          · rw [← Option.some.inj h]
            omega
          · have := queue.slots t index h
            omega }

/-- Everything ready to send, in order, and the cleared queue. -/
def drain (queue : OutboundQueue) : List InboundMessage × OutboundQueue := (queue.items, empty)

/-- What stands in the queue was enqueued now or stood there before. -/
theorem mem_enqueue {message other : InboundMessage} {queue : OutboundQueue}
    (h : other ∈ (queue.enqueue message).items) : other = message ∨ other ∈ queue.items := by
  have pushed : other ∈ queue.items ++ [message] → other = message ∨ other ∈ queue.items := by
    intro hm
    rcases List.mem_append.mp hm with hm | hm
    · exact Or.inr hm
    · exact Or.inl (List.mem_singleton.mp hm)
  unfold enqueue at h
  split at h
  · exact pushed h
  · split at h
    · exact (List.mem_or_eq_of_mem_set h).symm
    · exact pushed h

/-- An empty queue takes any message as its only one. -/
theorem enqueue_of_empty (message : InboundMessage) {queue : OutboundQueue}
    (h : queue.items = []) : (queue.enqueue message).items = [message] := by
  have noSlot : queue.lossySlot.get? message.t = none := by
    cases hs : queue.lossySlot.get? message.t with
    | none => rfl
    | some index =>
        have bound := queue.slots _ _ hs
        rw [h] at bound
        exact absurd bound (Nat.not_lt_zero _)
  rw [enqueue]
  split
  · show queue.items ++ [message] = [message]
    rw [h, List.nil_append]
  · rw [noSlot]
    show queue.items ++ [message] = [message]
    rw [h, List.nil_append]

/-- What is not lossy goes to the end. -/
theorem enqueue_lossless {message : InboundMessage} {queue : OutboundQueue}
    (h : classify message.t ≠ .lossy) : (queue.enqueue message).items = queue.items ++ [message] := by
  rw [enqueue, if_pos h]
  rfl

end OutboundQueue

inductive ConnectionStatus where
  | idle
  | connecting
  | open
  | reconnecting
  | closed
deriving DecidableEq, Repr

/-- How far the current socket is; one that has reported its close is none. -/
inductive SocketState where
  | connecting
  | open
  | closing
deriving DecidableEq, Repr

/-- `handed` lists the frames handed to the current socket's `send`, in order. -/
structure ClientConnection where
  queue : OutboundQueue := OutboundQueue.empty
  socket : Option SocketState := none
  status : ConnectionStatus := .idle
  intentionalDisconnect : Bool := false
  handed : List InboundMessage := []

namespace ClientConnection

/-- The loop of `flushQueue`: what it sends and what it leaves, where
`bufferedAmount i` is what the socket has buffered before the `i`-th send. -/
def sendPending (bufferedAmount : Nat → Int) :
    Nat → List InboundMessage → List InboundMessage × List InboundMessage
  | _, [] => ([], [])
  | i, message :: rest =>
    if bufferedAmount i > backpressureBytes then ([], message :: rest)
    else
      let (sent, left) := sendPending bufferedAmount (i + 1) rest
      (message :: sent, left)

/-- What is left is queued again, but for lossy frames. -/
def requeue (left : List InboundMessage) (queue : OutboundQueue) : OutboundQueue :=
  left.foldl
    (fun queue message =>
      if classify message.t = .lossy then queue else queue.enqueue message) queue

def flushQueue (bufferedAmount : Nat → Int) (connection : ClientConnection) : ClientConnection :=
  if connection.socket ≠ some .open then connection
  else
    let (pending, cleared) := connection.queue.drain
    let (sent, left) := sendPending bufferedAmount 0 pending
    { connection with
      queue := requeue left cleared
      handed := connection.handed ++ sent }

def send (bufferedAmount : Nat → Int) (message : InboundMessage) (connection : ClientConnection) :
    ClientConnection :=
  flushQueue bufferedAmount { connection with queue := connection.queue.enqueue message }

def openSocket (connection : ClientConnection) : ClientConnection :=
  { connection with
    status := if connection.status = .idle then .connecting else .reconnecting
    socket := some .connecting
    handed := [] }

/-- No second socket is opened underneath an existing one. -/
def connect (connection : ClientConnection) : ClientConnection :=
  match connection.status with
  | .connecting | .open | .reconnecting => connection
  | .idle | .closed => { connection with intentionalDisconnect := false }.openSocket

/-- The reconnect timer fires. -/
def retry (connection : ClientConnection) : ClientConnection :=
  if connection.status = .reconnecting ∧ connection.socket = none then connection.openSocket
  else connection

def disconnect (connection : ClientConnection) : ClientConnection :=
  match connection.status with
  | .closed | .idle => connection
  | _ =>
    match connection.socket with
    | some _ => { connection with intentionalDisconnect := true, socket := some .closing }
    | none => { connection with intentionalDisconnect := true, status := .closed }

/-- The socket stops being open before its close is reported. -/
def closing (connection : ClientConnection) : ClientConnection :=
  match connection.socket with
  | none => connection
  | some _ => { connection with socket := some .closing }

def handleClose (connection : ClientConnection) : ClientConnection :=
  match connection.socket with
  | none => connection
  | some _ =>
    { connection with
      socket := none
      status := if connection.intentionalDisconnect then .closed else .reconnecting }

/-- The socket never has more buffered than the threshold. -/
def Unpressured (bufferedAmount : Nat → Int) : Prop := ∀ i, bufferedAmount i ≤ backpressureBytes

section Unpressured

variable {bufferedAmount : Nat → Int} (calm : Unpressured bufferedAmount)

include calm

/-- Without backpressure everything is sent. -/
theorem sendPending_unpressured (i : Nat) (pending : List InboundMessage) :
    sendPending bufferedAmount i pending = (pending, []) := by
  induction pending generalizing i with
  | nil => rfl
  | cons message rest ih => rw [sendPending, if_neg (Int.not_lt.mpr (calm i)), ih]

/-- An open socket gets the whole queue. -/
theorem flushQueue_open {connection : ClientConnection} (isOpen : connection.socket = some .open) :
    connection.flushQueue bufferedAmount =
      { connection with
        queue := OutboundQueue.empty
        handed := connection.handed ++ connection.queue.items } := by
  rw [flushQueue]
  rw [if_neg (not_not.mpr isOpen)]
  show { connection with
      queue := requeue (sendPending bufferedAmount 0 connection.queue.items).2 OutboundQueue.empty
      handed := _ ++ (sendPending bufferedAmount 0 connection.queue.items).1 } = _
  rw [sendPending_unpressured calm]
  rfl

/-- On an open socket with nothing waiting a message is sent at once. -/
theorem send_open {connection : ClientConnection} (isOpen : connection.socket = some .open)
    (drained : connection.queue.items = []) (message : InboundMessage) :
    connection.send bufferedAmount message =
      { connection with
        queue := OutboundQueue.empty
        handed := connection.handed ++ [message] } := by
  have sent := OutboundQueue.enqueue_of_empty message drained
  have flushed : ({ connection with queue := connection.queue.enqueue message } :
      ClientConnection).socket = some .open := isOpen
  rw [send, flushQueue_open calm flushed, sent]

end Unpressured

/-- Without an open socket nothing is flushed. -/
theorem flushQueue_not_open {connection : ClientConnection} (bufferedAmount : Nat → Int)
    (notOpen : connection.socket ≠ some .open) :
    connection.flushQueue bufferedAmount = connection := by
  rw [flushQueue, if_pos notOpen]

/-- Without an open socket a message is queued. -/
theorem send_not_open {connection : ClientConnection} (bufferedAmount : Nat → Int)
    (notOpen : connection.socket ≠ some .open) (message : InboundMessage) :
    connection.send bufferedAmount message =
      { connection with queue := connection.queue.enqueue message } := by
  rw [send, flushQueue_not_open]
  exact notOpen

end ClientConnection

end Copresence
