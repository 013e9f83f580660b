import Copresence.Client.Queueing
import Copresence.Client.Transport

/-! What becomes of the messages given to a connection: those that are not
lossy reach a socket once and in order or wait in the queue, whatever sockets
come and go and however full they are. -/
namespace Copresence

namespace Transport

/-- `kept` is the conservation and the order of what is not lossy; of a lossy
type no two messages wait (`one`), and none but the newest (`latest`). -/
structure Conserved (transport : Transport) : Prop where
  kept : nonLossy transport.passed =
    nonLossy (transport.handed.map Prod.snd) ++ nonLossy transport.queue.items
  one : ∀ (first second : Nat) (message other : InboundMessage),
    transport.queue.items[first]? = some message → transport.queue.items[second]? = some other →
      classify message.t = .lossy → other.t = message.t → first = second
  latest : ∀ message ∈ transport.queue.items, classify message.t = .lossy →
    (transport.passed.filter (·.t = message.t)).getLast? = some message

/-- As `Conserved`, with the slots that keep it so. -/
structure Flowing (transport : Transport) : Prop where
  slotted : transport.queue.Slotted
  kept : nonLossy transport.passed =
    nonLossy (transport.handed.map Prod.snd) ++ nonLossy transport.queue.items
  latest : ∀ message ∈ transport.queue.items, classify message.t = .lossy →
    (transport.passed.filter (·.t = message.t)).getLast? = some message

/-- A connection that was given nothing has lost nothing. -/
theorem flowing_initial : Flowing {} := by
  refine ⟨OutboundQueue.slotted_empty, rfl, ?_⟩
  intro message hm
  cases hm

variable {transport : Transport}

/-- What flows through the queue is conserved. -/
theorem Flowing.conserved (flowing : Flowing transport) : Conserved transport :=
  ⟨flowing.kept, fun _ _ _ _ hFirst hSecond lossy same =>
    flowing.slotted.unique hFirst hSecond lossy same, flowing.latest⟩

/-- A message that is enqueued waits, or replaces a lossy one. -/
theorem Flowing.enqueue (flowing : Flowing transport) (message : InboundMessage) :
    Flowing { transport with
      queue := transport.queue.enqueue message
      passed := transport.passed ++ [message] } := by
  constructor
  · exact flowing.slotted.enqueue message
  · show nonLossy (transport.passed ++ [message]) =
      nonLossy (transport.handed.map Prod.snd) ++ nonLossy (transport.queue.enqueue message).items
    rw [OutboundQueue.nonLossy_enqueue flowing.slotted, nonLossy_append, flowing.kept,
      List.append_assoc]
  · intro found hm lossy
    show ((transport.passed ++ [message]).filter (·.t = found.t)).getLast? = some found
    rcases OutboundQueue.mem_enqueue_lossy flowing.slotted hm lossy with rfl | ⟨hm, other⟩
    · rw [List.filter_append, List.filter_cons_of_pos (by simp), List.filter_nil,
        List.getLast?_concat]
    · rw [List.filter_append, List.filter_cons_of_neg (by simpa using fun h => other h.symm),
        List.filter_nil, List.append_nil]
      exact flowing.latest found hm lossy

/-- What a flush hands over and what it queues again are together what was
queued, but for lossy messages. -/
theorem Flowing.flushQueue (flowing : Flowing transport) (reading : SocketReading) :
    Flowing (transport.flushQueue reading) := by
  rw [Transport.flushQueue]
  split
  · exact flowing
  · next socket _ =>
      split
      · have whole := ClientConnection.sendPending_append reading.bufferedAmount 0
          transport.queue.items
        show Flowing { transport with
          queue := ClientConnection.requeue
            (ClientConnection.sendPending reading.bufferedAmount 0 transport.queue.items).2
            OutboundQueue.empty
          handed := transport.handed ++
            (ClientConnection.sendPending reading.bufferedAmount 0 transport.queue.items).1.map
              fun message => (socket, message) }
        generalize ClientConnection.sendPending reading.bufferedAmount 0 transport.queue.items =
          flushed at whole
        obtain ⟨sent, left⟩ := flushed
        obtain ⟨items, _⟩ := ClientConnection.requeue_items left OutboundQueue.empty
        constructor
        · exact ClientConnection.requeue_slotted left
        · have names : (sent.map fun message => (socket, message)).map Prod.snd = sent := by
            rw [List.map_map]
            exact List.map_id sent
          show nonLossy transport.passed =
            nonLossy ((transport.handed ++ sent.map fun message => (socket, message)).map
              Prod.snd) ++ nonLossy (ClientConnection.requeue left OutboundQueue.empty).items
          rw [items, List.map_append, names, nonLossy_append, List.append_assoc, flowing.kept,
            ← whole, nonLossy_append]
          show _ = _ ++ (nonLossy sent ++ nonLossy (nonLossy left))
          rw [nonLossy_idem]
        · intro message hm lossy
          have hm : message ∈ (ClientConnection.requeue left OutboundQueue.empty).items := hm
          rw [items] at hm
          have hm : message ∈ nonLossy left := hm
          rw [nonLossy, List.mem_filter, decide_eq_true_iff] at hm
          exact absurd lossy hm.2
      · exact flowing

/-- A message that is sent reaches the socket or waits. -/
theorem Flowing.send (flowing : Flowing transport) (message : InboundMessage)
    (reading : SocketReading) : Flowing (transport.send message reading) :=
  (flowing.enqueue message).flushQueue reading

/-- A list of messages reaches the socket or waits. -/
theorem Flowing.sendAll (flowing : Flowing transport)
    (messages : List (InboundMessage × SocketReading)) : Flowing (transport.sendAll messages) := by
  induction messages generalizing transport with
  | nil => exact flowing
  | cons first messages ih => exact ih (flowing.send first.1 first.2)

/-- Sockets and timers do not touch what flows. -/
theorem Flowing.rewire (flowing : Flowing transport) (wiring : Wiring) :
    Flowing { transport with toWiring := wiring } :=
  ⟨flowing.slotted, flowing.kept, flowing.latest⟩

/-- Whatever the handler of a status sends reaches the socket or waits. -/
theorem Flowing.setStatus (flowing : Flowing transport) (next : ConnectionStatus)
    (onStatusChange : StatusHandler) : Flowing (transport.setStatus next onStatusChange) := by
  rw [Transport.setStatus]
  split
  · exact flowing
  · exact (flowing.rewire { transport.toWiring with currentStatus := next }).sendAll _

/-- A socket that is opened is sent nothing before it is open. -/
theorem Flowing.openSocket (flowing : Flowing transport) (onStatusChange : StatusHandler) :
    Flowing (transport.openSocket onStatusChange) :=
  (flowing.setStatus _ onStatusChange).rewire _

/-- A close leaves what waits for the next socket. -/
theorem Flowing.handleClose (flowing : Flowing transport) (onStatusChange : StatusHandler) :
    Flowing (transport.handleClose onStatusChange) := by
  have detached : Flowing transport.detachSocket := by
    rw [detachSocket]
    split
    · exact flowing
    · exact flowing.rewire _
  rw [Transport.handleClose]
  split
  · exact detached.setStatus _ _
  · rw [scheduleReconnect]
    split
    · exact detached
    · exact (detached.setStatus _ _).rewire _

/-- A disconnect leaves what waits in the queue. -/
theorem Flowing.disconnect (flowing : Flowing transport) (onStatusChange : StatusHandler) :
    Flowing (transport.disconnect onStatusChange) := by
  have stopped : Flowing transport.stopped := by
    rw [Transport.stopped, clearReconnectTimer]
    split
    · exact flowing.rewire _
    · exact flowing.rewire _
  rw [Transport.disconnect]
  split
  · exact flowing
  · split
    · exact stopped.rewire _
    · exact stopped.setStatus _ _

/-- Every event keeps the messages flowing. -/
theorem Flowing.step (flowing : Flowing transport) (event : TransportEvent) :
    Flowing (transport.step event) := by
  cases event with
  | connect onStatusChange =>
      rw [Transport.step, Transport.connect]
      split
      · exact flowing
      · exact (flowing.rewire _).openSocket _
  | disconnect onStatusChange => exact flowing.disconnect onStatusChange
  | send message reading => exact flowing.send message reading
  | opened socket onStatusChange reading =>
      rw [Transport.step]
      split
      · exact ((flowing.rewire _).setStatus _ _).flushQueue reading
      · exact flowing
  | message socket => exact flowing
  | closed socket onStatusChange =>
      rw [Transport.step]
      split
      · exact (flowing.rewire _).handleClose _
      · exact flowing.rewire _
  | errored socket onStatusChange =>
      rw [Transport.step]
      split
      · exact flowing.handleClose _
      · exact flowing
  | timer handle onStatusChange =>
      rw [Transport.step]
      split
      · exact (flowing.rewire _).openSocket _
      · exact flowing

/-- In every state a run reaches, no message that is not lossy has been lost,
duplicated or reordered. -/
theorem run_conserved (events : List TransportEvent) :
    Conserved (Transition.run step {} events) :=
  (Transition.invariant_run (fun _ event flowing => flowing.step event) flowing_initial
    events).conserved

end Transport

end Copresence
