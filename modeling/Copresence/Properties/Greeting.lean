import Copresence.Client.Instance
import Copresence.Client.Queueing
import Copresence.Properties.Ownership
import Copresence.Properties.Sequencing

/-! Which frame a socket gets first. The hello is queued behind whatever the
page sent while no socket was open, and the queue is first in, first out. -/
namespace Copresence

namespace Transport

variable {transport : Transport}

/-- Where nobody listens, a status only changes. -/
theorem setStatus_silent (next : ConnectionStatus) (transport : Transport) :
    transport.setStatus next (fun _ => []) = { transport with currentStatus := next } := by
  rw [setStatus]
  split
  · next h => rw [← h]
  · rfl

/-- Opening a socket neither queues nor sends. -/
theorem openSocket_silent (transport : Transport) :
    (transport.openSocket fun _ => []).queue = transport.queue ∧
      (transport.openSocket fun _ => []).handed = transport.handed := by
  rw [openSocket, setStatus_silent]
  exact ⟨rfl, rfl⟩

/-- Connecting neither queues nor sends, whether a socket is opened or not. -/
theorem connect_silent (transport : Transport) :
    (transport.connect fun _ => []).queue = transport.queue ∧
      (transport.connect fun _ => []).handed = transport.handed := by
  rw [connect]
  split
  · exact ⟨rfl, rfl⟩
  · exact openSocket_silent _

/-- Disconnecting keeps the queue, and sends nothing of it. -/
theorem disconnect_silent (transport : Transport) :
    (transport.disconnect fun _ => []).queue = transport.queue ∧
      (transport.disconnect fun _ => []).handed = transport.handed := by
  have stopped : transport.stopped.queue = transport.queue ∧
      transport.stopped.handed = transport.handed := by
    rw [stopped, clearReconnectTimer]
    split <;> exact ⟨rfl, rfl⟩
  rw [disconnect]
  split
  · exact ⟨rfl, rfl⟩
  · split
    · exact stopped
    · rw [setStatus_silent]
      exact stopped

/-- A close keeps the queue for the next socket. -/
theorem handleClose_silent (transport : Transport) :
    (transport.handleClose fun _ => []).queue = transport.queue ∧
      (transport.handleClose fun _ => []).handed = transport.handed := by
  have detached : transport.detachSocket.queue = transport.queue ∧
      transport.detachSocket.handed = transport.handed := by
    rw [detachSocket]
    split <;> exact ⟨rfl, rfl⟩
  rw [handleClose]
  split
  · rw [setStatus_silent]
    exact detached
  · rw [scheduleReconnect]
    split
    · exact detached
    · rw [setStatus_silent]
      exact detached

/-- The same where the report of a close may not be listened to. -/
theorem handleClose_if_silent (transport : Transport) (heard : Prop) [Decidable heard] :
    (if heard then transport.handleClose fun _ => [] else transport).queue = transport.queue ∧
      (if heard then transport.handleClose fun _ => [] else transport).handed =
        transport.handed := by
  split
  · exact handleClose_silent transport
  · exact ⟨rfl, rfl⟩

/-- A flush hands frames over only to the attached socket and while it is open,
and queues nothing new. -/
theorem flushQueue_handed (reading : SocketReading) (transport : Transport) :
    ((transport.flushQueue reading).handed = transport.handed ∨
        ∃ (socket : Nat) (sent : List InboundMessage),
          transport.socket = some socket ∧ reading.isOpen = true ∧
          (transport.flushQueue reading).handed =
            transport.handed ++ sent.map fun message => (socket, message)) ∧
      ∀ message ∈ (transport.flushQueue reading).queue.items, message ∈ transport.queue.items := by
  rw [flushQueue]
  split
  · exact ⟨Or.inl rfl, fun _ hm => hm⟩
  · next socket attached =>
      split
      · next isOpen =>
          refine ⟨Or.inr ⟨socket, _, attached, isOpen, rfl⟩, ?_⟩
          intro message hm
          have whole := ClientConnection.sendPending_append reading.bufferedAmount 0
            transport.queue.items
          have hm : message ∈ (ClientConnection.requeue
              (ClientConnection.sendPending reading.bufferedAmount 0 transport.queue.items).2
              OutboundQueue.empty).items := hm
          rw [(ClientConnection.requeue_items _ _).1] at hm
          rw [← whole]
          exact List.mem_append_right _ (List.mem_filter.mp hm).1
      · exact ⟨Or.inl rfl, fun _ hm => hm⟩

/-- A socket that reports nothing buffered gets the front of the queue. -/
theorem flushQueue_front {reading : SocketReading} {socket : Nat} {first : InboundMessage}
    {rest : List InboundMessage} (attached : transport.socket = some socket)
    (isOpen : reading.isOpen = true) (calm : reading.bufferedAmount 0 ≤ backpressureBytes)
    (queued : transport.queue.items = first :: rest) :
    ∃ sent : List InboundMessage, (transport.flushQueue reading).handed =
      transport.handed ++ (first :: sent).map fun message => (socket, message) := by
  refine ⟨(ClientConnection.sendPending reading.bufferedAmount 1 rest).1, ?_⟩
  have front : (ClientConnection.sendPending reading.bufferedAmount 0 transport.queue.items).1 =
      first :: (ClientConnection.sendPending reading.bufferedAmount 1 rest).1 := by
    rw [queued, ClientConnection.sendPending, if_neg (Int.not_lt.mpr calm)]
  rw [flushQueue, attached]
  show (if reading.isOpen then _ else transport : Transport).handed = _
  rw [if_pos isOpen]
  show transport.handed ++ (ClientConnection.sendPending reading.bufferedAmount 0
    transport.queue.items).1.map _ = _
  rw [front]

end Transport

namespace CopresenceInstance

/-- The first frame a socket is handed is the hello built at its open event. -/
def HelloFirst (page : CopresenceInstance) : Prop :=
  ∀ socket message, (page.framesOf socket).head? = some message →
    ∃ hello, (socket, hello) ∈ page.greetings ∧ message = .hello hello

/-- A socket that opens finds the queue empty. -/
def OpensDrained (page : CopresenceInstance) (event : InstanceEvent) : Prop :=
  ∀ socket now viewport state greeting reading,
    event = .opened socket now viewport state greeting reading →
      socket ∈ page.transport.listening → page.transport.currentStatus ≠ .open →
        page.transport.queue.items = []

/-- Sockets that were greeted are older than the next one, and the attached one
is among them only if the connection is open. -/
structure Wired (wiring : Wiring) (greeted : List Nat) : Prop where
  owned : wiring.Owned
  older : ∀ socket ∈ greeted, socket < wiring.created
  bound : ∀ socket, wiring.socket = some socket → socket < wiring.created
  ungreeted : ∀ socket, wiring.socket = some socket → wiring.currentStatus ≠ .open →
    socket ∉ greeted

section Wired

variable {transport : Transport} {greeted : List Nat} {onStatusChange : StatusHandler}

/-- Without a current socket nothing is asked of one. -/
theorem Wired.detached {wiring : Wiring} (wired : Wired transport.toWiring greeted)
    (owned : wiring.Owned) (created : wiring.created = transport.created)
    (none : wiring.socket = none) : Wired wiring greeted := by
  refine ⟨owned, ?_, ?_, ?_⟩
  · rw [created]
    exact wired.older
  · intro socket attached
    rw [none] at attached
    cases attached
  · intro socket attached
    rw [none] at attached
    cases attached

/-- A new socket has not been greeted. -/
theorem Wired.openSocket (older : ∀ socket ∈ greeted, socket < transport.created)
    (owned : (transport.openSocket onStatusChange).toWiring.Owned) :
    Wired (transport.openSocket onStatusChange).toWiring greeted := by
  rw [Transport.openSocket_toWiring] at owned ⊢
  refine ⟨owned, ?_, ?_, ?_⟩
  · intro socket hm
    exact Nat.lt_succ_of_lt (older socket hm)
  · intro socket attached
    rw [← Option.some.inj attached]
    exact Nat.lt_succ_self _
  · intro socket attached _ hm
    have old := older socket hm
    rw [← Option.some.inj attached] at old
    exact Nat.lt_irrefl _ old

/-- A socket that is new has been sent no hello yet. -/
theorem Wired.connect (wired : Wired transport.toWiring greeted) :
    Wired (transport.connect onStatusChange).toWiring greeted := by
  have owned := Transport.connect_owned onStatusChange wired.owned
  cases hLive : transport.currentStatus.live with
  | true =>
      rw [Transport.connect_of_live hLive]
      exact wired
  | false =>
      rw [Transport.connect_of_settled hLive] at owned ⊢
      exact Wired.openSocket wired.older owned

/-- A disconnect creates no socket and greets none. -/
theorem Wired.disconnect (wired : Wired transport.toWiring greeted) :
    Wired (transport.disconnect onStatusChange).toWiring greeted := by
  have owned := Transport.disconnect_owned onStatusChange wired.owned
  cases hLive : transport.currentStatus.live with
  | false =>
      rw [Transport.disconnect_of_settled hLive]
      exact wired
  | true =>
      rw [Transport.disconnect_toWiring _ wired.owned hLive] at owned ⊢
      cases hs : transport.socket with
      | none =>
          rw [hs] at owned
          exact wired.detached owned rfl hs
      | some socket =>
          rw [hs] at owned
          exact ⟨owned, wired.older, wired.bound, wired.ungreeted⟩

/-- A close that is on its way changes nothing before it arrives. -/
theorem Wired.reported (wired : Wired transport.toWiring greeted) (closing : List Nat) :
    Wired { transport.toWiring with closing } greeted :=
  ⟨{ wired.owned with }, wired.older, wired.bound, wired.ungreeted⟩

/-- After a close the greeted sockets are those greeted before. -/
theorem Wired.handleClose (wired : Wired transport.toWiring greeted) {socket : Nat}
    (attached : socket ∈ transport.listening) :
    Wired (transport.handleClose onStatusChange).toWiring greeted := by
  have owned := Transport.handleClose_owned onStatusChange wired.owned attached
  have told := Transport.handleClose_toWiring onStatusChange wired.owned attached
  apply wired.detached owned
  · rw [told]
    split <;> rfl
  · rw [told]
    split <;> rfl

/-- A socket that opens is greeted, and is older than the next one. -/
theorem Wired.handleOpen (wired : Wired transport.toWiring greeted) {socket : Nat}
    (attached : socket ∈ transport.listening) (reading : SocketReading) :
    Wired (transport.handleOpen onStatusChange reading).toWiring (greeted ++ [socket]) := by
  have owned := Transport.handleOpen_owned onStatusChange wired.owned attached
    reading
  rw [Transport.handleOpen_toWiring] at owned ⊢
  rw [wired.owned.attached, Option.mem_toList] at attached
  refine ⟨owned, ?_, wired.bound, fun _ _ notOpen => absurd rfl notOpen⟩
  intro other hm
  rcases List.mem_append.mp hm with hm | hm
  · exact wired.older other hm
  · rw [List.mem_singleton.mp hm]
    exact wired.bound socket attached

/-- A timer opens at most a socket that is new. -/
theorem Wired.timer (wired : Wired transport.toWiring greeted) {handle : Nat}
    (fires : handle ∈ transport.pending) :
    Wired (({ transport with
        pending := transport.pending.filter (· ≠ handle)
        reconnectTimer := none } : Transport).openSocket onStatusChange).toWiring greeted :=
  Wired.openSocket wired.older (Transport.timer_owned _ wired.owned fires)

end Wired

section Frames

variable {page : CopresenceInstance} {transport : Transport} {socket : Nat}

/-- What was handed to a socket stays when something else moves. -/
theorem framesOf_same (same : transport.handed = page.transport.handed) (other : Nat) :
    framesOf other { page with transport } = page.framesOf other := by
  rw [framesOf, framesOf]
  show (transport.handed.filter _).map _ = _
  rw [same]

/-- Handing on to one socket adds to the frames of that one alone. -/
theorem framesOf_append {sent : List InboundMessage}
    (h : transport.handed = page.transport.handed ++ sent.map fun message => (socket, message))
    (other : Nat) :
    framesOf other { page with transport } =
      page.framesOf other ++ if other = socket then sent else [] := by
  have own : ((sent.map fun message => (socket, message)).filter fun frame => frame.1 = other).map
      Prod.snd = if other = socket then sent else [] := by
    split
    · next h =>
        rw [h, List.filter_eq_self.mpr (by simp), List.map_map]
        exact List.map_id sent
    · next h =>
        have none : (sent.map fun message => (socket, message)).filter
            (fun frame => frame.1 = other) = [] := by
          rw [List.filter_eq_nil_iff]
          intro frame hm
          obtain ⟨message, _, rfl⟩ := List.mem_map.mp hm
          simpa using fun he => h he.symm
        rw [none]
        rfl
  rw [framesOf, framesOf]
  show (transport.handed.filter _).map _ = _
  rw [h, List.filter_append, List.map_append, own]

end Frames

/-- Whoever was greeted got the greeting first, nobody else got anything, and
nothing that waits has a number ahead of the counter. -/
structure Served (page : CopresenceInstance) : Prop where
  wired : Wired page.transport.toWiring (page.greetings.map Prod.fst)
  heard : ∀ socket hello, (socket, hello) ∈ page.greetings →
    (page.framesOf socket).head? = some (.hello hello)
  unheard : ∀ socket, socket ∉ page.greetings.map Prod.fst → page.framesOf socket = []
  queued : ∀ message ∈ page.transport.queue.items, message.seq ≤ page.page.wire.seq
  adding : ∀ message ∈ page.adding, message.seq ≤ page.page.wire.seq

section Served

variable {page : CopresenceInstance}

/-- What is known of every socket says which frame was its first. -/
theorem Served.helloFirst (served : Served page) : HelloFirst page := by
  intro socket message first
  by_cases greeted : socket ∈ page.greetings.map Prod.fst
  · obtain ⟨⟨other, hello⟩, hm, rfl⟩ := List.mem_map.mp greeted
    have own := served.heard other hello hm
    exact ⟨hello, hm, Option.some.inj (first.symm.trans own)⟩
  · rw [served.unheard socket greeted] at first
    cases first

/-- Numbers may be drawn that no socket gets. -/
theorem Served.turn (served : Served page) {next : Page}
    (grown : page.page.wire.seq ≤ next.wire.seq) : Served { page with page := next } :=
  ⟨served.wired, served.heard, served.unheard,
    fun message hm => Int.le_trans (served.queued message hm) grown,
    fun message hm => Int.le_trans (served.adding message hm) grown⟩

/-- Reports wait for the storage with the numbers they have drawn. -/
theorem Served.emitAll (served : Served page) {emitted : Page × List AuditMessage}
    (draws : page.page.Draws emitted) : Served (page.emitAll emitted) := by
  refine { served.turn draws.1 with adding := ?_ }
  intro message hm
  rcases List.mem_append.mp hm with hm | hm
  · exact Int.le_trans (served.adding message hm) draws.1
  · exact draws.2 message hm

/-- The switches of the page are not what serves its sockets. -/
theorem Served.switch (served : Served page) (pointerCaptureActive listening pinging : Bool) :
    Served { page with pointerCaptureActive, listening, pinging } :=
  ⟨served.wired, served.heard, served.unheard, served.queued, served.adding⟩

/-- A connection that moves without sending. -/
theorem Served.move (served : Served page) {transport : Transport}
    (wired : Wired transport.toWiring (page.greetings.map Prod.fst))
    (silent : transport.queue = page.transport.queue ∧
      transport.handed = page.transport.handed) : Served { page with transport } := by
  refine ⟨wired, ?_, ?_, ?_, served.adding⟩
  · intro socket hello hm
    rw [framesOf_same silent.2]
    exact served.heard socket hello hm
  · intro socket hm
    rw [framesOf_same silent.2]
    exact served.unheard socket hm
  · rw [silent.1]
    exact served.queued

/-- Frames handed to a socket that was greeted come after its greeting. -/
theorem Served.hand (served : Served page) {transport : Transport} {socket : Nat}
    {sent : List InboundMessage} (same : transport.toWiring = page.transport.toWiring)
    (greeted : socket ∈ page.greetings.map Prod.fst)
    (handed : transport.handed =
      page.transport.handed ++ sent.map fun message => (socket, message))
    (queued : ∀ message ∈ transport.queue.items, message.seq ≤ page.page.wire.seq) :
    Served { page with transport } := by
  refine ⟨?_, ?_, ?_, queued, served.adding⟩
  · show Wired transport.toWiring _
    rw [same]
    exact served.wired
  · intro other hello hm
    rw [framesOf_append handed, List.head?_append, served.heard other hello hm]
    rfl
  · intro other hm
    have apart : other ≠ socket := fun he => hm (he ▸ greeted)
    rw [framesOf_append handed, if_neg apart, List.append_nil]
    exact served.unheard other hm

/-- The socket a page can write to is one it has greeted. -/
theorem observe_greeted {reading : SocketReading} {socket : Nat}
    (attached : page.transport.socket = some socket)
    (isOpen : (page.observe reading).isOpen = true) :
    socket ∈ page.greetings.map Prod.fst := by
  rw [observe, attached] at isOpen
  exact of_decide_eq_true (Bool.and_eq_true_iff.mp isOpen).2

/-- A message goes behind the hello of its socket, or into the queue. -/
theorem Served.send (served : Served page) {message : InboundMessage}
    (drawn : message.seq ≤ page.page.wire.seq) (reading : SocketReading) :
    Served { page with transport := page.transport.send message (page.observe reading) } := by
  have same := Transport.send_toWiring message (page.observe reading) page.transport
  obtain ⟨handed, kept⟩ := Transport.flushQueue_handed (page.observe reading)
    { page.transport with
      queue := page.transport.queue.enqueue message
      passed := page.transport.passed ++ [message] }
  have queued : ∀ other ∈ (page.transport.send message (page.observe reading)).queue.items,
      other.seq ≤ page.page.wire.seq := by
    intro other hm
    rcases OutboundQueue.mem_enqueue (kept other hm) with rfl | hm
    · exact drawn
    · exact served.queued other hm
  rcases handed with none | ⟨socket, sent, attached, isOpen, handed⟩
  · have unchanged : (page.transport.send message (page.observe reading)).handed =
        page.transport.handed := none
    refine ⟨?_, ?_, ?_, queued, served.adding⟩
    · show Wired (page.transport.send message (page.observe reading)).toWiring _
      rw [same]
      exact served.wired
    · intro socket hello hm
      rw [framesOf_same unchanged]
      exact served.heard socket hello hm
    · intro socket hm
      rw [framesOf_same unchanged]
      exact served.unheard socket hm
  · exact served.hand same (observe_greeted attached isOpen) handed queued

/-- A message that is built has a new number. -/
theorem Served.sendBuilt (served : Served page) {built : WireContext × InboundMessage}
    (grown : page.page.wire.seq ≤ built.1.seq) (drawn : built.2.seq ≤ built.1.seq)
    (reading : SocketReading) : Served (page.sendBuilt reading built) := by
  have turned : Served { page with page := { page.page with wire := built.1 } } := served.turn grown
  exact turned.send drawn reading

/-- A message that is built only sometimes is no exception. -/
theorem Served.sendBuilt_if (served : Served page) {built : WireContext × InboundMessage}
    (grown : page.page.wire.seq ≤ built.1.seq) (drawn : built.2.seq ≤ built.1.seq)
    (reading : SocketReading) (on : Bool) :
    Served (if on then page.sendBuilt reading built else page) := by
  split
  · exact served.sendBuilt grown drawn reading
  · exact served

variable {socket : Nat}

/-- An opening socket sends its hello first, which is queued as all else, and
then the queue. -/
theorem handleOpen_eq {transport : Transport} (notOpen : transport.currentStatus ≠ .open)
    (hello : HelloMessage) (greeting reading : SocketReading) :
    transport.handleOpen (handleStatusChange hello greeting) reading =
      (({ transport with reconnectAttempt := 0, currentStatus := .open } : Transport).send
        (.hello hello) greeting).flushQueue reading := by
  have changed : ({ transport with reconnectAttempt := 0 } : Transport).setStatus .open
      (handleStatusChange hello greeting) =
        ({ transport with reconnectAttempt := 0, currentStatus := .open } : Transport).send
          (.hello hello) greeting := by
    rw [Transport.setStatus, if_neg notOpen]
    rfl
  rw [Transport.handleOpen, changed]

/-- A socket that has just opened is handed the front of the queue, behind
which the hello was put. -/
theorem handleOpen_handed {transport : Transport} (notOpen : transport.currentStatus ≠ .open)
    (attached : transport.socket = some socket) (hello : HelloMessage)
    {greeting : SocketReading} (isOpen : greeting.isOpen = true)
    (calm : greeting.bufferedAmount 0 ≤ backpressureBytes) (reading : SocketReading) :
    (∃ first sent, (transport.queue.items ++ [InboundMessage.hello hello]).head? = some first ∧
      (transport.handleOpen (handleStatusChange hello greeting) reading).handed =
        transport.handed ++ (first :: sent).map fun message => (socket, message)) ∧
      ∀ message ∈ (transport.handleOpen (handleStatusChange hello greeting) reading).queue.items,
        message = .hello hello ∨ message ∈ transport.queue.items := by
  rw [handleOpen_eq notOpen]
  have items : (transport.queue.enqueue (.hello hello)).items =
      transport.queue.items ++ [.hello hello] := by
    apply OutboundQueue.enqueue_lossless
    show classify .hello ≠ .lossy
    decide
  obtain ⟨first, rest, hFirst⟩ : ∃ first rest,
      (transport.queue.enqueue (.hello hello)).items = first :: rest := by
    rw [items]
    exact List.exists_cons_of_ne_nil (by simp)
  obtain ⟨sent, handed⟩ := @Transport.flushQueue_front
    { transport with
      reconnectAttempt := 0
      currentStatus := .open
      queue := transport.queue.enqueue (.hello hello)
      passed := transport.passed ++ [.hello hello] } _ _ _ _ attached isOpen calm hFirst
  have greeted : (({ transport with reconnectAttempt := 0, currentStatus := .open } :
      Transport).send (.hello hello) greeting).handed =
        transport.handed ++ (first :: sent).map fun message => (socket, message) := handed
  have kept : ∀ message ∈ (({ transport with reconnectAttempt := 0, currentStatus := .open } :
      Transport).send (.hello hello) greeting).queue.items,
        message = .hello hello ∨ message ∈ transport.queue.items := by
    intro message hm
    exact OutboundQueue.mem_enqueue ((Transport.flushQueue_handed greeting _).2 message hm)
  have still : (({ transport with reconnectAttempt := 0, currentStatus := .open } :
      Transport).send (.hello hello) greeting).socket = some socket := by
    have same := congrArg Wiring.socket (Transport.send_toWiring (.hello hello) greeting
      { transport with reconnectAttempt := 0, currentStatus := .open })
    exact same.trans attached
  generalize ({ transport with reconnectAttempt := 0, currentStatus := .open } : Transport).send
    (.hello hello) greeting = sentHello at greeted kept still
  have head : (transport.queue.items ++ [InboundMessage.hello hello]).head? = some first := by
    rw [← items, hFirst]
    rfl
  obtain ⟨again, keptAgain⟩ := Transport.flushQueue_handed reading sentHello
  refine ⟨?_, fun message hm => kept message (keptAgain message hm)⟩
  rcases again with none | ⟨other, more, hOther, _, again⟩
  · exact ⟨first, sent, head, by rw [none, greeted]⟩
  · rw [still, Option.some.injEq] at hOther
    refine ⟨first, sent ++ more, head, ?_⟩
    rw [again, greeted, ← hOther, List.append_assoc, ← List.map_append, List.cons_append]

section Opened

variable {now : Int} {viewport : ViewportInfo} {state : VisibilityState}
  {greeting reading : SocketReading} (served : Served page)
  (attached : socket ∈ page.transport.listening) (notOpen : page.transport.currentStatus ≠ .open)

include served attached notOpen

/-- What the open event does to frames, queue and sockets. -/
theorem opened_spec :
    (∃ first sent, (page.transport.queue.items ++
          [InboundMessage.hello (buildHello page.page.wire now viewport state).2]).head? =
        some first ∧
      ∀ other, (page.opened socket now viewport state greeting reading).framesOf other =
        page.framesOf other ++ if other = socket then first :: sent else []) ∧
      (∀ message ∈ (page.opened socket now viewport state greeting
          reading).transport.queue.items,
        message = .hello (buildHello page.page.wire now viewport state).2 ∨
          message ∈ page.transport.queue.items) ∧
      Wired (page.opened socket now viewport state greeting reading).transport.toWiring
        (page.greetings.map Prod.fst ++ [socket]) := by
  have held : page.transport.socket = some socket := by
    have h := attached
    rw [served.wired.owned.attached, Option.mem_toList] at h
    exact h
  have unheard := served.unheard socket (served.wired.ungreeted socket held notOpen)
  have opened : page.opened socket now viewport state greeting reading =
      { page with
        page := { page.page with wire := (buildHello page.page.wire now viewport state).1 }
        greetings := page.greetings ++
          [(socket, (buildHello page.page.wire now viewport state).2)]
        transport := page.transport.handleOpen
          (handleStatusChange (buildHello page.page.wire now viewport state).2
            (observe { greeting with isOpen := true }
              { page with
                page := { page.page with wire := (buildHello page.page.wire now viewport state).1 }
                greetings := page.greetings ++
                  [(socket, (buildHello page.page.wire now viewport state).2)] })) reading
        pinging := true } := if_pos ⟨attached, notOpen⟩
  rw [opened]
  generalize hObserved : observe { greeting with isOpen := true }
    { page with
      page := { page.page with wire := (buildHello page.page.wire now viewport state).1 }
      greetings := page.greetings ++
        [(socket, (buildHello page.page.wire now viewport state).2)] } = observed
  have isOpen : observed.isOpen = true := by
    rw [← hObserved, observe, held]
    simp
  have calm : observed.bufferedAmount 0 ≤ backpressureBytes := by
    have nothing : observed.bufferedAmount 0 = 0 := by
      rw [← hObserved, observe, held]
      exact if_pos ⟨rfl, unheard⟩
    rw [nothing]
    decide
  obtain ⟨⟨first, sent, head, handed⟩, kept⟩ := handleOpen_handed notOpen held
    (buildHello page.page.wire now viewport state).2 isOpen calm reading
  exact ⟨⟨first, sent, head, framesOf_append handed⟩, kept,
    served.wired.handleOpen attached reading⟩

omit served in
/-- An opened socket has one greeting more than before, with the number its hello drew. -/
theorem opened_rest :
    (page.opened socket now viewport state greeting reading).greetings =
        page.greetings ++ [(socket, (buildHello page.page.wire now viewport state).2)] ∧
      (page.opened socket now viewport state greeting reading).adding = page.adding ∧
      (page.opened socket now viewport state greeting reading).page.wire.seq =
        page.page.wire.seq + 1 := by
  rw [CopresenceInstance.opened, if_pos ⟨attached, notOpen⟩]
  exact ⟨rfl, rfl, rfl⟩

/-- With nothing queued, the hello is what comes first. -/
theorem Served.opened (drained : page.transport.queue.items = []) :
    Served (page.opened socket now viewport state greeting reading) := by
  obtain ⟨⟨first, sent, head, frames⟩, kept, wired⟩ :=
    @opened_spec _ _ now viewport state greeting reading served attached notOpen
  obtain ⟨greetings, adding, seq⟩ :=
    @opened_rest _ _ now viewport state greeting reading attached notOpen
  rw [drained] at head
  have isHello : first = .hello (buildHello page.page.wire now viewport state).2 :=
    (Option.some.inj head).symm
  constructor
  · rw [greetings, List.map_append]
    exact wired
  · intro other hello hm
    rw [greetings] at hm
    rw [frames]
    rcases List.mem_append.mp hm with hm | hm
    · rw [List.head?_append, served.heard other hello hm]
      rfl
    · obtain ⟨rfl, rfl⟩ := Prod.mk.inj (List.mem_singleton.mp hm)
      have unheard : page.framesOf other = [] := by
        apply served.unheard
        apply served.wired.ungreeted other _ notOpen
        have h := attached
        rw [served.wired.owned.attached, Option.mem_toList] at h
        exact h
      rw [unheard, if_pos rfl, isHello]
      rfl
  · intro other hm
    rw [greetings, List.map_append, List.mem_append, not_or] at hm
    have apart : other ≠ socket := fun he => hm.2 (by rw [he]; exact List.mem_singleton_self _)
    rw [frames, if_neg apart, List.append_nil]
    exact served.unheard other hm.1
  · intro message hm
    rw [seq]
    rcases kept message hm with rfl | hm
    · exact Int.le_refl _
    · exact Int.le_trans (served.queued message hm) (Int.le_of_lt (Int.lt_succ _))
  · rw [adding, seq]
    intro message hm
    exact Int.le_trans (served.adding message hm) (Int.le_of_lt (Int.lt_succ _))

/-- What waits in the queue goes first, and was built before the hello. -/
theorem opened_drained
    (first : HelloFirst (page.opened socket now viewport state greeting reading)) :
    page.transport.queue.items = [] := by
  obtain ⟨⟨front, sent, head, frames⟩, _, _⟩ :=
    @opened_spec _ _ now viewport state greeting reading served attached notOpen
  obtain ⟨greetings, _, _⟩ :=
    @opened_rest _ _ now viewport state greeting reading attached notOpen
  have ungreeted : socket ∉ page.greetings.map Prod.fst := by
    apply served.wired.ungreeted socket _ notOpen
    have h := attached
    rw [served.wired.owned.attached, Option.mem_toList] at h
    exact h
  have handed : ((page.opened socket now viewport state greeting reading).framesOf
      socket).head? = some front := by
    rw [frames, served.unheard socket ungreeted, if_pos rfl]
    rfl
  obtain ⟨hello, hm, he⟩ := first socket front handed
  rw [greetings] at hm
  rcases List.mem_append.mp hm with hm | hm
  · exact absurd (List.mem_map_of_mem hm) ungreeted
  · obtain ⟨_, rfl⟩ := Prod.mk.inj (List.mem_singleton.mp hm)
    cases hq : page.transport.queue.items with
    | nil => rfl
    | cons waiting rest =>
        rw [hq, List.cons_append, List.head?_cons, Option.some.injEq] at head
        have old := served.queued waiting (by rw [hq]; exact List.mem_cons_self)
        rw [head, he] at old
        have new : (InboundMessage.hello (buildHello page.page.wire now viewport state).2).seq =
            page.page.wire.seq + 1 := rfl
        rw [new] at old
        omega

end Opened

end Served

/-- A closed socket gets no frame any more. -/
theorem Served.closed {page : CopresenceInstance} (served : Served page) {socket : Nat} :
    Served (page.handleClose (page.transport.step (.closed socket fun _ => []))) := by
  have moved : Served { page with transport := page.transport.step (.closed socket fun _ => []) } := by
    apply served.move
    · show Wired (if socket ∈ page.transport.listening then _ else _ : Transport).toWiring _
      split
      · next attached =>
          exact Wired.handleClose (served.wired.reported _) attached
      · exact served.wired.reported _
    · exact Transport.handleClose_if_silent _ (socket ∈ page.transport.listening)
  exact moved.switch _ _ _

/-- A failed socket is left in the same way. -/
theorem Served.errored {page : CopresenceInstance} (served : Served page) {socket : Nat} :
    Served (page.handleClose (page.transport.step (.errored socket fun _ => []))) := by
  have moved : Served { page with
      transport := page.transport.step (.errored socket fun _ => []) } := by
    apply served.move
    · show Wired (if socket ∈ page.transport.listening then _ else _ : Transport).toWiring _
      split
      · next attached => exact served.wired.handleClose attached
      · exact served.wired
    · exact Transport.handleClose_if_silent _ (socket ∈ page.transport.listening)
  exact moved.switch _ _ _

/-- A timer opens a socket that has no frame yet. -/
theorem Served.timer {page : CopresenceInstance} (served : Served page) (handle : Nat) :
    Served { page with transport := page.transport.step (.timer handle fun _ => []) } := by
  apply served.move
  · show Wired (if handle ∈ page.transport.pending then _ else _ : Transport).toWiring _
    split
    · next fires => exact served.wired.timer fires
    · exact served.wired
  · show (if handle ∈ page.transport.pending then _ else _ : Transport).queue = _ ∧
      (if handle ∈ page.transport.pending then _ else _ : Transport).handed = _
    split
    · exact Transport.openSocket_silent _
    · exact ⟨rfl, rfl⟩

/-- A report that storage is done with waits no more. -/
theorem Served.erase {page : CopresenceInstance} (served : Served page) (index : Nat) :
    Served { page with adding := page.adding.eraseIdx index } :=
  ⟨served.wired, served.heard, served.unheard, served.queued,
    fun message hm => served.adding message (List.mem_of_mem_eraseIdx hm)⟩

/-- A stored report is sent with the number it drew before. -/
theorem Served.added {page : CopresenceInstance} (served : Served page) (index : Nat)
    (reading : SocketReading) : Served (page.added index reading) := by
  rw [CopresenceInstance.added]
  split
  · exact served
  · next message h =>
      have drawn := served.adding message (List.mem_of_getElem? h)
      by_cases isOpen : page.transport.currentStatus = .open
      · rw [if_pos isOpen]
        have sent := @Served.send _ served (.audit message) drawn reading
        exact sent.erase index
      · rw [if_neg isOpen]
        exact served.erase index

/-- A page that is hidden or shown says so behind its hello. -/
theorem Served.visibilityChange {page : CopresenceInstance} (served : Served page) (now : Int)
    (viewport : ViewportInfo) (state : VisibilityState) (changeId sessionId : EventId)
    (reading : SocketReading) :
    Served (page.visibilityChange now viewport state changeId sessionId reading) := by
  have captured := served.switch (decide (state = VisibilityState.visible)) page.listening
    page.pinging
  rw [CopresenceInstance.visibilityChange]
  split
  · exact (captured.sendBuilt (Int.le_of_lt (Int.lt_succ _)) (Int.le_refl _) reading).emitAll
      (Page.draws_onVisibilityChange ..)
  · exact captured.emitAll (Page.draws_onVisibilityChange ..)

/-- Every step keeps it, if the socket that opens finds the queue empty. -/
theorem Served.step {page : CopresenceInstance} (served : Served page) {event : InstanceEvent}
    (drained : OpensDrained page event) : Served (page.step event) := by
  cases event with
  | connect now eventId state =>
      have moved := (served.move served.wired.connect
        (Transport.connect_silent page.transport)).switch true true page.pinging
      exact moved.emitAll (Page.draws_start ..)
  | disconnect now reading =>
      have left := @Served.sendBuilt _ served ((buildBye page.page.wire now).map id .bye)
        (Int.le_of_lt (Int.lt_succ _)) (Int.le_refl _) reading
      exact (left.move left.wired.disconnect (Transport.disconnect_silent _)).switch false false false
  | opened socket now viewport state greeting reading =>
      by_cases guard : socket ∈ page.transport.listening ∧ page.transport.currentStatus ≠ .open
      · exact served.opened guard.1 guard.2
          (drained socket now viewport state greeting reading rfl guard.1 guard.2)
      · have same : page.step (.opened socket now viewport state greeting reading) = page :=
          if_neg guard
        rw [same]
        exact served
  | closed socket => exact served.closed
  | errored socket => exact served.errored
  | timer handle => exact served.timer handle
  | pointer now x y reading =>
      exact served.sendBuilt_if (Int.le_of_lt (Int.lt_succ _)) (Int.le_refl _) reading _
  | scroll now x y reading =>
      exact served.sendBuilt_if (Int.le_of_lt (Int.lt_succ _)) (Int.le_refl _) reading _
  | ping now reading =>
      exact served.sendBuilt_if (Int.le_of_lt (Int.lt_succ _)) (Int.le_refl _) reading _
  | visibilityChange now viewport state changeId sessionId reading =>
      rw [CopresenceInstance.step]
      split
      · exact served.visibilityChange now viewport state changeId sessionId reading
      · exact served
  | added index reading => exact served.added index reading
  | addFailed index => exact served.erase index

/-- A page that has just begun has sent nothing. -/
theorem served_initial (wire : WireContext) : Served { page := { wire } } := by
  refine ⟨⟨Transport.owned_initial, ?_, ?_, ?_⟩, ?_, ?_, ?_, ?_⟩
  · intro socket hm
    cases hm
  · intro socket attached
    cases attached
  · intro socket attached
    cases attached
  · intro socket hello hm
    cases hm
  · intro socket _
    rfl
  · intro message hm
    cases hm
  · intro message hm
    cases hm

/-- In every run of a page, the hello is the first frame of every socket
throughout exactly when every socket that opens finds the queue empty. -/
theorem helloFirst_always_iff (wire : WireContext) (events : List InstanceEvent) :
    Transition.Always step HelloFirst { page := { wire } } events ↔
      Transition.Along step OpensDrained { page := { wire } } events := by
  apply Transition.always_iff_along_of_kept (R := Served)
  · exact fun _ served => served.helloFirst
  · rintro page _ (_ : True) served first socket now viewport state greeting reading rfl attached notOpen
    have same : page.step (.opened socket now viewport state greeting reading) =
        page.opened socket now viewport state greeting reading := rfl
    rw [same] at first
    exact opened_drained served attached notOpen first
  · exact fun _ _ _ served drained => served.step drained
  · exact served_initial wire
  · exact fun _ _ => trivial

open Scenario

/-- The pointer moves before the first socket is open. -/
def earlyPointer : List InstanceEvent :=
  [.connect 0 (freshId 1) .visible, .pointer 1 1 4 ⟨false, fun _ => 0⟩,
    .opened 0 2 ⟨800, 600, 1⟩ .visible ⟨true, fun _ => 0⟩ ⟨true, fun _ => 0⟩]

/-- The socket gets the cursor first, and the server turns it down. -/
theorem earlyPointer_refused :
    ¬ Transition.Always step HelloFirst { page := { wire := createWireContext session alice } }
        earlyPointer ∧
      ∃ frame, ((Transition.run step { page := { wire := createWireContext session alice } }
          earlyPointer).framesOf 0).head? = some frame ∧
        ∀ ctx, ctx.pid = none → judge ctx (.parsed frame) =
          .refused .unauthorized "hello must be the first message on a connection" := by
  have handed : ((Transition.run step { page := { wire := createWireContext session alice } }
      earlyPointer).framesOf 0).head? =
        some (.cursor { envelope session alice 2 1 with x := 1, y := 4 }) := by
    rfl
  refine ⟨?_, _, handed, ?_⟩
  · intro always
    have first := Transition.always_iff_prefix.mp always earlyPointer (List.prefix_refl _)
    obtain ⟨hello, _, he⟩ := first 0 _ handed
    cases he
  · intro ctx unknown
    rw [judge]
    show (if _ then _ else _) = _
    exact if_pos ⟨unknown, rfl⟩

end CopresenceInstance

end Copresence
