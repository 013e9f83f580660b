import Copresence.Server.Reaching

/-! The transport around a server: which sockets it accepts, the heartbeat that
tells silent ones apart, and the shutdown. -/
namespace Copresence

open Transition

/-- `Config` with the beats a client may miss. -/
structure GatewayConfig extends Config where
  heartbeatMaxMissed : Nat

/-- `clients` are the connected ones, in order, those refused included until they
have closed; `seen` lists every socket that ever connected. `pinged`, `terminated`
and `closeCodes` have what the sockets were told so far. -/
structure Gateway where
  server : Server := Server.initial
  clients : List SocketId := []
  seen : List SocketId := []
  missedPongs : SocketId → Option Nat := fun _ => none
  shuttingDown : Bool := false
  pinged : List SocketId := []
  terminated : List SocketId := []
  closeCodes : List (SocketId × Nat) := []

/-- What happens to the process: the events of its sockets, those of its timers,
a beacon, and the signal to stop. `sid` is the query parameter of a connection. -/
inductive GatewayEvent where
  | connection (socket : SocketId) (sid : Option String)
  | pong (socket : SocketId)
  | message (socket : SocketId) (frame : RawFrame)
  | closing (socket : SocketId)
  | closed (socket : SocketId)
  | beat
  | tick
  | reap
  | reconcile
  | beacon (frame : RawFrame)
  | shutdown
deriving DecidableEq

def SessionIdSchema (value : Option String) : Option SessionId :=
  match value with
  | none => none
  | some value => if h : value ≠ "" then some ⟨value, h⟩ else none

namespace Gateway

variable (cfg : GatewayConfig)

/-- The socket has the handlers of an accepted connection. -/
def accepted (gateway : Gateway) (socket : SocketId) : Bool :=
  (gateway.server.contexts socket).isSome

/-- Hand an event to the server. -/
def serve (time : Int) (event : ServerEvent) (gateway : Gateway) : Gateway :=
  { gateway with server := gateway.server.step cfg.toConfig { time, event } }

/-- A socket connects once, and none after the server has closed. Without a session
it is closed at once, and has no handlers. -/
def connection (time : Int) (socket : SocketId) (sid : Option String) (gateway : Gateway) :
    Gateway :=
  if gateway.shuttingDown || decide (socket ∈ gateway.seen) then gateway
  else
    let connected :=
      { gateway with
        clients := gateway.clients ++ [socket]
        seen := gateway.seen ++ [socket] }
    match SessionIdSchema sid with
    | none => { connected with closeCodes := connected.closeCodes ++ [(socket, 1008)] }
    | some sid =>
      { connected.serve cfg time (.connect socket sid) with
        missedPongs := Function.update connected.missedPongs socket (some 0) }

def pong (socket : SocketId) (gateway : Gateway) : Gateway :=
  if socket ∈ gateway.clients ∧ gateway.accepted socket then
    { gateway with missedPongs := Function.update gateway.missedPongs socket (some 0) }
  else gateway

/-- One turn of the loop of a beat. A terminated socket is open no longer, and
connected until it has closed. -/
def beatSocket (time : Int) (gateway : Gateway) (socket : SocketId) : Gateway :=
  let missed := (gateway.missedPongs socket).getD 0
  if missed ≥ cfg.heartbeatMaxMissed then
    { gateway.serve cfg time (.closing socket) with
      terminated := gateway.terminated ++ [socket] }
  else
    { gateway with
      missedPongs := Function.update gateway.missedPongs socket (some (missed + 1))
      pinged := gateway.pinged ++ [socket] }

def beat (time : Int) (gateway : Gateway) : Gateway :=
  if gateway.shuttingDown then gateway
  else gateway.clients.foldl (beatSocket cfg time) gateway

/-- Close a client as the server goes away. -/
def goAway (time : Int) (gateway : Gateway) (socket : SocketId) : Gateway :=
  { gateway.serve cfg time (.closing socket) with
    closeCodes := gateway.closeCodes ++ [(socket, 1001)] }

/-- The timers stop with the first signal, a second one does nothing. -/
def shutdown (time : Int) (gateway : Gateway) : Gateway :=
  if gateway.shuttingDown then gateway
  else gateway.clients.foldl (goAway cfg time) { gateway with shuttingDown := true }

/-- A timer of the server, as long as it runs. -/
def timer (time : Int) (event : ServerEvent) (gateway : Gateway) : Gateway :=
  if gateway.shuttingDown then gateway else gateway.serve cfg time event

def step (gateway : Gateway) (stamped : Int × GatewayEvent) : Gateway :=
  match stamped.2 with
  | .connection socket sid => gateway.connection cfg stamped.1 socket sid
  | .pong socket => gateway.pong socket
  | .message socket frame => gateway.serve cfg stamped.1 (.message socket frame)
  | .closing socket => gateway.serve cfg stamped.1 (.closing socket)
  | .closed socket =>
    { gateway.serve cfg stamped.1 (.close socket) with
      clients := gateway.clients.filter (· ≠ socket) }
  | .beat => gateway.beat cfg stamped.1
  | .tick => gateway.timer cfg stamped.1 .tick
  | .reap => gateway.timer cfg stamped.1 .reap
  | .reconcile => gateway.timer cfg stamped.1 .reconcile
  | .beacon frame => gateway.serve cfg stamped.1 (.beacon frame)
  | .shutdown => gateway.shutdown cfg stamped.1

/-- A loop over sockets that runs the server in each turn is a run of the server. -/
theorem server_foldl {turn : Gateway → SocketId → Gateway}
    (one : ∀ gateway socket, ∃ events,
      (turn gateway socket).server = Server.run cfg.toConfig gateway.server events)
    (sockets : List SocketId) (gateway : Gateway) :
    ∃ events, (sockets.foldl turn gateway).server =
      Server.run cfg.toConfig gateway.server events := by
  induction sockets generalizing gateway with
  | nil => exact ⟨[], rfl⟩
  | cons first rest ih =>
      obtain ⟨early, hEarly⟩ := one gateway first
      obtain ⟨late, hLate⟩ := ih (turn gateway first)
      refine ⟨early ++ late, ?_⟩
      rw [List.foldl_cons, hLate, hEarly]
      exact (run_append _ _ _ _).symm

/-- What a gateway's event does to the server is a run of the server. -/
theorem server_step (gateway : Gateway) (stamped : Int × GatewayEvent) :
    ∃ events, (gateway.step cfg stamped).server =
      Server.run cfg.toConfig gateway.server events := by
  have served : ∀ (gateway : Gateway) (event : ServerEvent), ∃ events,
      (gateway.serve cfg stamped.1 event).server =
        Server.run cfg.toConfig gateway.server events :=
    fun gateway event => ⟨[{ time := stamped.1, event }], rfl⟩
  have timed : ∀ event : ServerEvent, ∃ events,
      (gateway.timer cfg stamped.1 event).server =
        Server.run cfg.toConfig gateway.server events := by
    intro event
    rw [timer]
    split
    · exact ⟨[], rfl⟩
    · exact served gateway event
  rw [step]
  cases stamped.2 with
  | connection socket sid =>
      dsimp only
      rw [connection]
      split
      · exact ⟨[], rfl⟩
      · dsimp only
        cases SessionIdSchema sid with
        | none => exact ⟨[], rfl⟩
        | some parsed => exact served gateway (.connect socket parsed)
  | pong socket =>
      dsimp only
      rw [pong]
      split
      · exact ⟨[], rfl⟩
      · exact ⟨[], rfl⟩
  | message socket frame => exact served gateway (.message socket frame)
  | closing socket => exact served gateway (.closing socket)
  | closed socket => exact served gateway (.close socket)
  | beacon frame => exact served gateway (.beacon frame)
  | beat =>
      dsimp only
      rw [beat]
      split
      · exact ⟨[], rfl⟩
      · apply server_foldl cfg
        intro gateway socket
        rw [beatSocket]
        dsimp only
        split
        · exact served gateway (.closing socket)
        · exact ⟨[], rfl⟩
  | tick | reap | reconcile => exact timed _
  | shutdown =>
      dsimp only
      rw [shutdown]
      split
      · exact ⟨[], rfl⟩
      · apply server_foldl cfg _ gateway.clients { gateway with shuttingDown := true }
        exact fun gateway socket => served gateway (.closing socket)

/-- Whatever holds of every run of a server holds of the one behind the sockets. -/
theorem server_run (gateway : Gateway) (events : List (Int × GatewayEvent)) :
    ∃ served, (run (step cfg) gateway events).server =
      Server.run cfg.toConfig gateway.server served := by
  apply invariant_run (P := fun reached : Gateway => ∃ served,
    reached.server = Server.run cfg.toConfig gateway.server served) _ ⟨[], rfl⟩
  rintro reached stamped ⟨early, hEarly⟩
  obtain ⟨late, hLate⟩ := server_step cfg reached stamped
  refine ⟨early ++ late, ?_⟩
  rw [hLate, hEarly]
  exact (run_append _ _ _ _).symm

end Gateway

end Copresence
