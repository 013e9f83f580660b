import Copresence.Properties.Heartbeat

/-! Who is out of reach for good: a client a beat has ended, and everybody once the
process was told to stop. -/
namespace Copresence

open Transition

namespace Server

variable {cfg : Config} {server : Server} {stamped : Stamped} {socket : SocketId}

/-- A step writes only to sockets that are open before it. -/
theorem step_writes_open (cfg : Config) (server : Server) (stamped : Stamped) :
    ∃ writes, (server.step cfg stamped).outbound = server.outbound ++ writes ∧
      ∀ write ∈ writes, server.isOpen write.socket = true := by
  have silent : ∀ after : Server, after.outbound = server.outbound →
      ∃ writes, after.outbound = server.outbound ++ writes ∧
        ∀ write ∈ writes, server.isOpen write.socket = true :=
    fun after same => ⟨[], by rw [same, List.append_nil], by simp⟩
  rw [step]
  split
  · apply silent
    rw [Server.connect]
    split <;> rfl
  · next socket frame _ =>
      rw [message]
      split
      · exact silent server rfl
      · next ctx _ => exact (reaches_realtimeMessage stamped.time ctx server frame).writes
  · apply silent
    rw [Server.closing]
    split <;> rfl
  · next socket _ =>
      rw [Server.close]
      split
      · exact silent server rfl
      · next ctx _ =>
          obtain ⟨writes, isOutbound, opened⟩ := (reaches_disconnect cfg stamped.time ctx
            (server.setReadyState socket .closed)).writes
          refine ⟨writes, isOutbound, ?_⟩
          intro write listed
          have open' := opened write listed
          simp only [isOpen, readyState_setReadyState] at open' ⊢
          split at open'
          · cases open'
          · exact open'
  · exact (reaches_tick stamped.time server).writes
  · exact (reaches_reap cfg stamped.time server).writes
  · exact (reaches_reconcile cfg stamped.time server).writes
  · next frame _ => exact (reaches_beacon stamped.time server frame).writes

/-- Only a connection opens a socket. -/
theorem isOpen_of_step (cfg : Config) (server : Server) (stamped : Stamped)
    (other : ∀ opened sid, stamped.event ≠ .connect opened sid)
    (isOpen : (server.step cfg stamped).isOpen socket = true) : server.isOpen socket = true := by
  have moved := (step_effect cfg server stamped).readyState socket
  have notConnect : ∀ opened sid, server.action stamped ≠ .connect opened sid :=
    action_ne_connect other
  simp only [Server.isOpen, decide_eq_true_eq] at isOpen ⊢
  rw [moved] at isOpen
  cases hAction : server.action stamped with
  | connect opened sid => exact absurd hAction (notConnect opened sid)
  | closing opened =>
      rw [hAction, Action.onReadyState] at isOpen
      split at isOpen
      · cases isOpen
      · exact isOpen
  | close ctx =>
      rw [hAction, Action.onReadyState] at isOpen
      split at isOpen
      · cases isOpen
      · exact isOpen
  | idle | hello | presence | bye | tick | reap =>
      rw [hAction] at isOpen
      exact isOpen

/-- A socket told to close is open no longer. -/
theorem not_isOpen_closing (cfg : Config) (server : Server) (time : Int) (socket : SocketId) :
    (server.step cfg { time, event := .closing socket }).isOpen socket = false := by
  show (server.closing socket).isOpen socket = false
  rw [Server.closing]
  split
  · simp [Server.isOpen, readyState_setReadyState]
  · next shut => simpa using shut

/-- Nor is one that has closed. -/
theorem not_isOpen_close (cfg : Config) (time : Int) (held : (server.contexts socket).isSome = true) :
    (server.step cfg { time, event := .close socket }).isOpen socket = false := by
  show (server.close cfg time socket).isOpen socket = false
  rw [Server.close, liveContext]
  by_cases closed : server.readyState socket = .closed
  · rw [if_pos closed]
    simp [Server.isOpen, closed]
  · rw [if_neg closed]
    obtain ⟨ctx, found⟩ := Option.isSome_iff_exists.mp held
    rw [found]
    dsimp only
    have kept := (reaches_disconnect cfg time ctx (server.setReadyState socket .closed)).readyState
    simp [Server.isOpen, kept, readyState_setReadyState]

/-- A socket that connects has a context. -/
theorem contexts_connect (cfg : Config) (server : Server) (time : Int) (socket : SocketId)
    (sid : SessionId) :
    ((server.step cfg { time, event := .connect socket sid }).contexts socket).isSome = true := by
  show ((server.connect time socket sid).contexts socket).isSome = true
  rw [Server.connect]
  split
  · next ctx found => simp [found]
  · show ((server.setContext _).contexts socket).isSome = true
    rw [setContext_contexts, if_pos (by rfl)]
    rfl

/-- A connect opens its own socket and no other. -/
theorem isOpen_of_connect {sid : SessionId} {time : Int} {opened : SocketId}
    (isOpen : (server.step cfg { time, event := .connect opened sid }).isOpen socket = true) :
    socket = opened ∨ server.isOpen socket = true := by
  have moved : (server.connect time opened sid).isOpen socket = true := isOpen
  rw [Server.connect] at moved
  split at moved
  · right
    exact moved
  · by_cases own : socket = opened
    · left
      exact own
    · right
      simp only [Server.isOpen, readyState_setReadyState, if_neg own] at moved
      exact moved

end Server

namespace Gateway

variable (cfg : GatewayConfig) (time : Int) {gateway : Gateway}

/-- Open sockets are clients; those a beat ended are not open, and none is once the
process is going down. -/
structure Guarded (gateway : Gateway) : Prop where
  known : ∀ socket ∈ gateway.clients, socket ∈ gateway.seen
  clients : ∀ socket, gateway.server.isOpen socket = true → socket ∈ gateway.clients
  held : ∀ socket, gateway.server.isOpen socket = true → gateway.accepted socket = true
  ended : ∀ socket ∈ gateway.terminated,
    socket ∈ gateway.seen ∧ gateway.server.isOpen socket = false
  down : gateway.shuttingDown = true → ∀ socket, gateway.server.isOpen socket = false

/-- What a step leaves behind. -/
structure Grows (before after : Gateway) : Prop where
  terminated : ∀ socket ∈ before.terminated, socket ∈ after.terminated
  down : before.shuttingDown = true → after.shuttingDown = true
  writes : ∃ writes, after.server.outbound = before.server.outbound ++ writes ∧
    ∀ write ∈ writes, before.server.isOpen write.socket = true

/-- What writes nothing and ends nobody loses nothing of what was left behind. -/
theorem grows_same {before after : Gateway} (terminated : after.terminated = before.terminated)
    (down : after.shuttingDown = before.shuttingDown)
    (outbound : after.server.outbound = before.server.outbound) : Grows before after := by
  constructor
  · intro socket listed
    rwa [terminated]
  · intro isDown
    rwa [down]
  · exact ⟨[], by rw [outbound, List.append_nil], by simp⟩

/-- Serving an event only adds to what was written. -/
theorem grows_serve (gateway : Gateway) (event : ServerEvent) :
    Grows gateway (gateway.serve cfg time event) where
  terminated := fun _ listed => listed
  down := id
  writes := Server.step_writes_open cfg.toConfig gateway.server { time, event }

/-- Events of the server but a connection close sockets, if anything. -/
theorem Guarded.serve (guarded : gateway.Guarded) {event : ServerEvent}
    (other : ∀ opened sid, event ≠ .connect opened sid) :
    (gateway.serve cfg time event).Guarded := by
  have before : ∀ socket, (gateway.serve cfg time event).server.isOpen socket = true →
      gateway.server.isOpen socket = true :=
    fun socket => Server.isOpen_of_step cfg.toConfig gateway.server { time, event } other
  constructor
  · exact guarded.known
  · exact fun socket isOpen => guarded.clients socket (before socket isOpen)
  · intro socket isOpen
    rw [gateway.accepted_serve cfg time other]
    exact guarded.held socket (before socket isOpen)
  · intro socket listed
    refine ⟨(guarded.ended socket listed).1, ?_⟩
    by_contra isOpen
    have was := before socket (by simpa using isOpen)
    rw [(guarded.ended socket listed).2] at was
    cases was
  · intro down socket
    by_contra isOpen
    have was := before socket (by simpa using isOpen)
    rw [guarded.down down socket] at was
    cases was

/-- A socket that begins to close is sent nothing. -/
theorem closing_outbound (server : Server) (socket : SocketId) :
    (server.closing socket).outbound = server.outbound := by
  rw [Server.closing]
  split <;> rfl

/-- A connection that is accepted is a client, and none is after the shutdown. -/
theorem Guarded.connection (guarded : gateway.Guarded) (socket : SocketId) (sid : Option String) :
    (gateway.connection cfg time socket sid).Guarded := by
  rw [Gateway.connection]
  split
  · exact guarded
  · next fresh =>
      rw [Bool.or_eq_true, decide_eq_true_eq, not_or] at fresh
      have running : gateway.shuttingDown = false := by simpa using fresh.1
      have known : ∀ other ∈ gateway.clients ++ [socket], other ∈ gateway.seen ++ [socket] := by
        intro other listed
        rcases List.mem_append.mp listed with listed | listed
        · exact List.mem_append_left _ (guarded.known other listed)
        · exact List.mem_append_right _ listed
      dsimp only
      cases SessionIdSchema sid with
      | none =>
          constructor
          · exact known
          · exact fun other isOpen => List.mem_append_left _ (guarded.clients other isOpen)
          · exact guarded.held
          · intro other listed
            have ended := guarded.ended other listed
            exact ⟨List.mem_append_left _ ended.1, ended.2⟩
          · exact guarded.down
      | some parsed =>
          have opens : ∀ other, (gateway.server.step cfg.toConfig
              { time, event := .connect socket parsed }).isOpen other = true →
              other = socket ∨ gateway.server.isOpen other = true :=
            fun other => Server.isOpen_of_connect
          constructor
          · exact known
          · intro other isOpen
            rcases opens other isOpen with rfl | was
            · exact List.mem_append_right _ (List.mem_singleton_self _)
            · exact List.mem_append_left _ (guarded.clients other was)
          · intro other isOpen
            by_cases own : other = socket
            · rw [own]
              exact Server.contexts_connect cfg.toConfig gateway.server time socket parsed
            · have was := (opens other isOpen).resolve_left own
              exact (gateway.accepted_connect cfg time parsed own).trans (guarded.held other was)
          · intro other listed
            have ended := guarded.ended other listed
            refine ⟨List.mem_append_left _ ended.1, ?_⟩
            by_contra isOpen
            rcases opens other (eq_true_of_ne_false isOpen) with rfl | was
            · exact fresh.2 ended.1
            · rw [ended.2] at was
              cases was
          · intro down
            rw [show gateway.shuttingDown = true from down] at running
            cases running

/-- A new connection only adds to what was written. -/
theorem grows_connection (gateway : Gateway) (socket : SocketId) (sid : Option String) :
    Grows gateway (gateway.connection cfg time socket sid) := by
  rw [Gateway.connection]
  split
  · exact grows_same rfl rfl rfl
  · dsimp only
    cases SessionIdSchema sid with
    | none => exact grows_same rfl rfl rfl
    | some parsed =>
        constructor
        · exact fun _ listed => listed
        · exact id
        · exact Server.step_writes_open cfg.toConfig gateway.server
            { time, event := .connect socket parsed }

/-- A client a beat ends is closed to the server. -/
theorem Guarded.beatSocket (guarded : gateway.Guarded) {socket : SocketId}
    (client : socket ∈ gateway.clients) : (gateway.beatSocket cfg time socket).Guarded := by
  rw [Gateway.beatSocket]
  dsimp only
  split
  · have closed : (gateway.serve cfg time (.closing socket)).Guarded :=
      guarded.serve cfg time (by simp)
    constructor
    · exact closed.known
    · exact closed.clients
    · exact closed.held
    · intro other listed
      rcases List.mem_append.mp listed with listed | listed
      · exact closed.ended other listed
      · rw [List.mem_singleton.mp listed]
        exact ⟨guarded.known socket client,
          Server.not_isOpen_closing cfg.toConfig gateway.server time socket⟩
    · exact closed.down
  · exact ⟨guarded.known, guarded.clients, guarded.held, guarded.ended, guarded.down⟩

/-- The turn of one client in a beat writes nothing and keeps the clients. -/
theorem beatSocket_rest (gateway : Gateway) (socket : SocketId) :
    (gateway.beatSocket cfg time socket).clients = gateway.clients ∧
      (gateway.beatSocket cfg time socket).server.outbound = gateway.server.outbound := by
  rw [Gateway.beatSocket]
  dsimp only
  split
  · exact ⟨rfl, closing_outbound _ _⟩
  · exact ⟨rfl, rfl⟩

/-- Beating all clients keeps the ended ones closed. -/
theorem Guarded.foldl_beatSocket (guarded : gateway.Guarded) :
    (gateway.clients.foldl (Gateway.beatSocket cfg time) gateway).Guarded ∧
      (gateway.clients.foldl (Gateway.beatSocket cfg time) gateway).server.outbound =
        gateway.server.outbound := by
  have both : (run (Gateway.beatSocket cfg time) gateway gateway.clients).Guarded ∧
      (run (Gateway.beatSocket cfg time) gateway gateway.clients).clients = gateway.clients ∧
      (run (Gateway.beatSocket cfg time) gateway gateway.clients).server.outbound =
        gateway.server.outbound := by
    apply invariant_run_mem (P := fun after : Gateway => after.Guarded ∧ after.clients = gateway.clients ∧
      after.server.outbound = gateway.server.outbound) ⟨guarded, rfl, rfl⟩
    rintro after socket client ⟨kept, clients, outbound⟩
    have rest := beatSocket_rest cfg time after socket
    rw [rest.1, rest.2]
    exact ⟨kept.beatSocket cfg time (clients ▸ client), clients, outbound⟩
  exact ⟨both.1, both.2.2⟩

/-- Beating all clients only adds to those that were ended. -/
theorem grows_foldl_beatSocket (gateway : Gateway) :
    Grows gateway (gateway.clients.foldl (Gateway.beatSocket cfg time) gateway) := by
  have kept : ∀ after : Gateway, after = run (Gateway.beatSocket cfg time) gateway gateway.clients →
      (∀ socket ∈ gateway.terminated, socket ∈ after.terminated) ∧
        after.shuttingDown = gateway.shuttingDown ∧
        after.server.outbound = gateway.server.outbound := by
    rintro _ rfl
    apply invariant_run (P := fun after : Gateway =>
      (∀ socket ∈ gateway.terminated, socket ∈ after.terminated) ∧
        after.shuttingDown = gateway.shuttingDown ∧
        after.server.outbound = gateway.server.outbound) _ ⟨fun _ listed => listed, rfl, rfl⟩
    rintro after socket ⟨terminated, down, outbound⟩
    rw [Gateway.beatSocket]
    dsimp only
    split
    · refine ⟨?_, down, (closing_outbound _ _).trans outbound⟩
      exact fun other listed => List.mem_append_left _ (terminated other listed)
    · exact ⟨terminated, down, outbound⟩
  have kept := kept _ rfl
  constructor
  · exact kept.1
  · intro isDown
    rw [← isDown]
    exact kept.2.1
  · exact ⟨[], by rw [List.append_nil]; exact kept.2.2, by simp⟩

/-- Going away closes the sockets and changes nothing else. -/
theorem foldl_goAway_rest (sockets : List SocketId) (gateway : Gateway) :
    (sockets.foldl (goAway cfg time) gateway).clients = gateway.clients ∧
      (sockets.foldl (goAway cfg time) gateway).seen = gateway.seen ∧
      (sockets.foldl (goAway cfg time) gateway).terminated = gateway.terminated ∧
      (sockets.foldl (goAway cfg time) gateway).server.outbound = gateway.server.outbound := by
  induction sockets generalizing gateway with
  | nil => exact ⟨rfl, rfl, rfl, rfl⟩
  | cons first rest ih =>
      obtain ⟨clients, seen, terminated, outbound⟩ := ih (gateway.goAway cfg time first)
      exact ⟨clients, seen, terminated, outbound.trans (closing_outbound _ _)⟩

/-- Whoever went away is not open. -/
theorem isOpen_of_foldl_goAway {sockets : List SocketId} {socket : SocketId}
    (isOpen : (sockets.foldl (goAway cfg time) gateway).server.isOpen socket = true) :
    gateway.server.isOpen socket = true ∧ socket ∉ sockets := by
  induction sockets generalizing gateway with
  | nil => exact ⟨isOpen, by simp⟩
  | cons first rest ih =>
      obtain ⟨between, absent⟩ := ih isOpen
      have was : gateway.server.isOpen socket = true :=
        Server.isOpen_of_step cfg.toConfig gateway.server { time, event := .closing first }
          (by simp) between
      refine ⟨was, ?_⟩
      intro listed
      rcases List.mem_cons.mp listed with rfl | listed
      · have closed := Server.not_isOpen_closing cfg.toConfig gateway.server time socket
        have clash : true = false := between.symm.trans closed
        cases clash
      · exact absent listed

/-- After going away every client is closed to the server. -/
theorem Guarded.goAway (guarded : gateway.Guarded) :
    (gateway.clients.foldl (Gateway.goAway cfg time)
      { gateway with shuttingDown := true }).Guarded := by
  obtain ⟨clients, seen, terminated, _⟩ :=
    foldl_goAway_rest cfg time gateway.clients { gateway with shuttingDown := true }
  have none : ∀ socket, (gateway.clients.foldl (Gateway.goAway cfg time)
      { gateway with shuttingDown := true }).server.isOpen socket = false := by
    intro socket
    by_contra isOpen
    obtain ⟨was, absent⟩ := isOpen_of_foldl_goAway cfg time (eq_true_of_ne_false isOpen)
    exact absent (guarded.clients socket was)
  constructor
  · rw [clients, seen]
    exact guarded.known
  · intro socket isOpen
    rw [none] at isOpen
    cases isOpen
  · intro socket isOpen
    rw [none] at isOpen
    cases isOpen
  · intro socket listed
    rw [terminated] at listed
    rw [seen]
    exact ⟨(guarded.ended socket listed).1, none socket⟩
  · exact fun _ => none

/-- Every event of the gateway keeps the ended clients closed. -/
theorem Guarded.step (guarded : gateway.Guarded) (stamped : Int × GatewayEvent) :
    (gateway.step cfg stamped).Guarded := by
  have timer : ∀ event : ServerEvent, (∀ opened sid, event ≠ .connect opened sid) →
      (gateway.timer cfg stamped.1 event).Guarded := by
    intro event other
    rw [Gateway.timer]
    split
    · exact guarded
    · exact guarded.serve cfg _ other
  rw [Gateway.step]
  cases stamped.2 with
  | connection socket sid => exact guarded.connection cfg _ socket sid
  | pong socket =>
      dsimp only
      rw [Gateway.pong]
      split
      · exact ⟨guarded.known, guarded.clients, guarded.held, guarded.ended, guarded.down⟩
      · exact guarded
  | message socket frame => exact guarded.serve cfg _ (by simp)
  | closing socket => exact guarded.serve cfg _ (by simp)
  | closed socket =>
      have served : (gateway.serve cfg stamped.1 (.close socket)).Guarded :=
        guarded.serve cfg _ (by simp)
      constructor
      · exact fun other listed => served.known other (List.mem_filter.mp listed).1
      · intro other isOpen
        refine List.mem_filter.mpr ⟨served.clients other isOpen, decide_eq_true ?_⟩
        rintro rfl
        have held := served.held other isOpen
        rw [gateway.accepted_serve cfg _ (by simp)] at held
        have shut := Server.not_isOpen_close cfg.toConfig stamped.1 held
        have clash : true = false := isOpen.symm.trans shut
        cases clash
      · exact served.held
      · exact served.ended
      · exact served.down
  | beat =>
      dsimp only
      rw [Gateway.beat]
      split
      · exact guarded
      · exact (guarded.foldl_beatSocket cfg _).1
  | tick => exact timer _ (by simp)
  | reap => exact timer _ (by simp)
  | reconcile => exact timer _ (by simp)
  | beacon frame => exact guarded.serve cfg _ (by simp)
  | shutdown =>
      dsimp only
      rw [Gateway.shutdown]
      split
      · exact guarded
      · exact guarded.goAway cfg _

/-- No event takes back what was written or whom a beat ended. -/
theorem grows_step (gateway : Gateway) (stamped : Int × GatewayEvent) :
    Grows gateway (gateway.step cfg stamped) := by
  have timer : ∀ event : ServerEvent, Grows gateway (gateway.timer cfg stamped.1 event) := by
    intro event
    rw [Gateway.timer]
    split
    · exact grows_same rfl rfl rfl
    · exact grows_serve cfg _ gateway event
  rw [Gateway.step]
  cases stamped.2 with
  | connection socket sid => exact grows_connection cfg _ gateway socket sid
  | pong socket =>
      dsimp only
      rw [Gateway.pong]
      split
      · exact grows_same rfl rfl rfl
      · exact grows_same rfl rfl rfl
  | message socket frame => exact grows_serve cfg _ gateway _
  | closing socket => exact grows_serve cfg _ gateway _
  | closed socket =>
      have served := grows_serve cfg stamped.1 gateway (.close socket)
      exact ⟨served.terminated, served.down, served.writes⟩
  | beat =>
      dsimp only
      rw [Gateway.beat]
      split
      · exact grows_same rfl rfl rfl
      · exact grows_foldl_beatSocket cfg _ gateway
  | tick => exact timer _
  | reap => exact timer _
  | reconcile => exact timer _
  | beacon frame => exact grows_serve cfg _ gateway _
  | shutdown =>
      dsimp only
      rw [Gateway.shutdown]
      split
      · exact grows_same rfl rfl rfl
      · obtain ⟨_, _, terminated, outbound⟩ := foldl_goAway_rest cfg stamped.1
          gateway.clients { gateway with shuttingDown := true }
        constructor
        · intro socket listed
          rw [terminated]
          exact listed
        · intro
          rw [shuttingDown_goAway]
        · exact ⟨[], by rw [outbound, List.append_nil], by simp⟩

/-- Later on in a run: nothing went to those that were out of reach. -/
structure Trails (reached start : Gateway) : Prop where
  guarded : reached.Guarded
  terminated : ∀ socket ∈ start.terminated, socket ∈ reached.terminated
  down : start.shuttingDown = true → reached.shuttingDown = true
  unheard : ∃ writes, reached.server.outbound = start.server.outbound ++ writes ∧
    ∀ write ∈ writes, write.socket ∉ start.terminated ∧ start.shuttingDown = false

/-- After one step more, still nothing went to those that were out of reach. -/
theorem Trails.step {reached start : Gateway} (trails : reached.Trails start)
    (stamped : Int × GatewayEvent) : (reached.step cfg stamped).Trails start := by
  have grows := grows_step cfg reached stamped
  obtain ⟨writes, outbound, unheard⟩ := trails.unheard
  obtain ⟨more, added, opened⟩ := grows.writes
  constructor
  · exact trails.guarded.step cfg stamped
  · exact fun socket listed => grows.terminated socket (trails.terminated socket listed)
  · exact fun isDown => grows.down (trails.down isDown)
  · refine ⟨writes ++ more, by rw [added, outbound, List.append_assoc], ?_⟩
    intro write listed
    rcases List.mem_append.mp listed with listed | listed
    · exact unheard write listed
    · have isOpen := opened write listed
      constructor
      · intro isEnded
        rw [(trails.guarded.ended _ (trails.terminated _ isEnded)).2] at isOpen
        cases isOpen
      · by_contra isDown
        rw [trails.guarded.down (trails.down (eq_true_of_ne_false isDown))] at isOpen
        cases isOpen

/-- No run writes again to a client a beat has ended, nor to anybody at all once the
process was told to stop: whatever happens afterwards, also on the sockets that are
still closing. -/
theorem ended_hear_nothing (events later : List (Int × GatewayEvent)) :
    let gateway := run (step cfg) ({} : Gateway) events
    let after := run (step cfg) gateway later
    ∃ writes, after.server.outbound = gateway.server.outbound ++ writes ∧
      ∀ write ∈ writes, write.socket ∉ gateway.terminated ∧ gateway.shuttingDown = false := by
  intro gateway after
  have guarded : gateway.Guarded := by
    apply invariant_run (P := Guarded) (fun _ stamped before => before.step cfg stamped)
    constructor
    · simp
    · intro socket isOpen
      cases isOpen
    · intro socket isOpen
      cases isOpen
    · simp
    · intro down
      cases down
  have kept : after.Trails gateway := by
    apply invariant_run (P := fun reached : Gateway => reached.Trails gateway) _
      ⟨guarded, fun _ listed => listed, id, [], (List.append_nil _).symm, by simp⟩
    exact fun _ stamped trails => trails.step cfg stamped
  exact kept.unheard

end Gateway

end Copresence
