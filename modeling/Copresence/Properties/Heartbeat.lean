import Copresence.Server.Gateway

/-! Whom a beat ends: the clients that have been silent for so many beats. And whom
nothing reaches any more: those it ended, and everybody after a shutdown. -/
namespace Copresence

open Transition

namespace Server

variable {cfg : Config} {server : Server} {stamped : Stamped} {socket : SocketId}

/-- Only a connection makes a context, and none goes. -/
theorem Effect.contexts_isSome {after : Server} {now : Int} {action : Action}
    (effect : Effect cfg server now action after)
    (other : ∀ opened sid, action ≠ .connect opened sid) :
    (after.contexts socket).isSome = (server.contexts socket).isSome := by
  have known : ∀ server : Server,
      (server.contexts socket).isSome = (server.identity? socket).isSome := by
    intro server
    rw [Server.identity?, Option.isSome_map]
  have held : ∀ ctx, server.Live ctx → socket = ctx.socket →
      (server.identity? socket).isSome = true := by
    rintro ctx live rfl
    rw [Server.identity?, live.1]
    rfl
  have moved := effect.identity? socket
  rw [known, known, moved]
  cases effect with
  | connect => exact absurd rfl (other _ _)
  | hello live =>
      rw [Action.onIdentity]
      split
      · next own => exact (held _ live own).symm
      · rfl
  | bye live =>
      rw [Action.onIdentity]
      split
      · next own => exact (held _ live own).symm
      · rfl
  | idle | presence | closing | close | tick | reap => rfl

/-- No other event opens a connection. -/
theorem action_ne_connect (other : ∀ opened sid, stamped.event ≠ .connect opened sid)
    (opened : SocketId) (sid : SessionId) : server.action stamped ≠ .connect opened sid := by
  intro connects
  unfold action at connects
  split at connects
  · next isConnect => exact other _ _ isConnect
  · split at connects
    · cases connects
    · next msg _ => cases msg <;> cases connects
  · split at connects <;> cases connects
  · split at connects <;> cases connects
  · cases connects
  · cases connects
  · cases connects
  · cases connects

/-- Only a connect gives a socket a context. -/
theorem contexts_step (cfg : Config) (server : Server) (stamped : Stamped)
    (other : ∀ opened sid, stamped.event ≠ .connect opened sid) (socket : SocketId) :
    ((server.step cfg stamped).contexts socket).isSome = (server.contexts socket).isSome :=
  (step_effect cfg server stamped).contexts_isSome (action_ne_connect other)

end Server

namespace Gateway

variable (cfg : GatewayConfig) (time : Int) {gateway : Gateway} {socket : SocketId}

/-- The client has missed as many pongs as it may. -/
def Overdue (gateway : Gateway) (socket : SocketId) : Prop :=
  cfg.heartbeatMaxMissed ≤ (gateway.missedPongs socket).getD 0

instance (gateway : Gateway) (socket : SocketId) : Decidable (gateway.Overdue cfg socket) :=
  inferInstanceAs (Decidable (_ ≤ _))

/-- A turn of the beat treats a socket by its own count, and leaves the others'. -/
structure Beaten (cfg : GatewayConfig) (before after : Gateway) (sockets : List SocketId) :
    Prop where
  clients : after.clients = before.clients
  seen : after.seen = before.seen
  shuttingDown : after.shuttingDown = before.shuttingDown
  accepted : ∀ socket, after.accepted socket = before.accepted socket
  missedPongs : ∀ socket, after.missedPongs socket =
    if socket ∈ sockets ∧ ¬ before.Overdue cfg socket then
      some ((before.missedPongs socket).getD 0 + 1)
    else before.missedPongs socket
  terminated : after.terminated = before.terminated ++ sockets.filter (before.Overdue cfg ·)
  pinged : after.pinged = before.pinged ++ sockets.filter (¬ before.Overdue cfg ·)

/-- Serving any other event accepts no new socket. -/
theorem accepted_serve (gateway : Gateway) {event : ServerEvent}
    (other : ∀ opened sid, event ≠ .connect opened sid) (socket : SocketId) :
    (gateway.serve cfg time event).accepted socket = gateway.accepted socket :=
  Server.contexts_step cfg.toConfig gateway.server { time, event } other socket

/-- A beat of one client changes that one's count and nothing else. -/
theorem beatSocket_beaten (gateway : Gateway) (socket : SocketId) :
    Beaten cfg gateway (gateway.beatSocket cfg time socket) [socket] := by
  rw [beatSocket]
  dsimp only
  by_cases overdue : gateway.Overdue cfg socket
  · rw [if_pos (by exact overdue)]
    constructor
    · rfl
    · rfl
    · rfl
    · exact gateway.accepted_serve cfg time (by simp)
    · intro other
      rw [if_neg]
      · rfl
      · rintro ⟨own, fewer⟩
        rw [List.mem_singleton.mp own] at fewer
        exact fewer overdue
    · simp [overdue]
    · simp [overdue, serve]
  · rw [if_neg (by exact overdue)]
    constructor
    · rfl
    · rfl
    · rfl
    · exact fun _ => rfl
    · intro other
      dsimp only
      rw [Function.update_apply]
      by_cases own : other = socket
      · subst own
        rw [if_pos rfl, if_pos ⟨List.mem_singleton_self _, overdue⟩]
      · rw [if_neg own, if_neg fun both => own (List.mem_singleton.mp both.1)]
    · simp [overdue]
    · simp [overdue]

/-- The beat goes through the clients one after the other. -/
theorem Beaten.cons {before between after : Gateway} {first : SocketId} {rest : List SocketId}
    (one : Beaten cfg before between [first]) (others : Beaten cfg between after rest)
    (fresh : first ∉ rest) : Beaten cfg before after (first :: rest) := by
  have same : ∀ socket, socket ≠ first → between.missedPongs socket = before.missedPongs socket := by
    intro socket other
    rw [one.missedPongs, if_neg fun both => other (List.mem_singleton.mp both.1)]
  have alike : ∀ socket ∈ rest, between.Overdue cfg socket ↔ before.Overdue cfg socket := by
    intro socket listed
    rw [Overdue, Overdue, same socket fun own => fresh (own ▸ listed)]
  constructor
  · rw [others.clients, one.clients]
  · rw [others.seen, one.seen]
  · rw [others.shuttingDown, one.shuttingDown]
  · intro socket
    rw [others.accepted, one.accepted]
  · intro socket
    rw [others.missedPongs]
    by_cases own : socket = first
    · subst own
      rw [if_neg fun both => fresh both.1, one.missedPongs]
      simp
    · by_cases listed : socket ∈ rest
      · rw [same socket own]
        simp [own, listed, alike socket listed]
      · rw [if_neg fun both => listed both.1, same socket own]
        simp [own, listed]
  · have filtered : rest.filter (between.Overdue cfg ·) = rest.filter (before.Overdue cfg ·) :=
      List.filter_congr fun socket listed => decide_eq_decide.mpr (alike socket listed)
    rw [others.terminated, one.terminated, filtered, List.append_assoc, ← List.filter_append]
    rfl
  · have filtered : rest.filter (¬ between.Overdue cfg ·) = rest.filter (¬ before.Overdue cfg ·) :=
      List.filter_congr fun socket listed => decide_eq_decide.mpr (not_congr (alike socket listed))
    rw [others.pinged, one.pinged, filtered, List.append_assoc, ← List.filter_append]
    rfl

/-- A beat reaches each client once. -/
theorem foldl_beatSocket_beaten {sockets : List SocketId} (nodup : sockets.Nodup)
    (gateway : Gateway) :
    Beaten cfg gateway (sockets.foldl (beatSocket cfg time) gateway) sockets := by
  induction sockets generalizing gateway with
  | nil =>
      constructor
      · rfl
      · rfl
      · rfl
      · exact fun _ => rfl
      · simp
      · simp
      · simp
  | cons first rest ih =>
      have apart := List.nodup_cons.mp nodup
      exact (beatSocket_beaten cfg time gateway first).cons cfg (ih apart.2 _) apart.1

/-- What an event does to the count of beats a client has been silent for, before it
connected `none`. A socket without handlers is not heard. -/
def heed (hears : Bool) (socket : SocketId) (silent : Option Nat) (stamped : Int × GatewayEvent) :
    Option Nat :=
  match stamped.2 with
  | .connection other _ => if other = socket then some (silent.getD 0) else silent
  | .pong other => if other = socket ∧ hears then silent.map fun _ => 0 else silent
  | .beat => silent.map (· + 1)
  | _ => silent

/-- The beats since the client connected or was last heard of. -/
def silence (hears : Bool) (socket : SocketId) (events : List (Int × GatewayEvent)) : Option Nat :=
  run (heed hears socket) none events

/-- Until the shutdown the count of a connected client is its silence, as far as
the beats look. -/
structure Counts (events : List (Int × GatewayEvent)) (gateway : Gateway) : Prop where
  nodup : gateway.clients.Nodup
  known : ∀ socket ∈ gateway.clients, socket ∈ gateway.seen
  fresh : ∀ socket, socket ∉ gateway.seen → gateway.accepted socket = false ∧
    gateway.missedPongs socket = none ∧ ∀ hears, silence hears socket events = none
  counted : ∀ socket ∈ gateway.clients, ∃ beats,
    silence (gateway.accepted socket) socket events = some beats ∧
      (gateway.missedPongs socket).getD 0 = min beats cfg.heartbeatMaxMissed

/-- Events that are none to the count of any client. -/
theorem Counts.of_same {events : List (Int × GatewayEvent)} {after : Gateway}
    (counts : Counts cfg events gateway) {stamped : Int × GatewayEvent}
    (silent : ∀ hears socket silent, heed hears socket silent stamped = silent)
    (clients : after.clients.Sublist gateway.clients) (seen : after.seen = gateway.seen)
    (accepted : ∀ socket, after.accepted socket = gateway.accepted socket)
    (missedPongs : after.missedPongs = gateway.missedPongs) :
    Counts cfg (events ++ [stamped]) after := by
  have same : ∀ hears socket, silence hears socket (events ++ [stamped]) =
      silence hears socket events := by
    intro hears socket
    rw [silence, run_concat, silent]
    rfl
  constructor
  · exact counts.nodup.sublist clients
  · intro socket listed
    rw [seen]
    exact counts.known socket (clients.subset listed)
  · intro socket unseen
    rw [seen] at unseen
    obtain ⟨refused, uncounted, none⟩ := counts.fresh socket unseen
    rw [accepted, missedPongs]
    refine ⟨refused, uncounted, ?_⟩
    intro hears
    rw [same, none]
  · intro socket listed
    rw [accepted, missedPongs, same]
    exact counts.counted socket (clients.subset listed)

/-- A beat counts one more for every client that is still there. -/
theorem Counts.beat {events : List (Int × GatewayEvent)} (counts : Counts cfg events gateway) :
    Counts cfg (events ++ [(time, .beat)])
      (gateway.clients.foldl (beatSocket cfg time) gateway) := by
  have beaten := foldl_beatSocket_beaten cfg time counts.nodup gateway
  have longer : ∀ hears socket, silence hears socket (events ++ [(time, .beat)]) =
      (silence hears socket events).map (· + 1) := by
    intro hears socket
    rw [silence, run_concat]
    rfl
  constructor
  · rw [beaten.clients]
    exact counts.nodup
  · rw [beaten.clients, beaten.seen]
    exact counts.known
  · intro socket unseen
    rw [beaten.seen] at unseen
    obtain ⟨refused, uncounted, none⟩ := counts.fresh socket unseen
    have absent : socket ∉ gateway.clients := fun listed => unseen (counts.known socket listed)
    rw [beaten.accepted, beaten.missedPongs, if_neg fun both => absent both.1]
    refine ⟨refused, uncounted, ?_⟩
    intro hears
    rw [longer, none]
    rfl
  · intro socket listed
    rw [beaten.clients] at listed
    obtain ⟨beats, silent, counted⟩ := counts.counted socket listed
    refine ⟨beats + 1, ?_, ?_⟩
    · rw [beaten.accepted, longer, silent]
      rfl
    · rw [beaten.missedPongs]
      by_cases overdue : gateway.Overdue cfg socket
      · rw [if_neg fun both => both.2 overdue]
        rw [Overdue] at overdue
        omega
      · rw [if_pos ⟨listed, overdue⟩]
        rw [Overdue] at overdue
        simp only [Option.getD_some]
        omega

/-- A connect accepts its own socket at most. -/
theorem accepted_connect (gateway : Gateway) (sid : SessionId) {other : SocketId}
    (another : other ≠ socket) :
    (gateway.serve cfg time (.connect socket sid)).accepted other = gateway.accepted other := by
  show ((gateway.server.connect time socket sid).contexts other).isSome = _
  rw [Server.connect]
  split
  · rfl
  · show ((gateway.server.setContext _).contexts other).isSome = _
    rw [Server.setContext_contexts, if_neg (by exact another)]
    rfl

/-- A client that has just connected has been silent for no beat. -/
theorem silence_connection (hears : Bool) (socket other : SocketId) (sid : Option String)
    (events : List (Int × GatewayEvent)) :
    silence hears socket (events ++ [(time, .connection other sid)]) =
      if other = socket then some ((silence hears socket events).getD 0)
      else silence hears socket events := by
  rw [silence, run_concat]
  rfl

/-- A newcomer has not been silent yet. -/
theorem Counts.newcomer {events : List (Int × GatewayEvent)} {after : Gateway}
    (counts : Counts cfg events gateway) (sid : Option String) (unseen : socket ∉ gateway.seen)
    (clients : after.clients = gateway.clients ++ [socket])
    (seen : after.seen = gateway.seen ++ [socket])
    (accepted : ∀ other, other ≠ socket → after.accepted other = gateway.accepted other)
    (missedPongs : ∀ other, other ≠ socket → after.missedPongs other = gateway.missedPongs other)
    (none : (after.missedPongs socket).getD 0 = 0) :
    Counts cfg (events ++ [(time, .connection socket sid)]) after := by
  have absent : socket ∉ gateway.clients := fun listed => unseen (counts.known socket listed)
  have another : ∀ other ∈ gateway.clients, other ≠ socket :=
    fun other listed same => absent (same ▸ listed)
  constructor
  · rw [clients]
    exact List.nodup_append.mpr ⟨counts.nodup, List.nodup_singleton _, by
      intro other listed last isLast
      rw [List.mem_singleton.mp isLast]
      exact another other listed⟩
  · intro other listed
    rw [clients] at listed
    rw [seen]
    rcases List.mem_append.mp listed with listed | listed
    · exact List.mem_append_left _ (counts.known other listed)
    · exact List.mem_append_right _ listed
  · intro other later
    rw [seen, List.mem_append, List.mem_singleton, not_or] at later
    obtain ⟨refused, uncounted, unheard⟩ := counts.fresh other later.1
    rw [accepted other later.2, missedPongs other later.2]
    refine ⟨refused, uncounted, ?_⟩
    intro hears
    rw [silence_connection, if_neg (Ne.symm later.2), unheard]
  · intro other listed
    rw [clients] at listed
    rcases List.mem_append.mp listed with listed | listed
    · have apart := another other listed
      rw [silence_connection, if_neg apart.symm, accepted other apart, missedPongs other apart]
      exact counts.counted other listed
    · rw [List.mem_singleton.mp listed]
      refine ⟨0, ?_, ?_⟩
      · rw [silence_connection, if_pos rfl, (counts.fresh socket unseen).2.2]
        rfl
      · rw [none, Nat.zero_min]

/-- A connection is counted from zero, if it is accepted. -/
theorem Counts.connection {events : List (Int × GatewayEvent)} (counts : Counts cfg events gateway)
    (running : gateway.shuttingDown = false) (sid : Option String) :
    Counts cfg (events ++ [(time, .connection socket sid)])
      (gateway.connection cfg time socket sid) := by
  rw [Gateway.connection, running, Bool.false_or]
  by_cases seen : socket ∈ gateway.seen
  · rw [if_pos (decide_eq_true seen)]
    constructor
    · exact counts.nodup
    · exact counts.known
    · intro other unseen
      obtain ⟨refused, uncounted, unheard⟩ := counts.fresh other unseen
      refine ⟨refused, uncounted, ?_⟩
      intro hears
      rw [silence_connection, if_neg fun same : socket = other => unseen (same ▸ seen), unheard]
    · intro other listed
      obtain ⟨beats, silent, counted⟩ := counts.counted other listed
      refine ⟨beats, ?_, counted⟩
      rw [silence_connection, silent]
      exact ite_self _
  · rw [if_neg (by simpa using seen)]
    dsimp only
    cases SessionIdSchema sid with
    | none =>
        apply counts.newcomer cfg time sid seen rfl rfl
        · exact fun _ _ => rfl
        · exact fun _ _ => rfl
        · show (gateway.missedPongs socket).getD 0 = 0
          rw [(counts.fresh socket seen).2.1]
          rfl
    | some parsed =>
        apply counts.newcomer cfg time sid seen rfl rfl
        · exact fun other another => gateway.accepted_connect cfg time parsed another
        · exact fun other another => Function.update_of_ne another _ _
        · show (Function.update gateway.missedPongs socket (some 0) socket).getD 0 = 0
          rw [Function.update_self]
          rfl

/-- A pong ends the silence of a client that answers. -/
theorem silence_pong (hears : Bool) (socket other : SocketId)
    (events : List (Int × GatewayEvent)) :
    silence hears socket (events ++ [(time, .pong other)]) =
      if other = socket ∧ hears = true then (silence hears socket events).map fun _ => 0
      else silence hears socket events := by
  rw [silence, run_concat]
  rfl

/-- A pong sets the count of its client back to zero. -/
theorem Counts.pong {events : List (Int × GatewayEvent)} (counts : Counts cfg events gateway) :
    Counts cfg (events ++ [(time, .pong socket)]) (gateway.pong socket) := by
  have unheard : ∀ other, other ∉ gateway.seen → ∀ hears,
      silence hears other (events ++ [(time, .pong socket)]) = none := by
    intro other unseen hears
    rw [silence_pong, (counts.fresh other unseen).2.2, Option.map_none, ite_self]
  rw [Gateway.pong]
  split
  · next heard =>
      constructor
      · exact counts.nodup
      · exact counts.known
      · intro other unseen
        obtain ⟨refused, uncounted, _⟩ := counts.fresh other unseen
        have another : other ≠ socket := fun same => unseen (same ▸ counts.known socket heard.1)
        refine ⟨refused, ?_, unheard other unseen⟩
        dsimp only
        rw [Function.update_of_ne another, uncounted]
      · intro other listed
        obtain ⟨beats, silent, counted⟩ := counts.counted other listed
        dsimp only
        show ∃ beats, silence (gateway.accepted other) other _ = some beats ∧ _
        rw [silence_pong, Function.update_apply]
        by_cases own : other = socket
        · subst own
          refine ⟨0, ?_, ?_⟩
          · rw [if_pos ⟨rfl, heard.2⟩, silent]
            rfl
          · rw [if_pos rfl, Nat.zero_min]
            rfl
        · rw [if_neg fun both => own both.1.symm, if_neg own]
          exact ⟨beats, silent, counted⟩
  · next ignored =>
      constructor
      · exact counts.nodup
      · exact counts.known
      · intro other unseen
        obtain ⟨refused, uncounted, _⟩ := counts.fresh other unseen
        exact ⟨refused, uncounted, unheard other unseen⟩
      · intro other listed
        rw [silence_pong, if_neg]
        · exact counts.counted other listed
        · rintro ⟨rfl, accepted⟩
          exact ignored ⟨listed, accepted⟩

/-- A signal is for good. -/
theorem shuttingDown_step (gateway : Gateway) (stamped : Int × GatewayEvent)
    (down : gateway.shuttingDown = true) : (gateway.step cfg stamped).shuttingDown = true := by
  rw [step]
  cases stamped.2 with
  | connection socket sid =>
      dsimp only
      rw [Gateway.connection, if_pos (by rw [down]; rfl)]
      exact down
  | pong socket =>
      dsimp only
      rw [Gateway.pong]
      split
      · exact down
      · exact down
  | beat =>
      dsimp only
      rw [Gateway.beat, if_pos down]
      exact down
  | tick | reap | reconcile =>
      dsimp only
      rw [timer, if_pos down]
      exact down
  | shutdown =>
      dsimp only
      rw [shutdown, if_pos down]
      exact down
  | message | closing | closed | beacon => exact down

/-- Sending the clients away neither begins nor ends the shutdown. -/
theorem shuttingDown_goAway (sockets : List SocketId) (gateway : Gateway) :
    (sockets.foldl (goAway cfg time) gateway).shuttingDown = gateway.shuttingDown := by
  induction sockets generalizing gateway with
  | nil => rfl
  | cons first rest ih => exact ih (gateway.goAway cfg time first)

/-- Before the shutdown every event keeps the counts to the silences. -/
theorem Counts.step {events : List (Int × GatewayEvent)} (counts : Counts cfg events gateway)
    {stamped : Int × GatewayEvent} (running : (gateway.step cfg stamped).shuttingDown = false) :
    Counts cfg (events ++ [stamped]) (gateway.step cfg stamped) := by
  have before : gateway.shuttingDown = false := by
    by_contra down
    rw [Bool.not_eq_false] at down
    rw [shuttingDown_step cfg gateway stamped down] at running
    cases running
  obtain ⟨time, event⟩ := stamped
  have served : ∀ event : ServerEvent, (∀ opened sid, event ≠ .connect opened sid) →
      ∀ gatewayEvent, (∀ hears socket silent, heed hears socket silent (time, gatewayEvent) =
        silent) →
      Counts cfg (events ++ [(time, gatewayEvent)]) (gateway.serve cfg time event) :=
    fun event other _ silent => counts.of_same cfg silent (List.Sublist.refl _) rfl
      (gateway.accepted_serve cfg time other) rfl
  cases event with
  | connection socket sid => exact counts.connection cfg time before sid
  | pong socket => exact counts.pong cfg time
  | message socket frame => exact served _ (by simp) _ fun _ _ _ => rfl
  | closing socket => exact served _ (by simp) _ fun _ _ _ => rfl
  | closed socket =>
      exact counts.of_same cfg (fun _ _ _ => rfl) List.filter_sublist rfl
        (gateway.accepted_serve cfg time (by simp)) rfl
  | beat =>
      rw [Gateway.step]
      dsimp only
      rw [Gateway.beat, before]
      exact counts.beat cfg time
  | tick =>
      rw [Gateway.step]
      dsimp only
      rw [timer, before]
      exact served _ (by simp) _ fun _ _ _ => rfl
  | reap =>
      rw [Gateway.step]
      dsimp only
      rw [timer, before]
      exact served _ (by simp) _ fun _ _ _ => rfl
  | reconcile =>
      rw [Gateway.step]
      dsimp only
      rw [timer, before]
      exact served _ (by simp) _ fun _ _ _ => rfl
  | beacon frame => exact served _ (by simp) _ fun _ _ _ => rfl
  | shutdown =>
      rw [Gateway.step] at running
      dsimp only at running
      rw [shutdown, before, if_neg (by simp), shuttingDown_goAway] at running
      cases running

/-- Over every run before a shutdown the counts are the silences. -/
theorem counts_run (events : List (Int × GatewayEvent))
    (running : (run (step cfg) ({} : Gateway) events).shuttingDown = false) :
    Counts cfg events (run (step cfg) ({} : Gateway) events) := by
  induction events using List.reverseRecOn with
  | nil =>
      constructor
      · exact List.nodup_nil
      · simp
      · exact fun _ _ => ⟨rfl, rfl, fun _ => rfl⟩
      · simp
  | append_singleton events stamped ih =>
      rw [run_concat] at running ⊢
      apply Counts.step cfg _ running
      apply ih
      by_contra down
      rw [Bool.not_eq_false] at down
      rw [shuttingDown_step cfg _ stamped down] at running
      cases running

/-- A beat ends exactly the connected clients that have been silent for as many
beats as may be missed, those since they connected or, for an accepted one, since
they last answered; and it pings exactly the others. -/
theorem beat_ends_silent (events : List (Int × GatewayEvent)) (time : Int)
    (running : (run (step cfg) ({} : Gateway) events).shuttingDown = false) :
    let gateway := run (step cfg) ({} : Gateway) events
    let after := gateway.step cfg (time, .beat)
    let silent := fun socket => cfg.heartbeatMaxMissed ≤
      (silence (gateway.accepted socket) socket events).getD 0
    after.terminated = gateway.terminated ++ gateway.clients.filter (silent ·) ∧
      after.pinged = gateway.pinged ++ gateway.clients.filter (¬ silent ·) := by
  intro gateway after silent
  have counts := counts_run cfg events running
  have beaten := foldl_beatSocket_beaten cfg time counts.nodup gateway
  have isBeat : after = gateway.clients.foldl (beatSocket cfg time) gateway := by
    show (gateway.beat cfg time) = _
    rw [Gateway.beat, show gateway.shuttingDown = false from running]
    rfl
  have alike : ∀ socket ∈ gateway.clients, gateway.Overdue cfg socket ↔ silent socket := by
    intro socket listed
    obtain ⟨beats, isSilent, counted⟩ := counts.counted socket listed
    dsimp only [silent]
    rw [Overdue, show silence (gateway.accepted socket) socket events = _ from isSilent,
      show (gateway.missedPongs socket).getD 0 = _ from counted, Option.getD_some]
    omega
  rw [isBeat, beaten.terminated, beaten.pinged]
  constructor
  · congr 1
    exact List.filter_congr fun socket listed => decide_eq_decide.mpr (alike socket listed)
  · congr 1
    exact List.filter_congr fun socket listed =>
      decide_eq_decide.mpr (not_congr (alike socket listed))

/-- One client answers, the other was refused and has not closed yet. -/
theorem beat_ends_silent_refused :
    let cfg : GatewayConfig := { Scenario.config 1000 with heartbeatMaxMissed := 2 }
    let gateway := run (step cfg) ({} : Gateway) [(0, .connection 0 (some "s")),
      (0, .connection 1 none), (15, .beat), (16, .pong 0), (30, .beat), (31, .pong 0)]
    (gateway.step cfg (45, .beat)).terminated = [1] ∧
      (gateway.step cfg (45, .beat)).pinged = [0, 1, 0, 1, 0] := by
  intro cfg gateway
  have split := beat_ends_silent cfg [(0, .connection 0 (some "s")), (0, .connection 1 none),
    (15, .beat), (16, .pong 0), (30, .beat), (31, .pong 0)] 45 (by decide)
  constructor
  · rw [split.1]
    decide
  · rw [split.2]
    decide

end Gateway

end Copresence
