import Copresence.Server.Actions

/-! The abstract server: rosters, registrations and connections as functions
of their keys, and how each action moves them. Every step of the real server
refines the step of the abstract one. -/
namespace Copresence

open Collections

namespace Action

variable (ttlMs now : Int)

/-- The roster entry of `pid` in `sid` after the action. -/
def onEntry (sid : SessionId) (pid : ParticipantId) (old : Option Entry) : Action → Option Entry
  | hello ctx msg => if sid = ctx.sid ∧ pid = msg.pid then some (helloEntry msg old) else old
  | presence ctx event =>
    if sid = ctx.sid ∧ pid = event.pid then old.map event.observe else old
  | bye ctx other => if sid = ctx.sid ∧ pid = other then none else old
  | close ctx => if sid = ctx.sid ∧ ctx.pid = some pid then none else old
  | tick => old.map fun entry => { entry with dirty := {} }
  | reap => old.filter fun entry => ¬ entry.participant.Stale ttlMs now
  | _ => old

/-- The registration of `pid` after the action, a sweep's apart. -/
def onRegistration (pid : ParticipantId) (old : Option Connection) : Action → Option Connection
  | hello ctx msg =>
    if pid = msg.pid then some { pid := msg.pid, sid := ctx.sid, socket := ctx.socket } else old
  | bye _ other => if pid = other then none else old
  | close ctx => if ctx.pid = some pid then none else old
  | _ => old

/-- The context of `socket` after the action, its guard left out. -/
def onIdentity (socket : SocketId) (old : Option ConnectionContext) :
    Action → Option ConnectionContext
  | connect opened sid =>
    if socket = opened then some (createConnectionContext opened sid now) else old
  | hello ctx msg =>
    if socket = ctx.socket then some { ctx.identity with pid := some msg.pid } else old
  | bye ctx _ =>
    if socket = ctx.socket then some { ctx.identity with leftExplicitly := true } else old
  | _ => old

def onReadyState (socket : SocketId) (old : ReadyState) : Action → ReadyState
  | connect opened _ => if socket = opened then .open else old
  | closing opened => if socket = opened then .closing else old
  | close ctx => if socket = ctx.socket then .closed else old
  | _ => old

end Action

/-- An action of this connection, for this participant. -/
def Action.Within (ctx : ConnectionContext) (pid : ParticipantId) : Action → Prop
  | .idle => True
  | .hello by_ctx msg => by_ctx = ctx ∧ msg.pid = pid
  | .presence by_ctx event => by_ctx = ctx ∧ event.pid = pid
  | .bye by_ctx other => by_ctx = ctx ∧ other = pid
  | _ => False

/-- A message acts on its own connection and participant only. -/
theorem Action.ofMessage_within (ctx : ConnectionContext) (msg : InboundMessage) :
    (Action.ofMessage ctx msg).Within ctx msg.pid := by
  cases msg with
  | hello => exact ⟨rfl, rfl⟩
  | cursor => exact ⟨rfl, rfl⟩
  | scroll => exact ⟨rfl, rfl⟩
  | bye => exact ⟨rfl, rfl⟩
  | ack => trivial
  | ping => trivial
  | audit => trivial

section Within

variable {ctx : ConnectionContext} {pid : ParticipantId} {action : Action}
  (within : action.Within ctx pid)

include within

/-- What acts on one participant moves no other's entry. -/
theorem Action.Within.onEntry (ttlMs now : Int) {sid : SessionId} {other : ParticipantId}
    (another : ¬(sid = ctx.sid ∧ other = pid)) (old : Option Entry) :
    action.onEntry ttlMs now sid other old = old := by
  cases action with
  | hello _ msg =>
      obtain ⟨rfl, rfl⟩ := within
      exact if_neg another
  | presence _ event =>
      obtain ⟨rfl, rfl⟩ := within
      exact if_neg another
  | bye _ _ =>
      obtain ⟨rfl, rfl⟩ := within
      exact if_neg another
  | idle => rfl
  | _ => exact within.elim

/-- What acts on one participant moves no other's registration. -/
theorem Action.Within.onRegistration {other : ParticipantId} (another : other ≠ pid)
    (old : Option Connection) : action.onRegistration other old = old := by
  cases action with
  | hello _ msg =>
      obtain ⟨rfl, rfl⟩ := within
      exact if_neg another
  | bye _ _ =>
      obtain ⟨rfl, rfl⟩ := within
      exact if_neg another
  | idle => rfl
  | presence _ _ => rfl
  | _ => exact within.elim

/-- A participant the connection has stays the one it has. -/
theorem Action.Within.onIdentity (now : Int) (known : ctx.pid = some pid) :
    (action.onIdentity now ctx.socket (some ctx.identity)).bind ConnectionContext.pid =
      some pid := by
  cases action with
  | hello _ msg =>
      obtain ⟨rfl, rfl⟩ := within
      rw [Action.onIdentity, if_pos rfl]
      rfl
  | bye _ _ =>
      obtain ⟨rfl, rfl⟩ := within
      rw [Action.onIdentity, if_pos rfl]
      exact known
  | idle => exact known
  | presence _ _ => exact known
  | _ => exact within.elim

end Within

namespace Server

variable {cfg : Config} {server after : Server} {now : Int} {action : Action}

/-- Writing a context changes who one socket is. -/
theorem identity?_setContext (server : Server) (ctx : ConnectionContext) (socket : SocketId) :
    (server.setContext ctx).identity? socket =
      if socket = ctx.socket then some ctx.identity else server.identity? socket := by
  rw [identity?, setContext_contexts]
  split <;> rfl

/-- Who a socket is depends on the contexts alone. -/
theorem identity?_congr {first second : Server} (h : first.contexts = second.contexts) :
    first.identity? = second.identity? := by
  funext socket
  rw [identity?, identity?, h]

/-- A socket that changes its state changes that of no other. -/
theorem readyState_setReadyState (server : Server) (opened socket : SocketId)
    (state : ReadyState) :
    (server.setReadyState opened state).readyState socket =
      if socket = opened then state else server.readyState socket :=
  Function.update_apply _ _ _ _

/-- Every effect leaves a server that is well formed. -/
theorem Effect.wellFormed (effect : Effect cfg server now action after)
    (wf : server.WellFormed) : after.WellFormed := by
  cases effect with
  | idle quiet => rw [WellFormed, quiet.registry]; exact wf
  | connect fresh => exact wf
  | closing wasOpen => exact wf
  | hello live same identified => exact handleHello_wellFormed _ _ _ _ wf
  | presence live same isPresence identified => exact handlePresence_wellFormed _ _ _ wf
  | bye live same identified => exact removeFromSession_wellFormed _ _ _ _ wf
  | @close ctx live =>
      rw [handleDisconnect]
      split
      · exact wf
      · apply removeFromSession_wellFormed
        split
        · exact wf
        · exact wf
  | tick => exact TickScheduler.tick_wellFormed _ _ _ _ _ wf
  | reap => exact Reaper.sweep_wellFormed cfg now wf

/-- The rosters of the real server move as the abstract ones do. -/
theorem Effect.entryOf (effect : Effect cfg server now action after) (wf : server.WellFormed)
    (sid : SessionId) (pid : ParticipantId) :
    after.entryOf sid pid = action.onEntry cfg.ttlMs now sid pid (server.entryOf sid pid) := by
  cases effect with
  | idle quiet => rw [Server.entryOf, quiet.registry]; rfl
  | connect fresh => rfl
  | closing wasOpen => rfl
  | hello live same identified =>
      rw [handleHello_entryOf _ _ _ _ (by exact wf), identity_sid same]
      rfl
  | presence live same isPresence identified =>
      rw [handlePresence_entryOf _ _ isPresence, identity_sid same]
      rfl
  | bye live same identified =>
      rw [removeFromSession_entryOf, identity_sid same]
      rfl
  | @close ctx live =>
      rw [Action.onEntry, handleDisconnect]
      cases hp : ctx.pid with
      | none => simp; rfl
      | some other =>
          dsimp only
          rw [removeFromSession_entryOf]
          simp only [Option.some.injEq, eq_comm (a := other)]
          congr 1
          split <;> rfl
  | tick => exact TickScheduler.tick_entryOf _ _ _ _ _ sid pid
  | reap => exact Reaper.sweep_entryOf cfg now wf sid pid

/-- Without a sweep a registration moves as the abstract action says. -/
theorem Effect.registration (effect : Effect cfg server now action after)
    (noSweep : action ≠ .reap) (pid : ParticipantId) :
    after.hub.registration pid = action.onRegistration pid (server.hub.registration pid) := by
  cases effect with
  | idle quiet => rw [quiet.hub]; rfl
  | connect fresh => rfl
  | closing wasOpen => rfl
  | hello live same identified =>
      rw [handleHello_registration, identity_sid same, identity_socket same]
      rfl
  | presence live same isPresence identified =>
      obtain ⟨registry, h⟩ := handlePresence_eq (server.setContext _) _ _
      rw [h]
      rfl
  | bye live same identified => exact removeFromSession_registration _ _ _ _ _
  | @close ctx live =>
      rw [Action.onRegistration, handleDisconnect]
      cases hp : ctx.pid with
      | none => simp; rfl
      | some other =>
          dsimp only
          rw [removeFromSession_registration]
          simp only [Option.some.injEq, eq_comm (a := other)]
          congr 1
          split <;> rfl
  | tick => rfl
  | reap => exact absurd rfl noSweep

/-- Who a socket is moves as the abstract action says. -/
theorem Effect.identity? (effect : Effect cfg server now action after) (socket : SocketId) :
    after.identity? socket = action.onIdentity now socket (server.identity? socket) := by
  cases effect with
  | idle quiet => rw [quiet.identity]; rfl
  | connect fresh => exact identity?_setContext server _ socket
  | closing wasOpen => rfl
  | @hello ctx guarded msg live same identified =>
      rw [Server.identity?, handleHello_contexts, setContext_contexts, Action.onIdentity,
        ← identity_socket same, ← same]
      by_cases hs : socket = guarded.socket
      · rw [if_pos hs, if_pos hs]
        rfl
      · rw [if_neg hs, if_neg hs, if_neg hs]
        rfl
  | presence live same isPresence identified =>
      obtain ⟨registry, h⟩ := handlePresence_eq (server.setContext _) _ _
      rw [h]
      exact congrFun (quiet_setContext live same).identity socket
  | @bye ctx guarded pid live same identified =>
      rw [identity?_congr (removeFromSession_contexts _ _ _ _), identity?_setContext,
        identity?_setContext, Action.onIdentity, ← identity_socket same, ← same]
      by_cases hs : socket = guarded.socket
      · rw [if_pos hs, if_pos hs]
        rfl
      · rw [if_neg hs, if_neg hs, if_neg hs]
  | @close ctx live =>
      rw [handleDisconnect]
      split
      · rfl
      · rw [identity?_congr (removeFromSession_contexts _ _ _ _)]
        split <;> rfl
  | tick => rfl
  | reap => rw [identity?_congr (Reaper.sweep_contexts cfg now server)]; rfl

/-- The state of a socket moves as the abstract action says. -/
theorem Effect.readyState (effect : Effect cfg server now action after) (socket : SocketId) :
    after.readyState socket = action.onReadyState socket (server.readyState socket) := by
  cases effect with
  | idle quiet => rw [quiet.readyState]; rfl
  | connect fresh => exact readyState_setReadyState _ _ _ _
  | closing wasOpen => exact readyState_setReadyState _ _ _ _
  | hello live same identified => rw [handleHello_eq]; rfl
  | presence live same isPresence identified =>
      obtain ⟨registry, h⟩ := handlePresence_eq (server.setContext _) _ _
      rw [h]
      rfl
  | bye live same identified => rw [removeFromSession_readyState]; rfl
  | @close ctx live =>
      have closed := readyState_setReadyState server ctx.socket socket .closed
      rw [handleDisconnect]
      split
      · exact closed
      · rw [removeFromSession_readyState]
        split
        · exact closed
        · exact closed
  | tick => rfl
  | reap => rw [Reaper.sweep_readyState]; rfl

/-- Only ticks move the scheduler. -/
theorem Effect.scheduler (effect : Effect cfg server now action after)
    (noTick : action ≠ .tick) : after.scheduler = server.scheduler := by
  cases effect with
  | idle quiet => exact quiet.scheduler
  | connect fresh => rfl
  | closing wasOpen => rfl
  | hello live same identified => rw [handleHello_eq]; rfl
  | presence live same isPresence identified =>
      obtain ⟨registry, h⟩ := handlePresence_eq (server.setContext _) _ _
      rw [h]
      rfl
  | bye live same identified => exact removeFromSession_scheduler _ _ _ _
  | @close ctx live =>
      rw [handleDisconnect]
      split
      · rfl
      · rw [removeFromSession_scheduler]
        split <;> rfl
  | tick => exact absurd rfl noTick
  | reap => exact Reaper.sweep_scheduler cfg now server

/-- The participant the connection was introduced with. -/
def Identified (server : Server) (socket : SocketId) (pid : ParticipantId) : Prop :=
  (server.identity? socket).bind ConnectionContext.pid = some pid

/-- A live connection is identified as the participant in its context. -/
theorem Live.identified_iff {ctx : ConnectionContext} (live : server.Live ctx)
    {pid : ParticipantId} : server.Identified ctx.socket pid ↔ ctx.pid = some pid := by
  rw [Identified, Server.identity?, live.1]
  rfl

/-- A connection keeps its participant. -/
theorem Effect.identified (effect : Effect cfg server now action after) {socket : SocketId}
    {pid : ParticipantId} (h : server.Identified socket pid) : after.Identified socket pid := by
  have found : ∀ {ctx : ConnectionContext}, server.Live ctx → socket = ctx.socket →
      ctx.pid = some pid := by
    intro ctx live hs
    rw [hs] at h
    exact live.identified_iff.mp h
  rw [Identified] at h
  rw [Identified, effect.identity?]
  cases effect with
  | @connect opened sid fresh =>
      rw [Action.onIdentity, if_neg]
      · exact h
      · intro hs
        rw [hs, Server.identity?, fresh] at h
        cases h
  | @hello ctx guarded msg live same identified =>
      rw [Action.onIdentity]
      split
      · next hs => exact congrArg some (identified pid (found live hs))
      · exact h
  | @bye ctx guarded other live same identified =>
      rw [Action.onIdentity]
      split
      · next hs =>
          have known : ctx.pid = some pid := found live hs
          exact known
      · exact h
  | _ => exact h

theorem initial_wellFormed : Server.initial.WellFormed := SessionRegistry.empty_wellFormed

/-- Every step keeps the server well formed. -/
theorem step_wellFormed (cfg : Config) {server : Server} (wf : server.WellFormed)
    (stamped : Stamped) : (server.step cfg stamped).WellFormed :=
  (step_effect cfg server stamped).wellFormed wf

/-- Every run keeps the server well formed. -/
theorem run_wellFormed (cfg : Config) {server : Server} (wf : server.WellFormed)
    (events : List Stamped) : (server.run cfg events).WellFormed :=
  Transition.invariant_run (P := WellFormed)
    (fun _ stamped wf => step_wellFormed cfg wf stamped) wf events

end Server

end Copresence
