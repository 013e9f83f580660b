import Copresence.Lib.Unwinding
import Copresence.Properties.Separation
import Copresence.Server.Departures

/-! Sessions do not interfere: as long as every participant keeps to one, what
a session sees of the server is what it would see alone. -/
namespace Copresence

open Collections

namespace Server

/-- What holds of a server whose participants keep to one session each: their
connections and their roster entries do, too. -/
structure Housed (home : ParticipantId → SessionId) (server : Server) : Prop where
  announcing : server.Announcing home
  introduced : ∀ socket ctx, server.identity? socket = some ctx →
    ∀ pid, ctx.pid = some pid → ctx.sid = home pid
  rostered : ∀ sid pid, server.InRoster sid pid → sid = home pid

section Housed

variable {cfg : Config} {home : ParticipantId → SessionId} {server : Server} {stamped : Stamped}

theorem initial_housed (home : ParticipantId → SessionId) : Server.initial.Housed home where
  announcing := initial_announcing home
  introduced := by
    intro socket ctx found
    cases found
  rostered := by
    intro sid pid there
    cases there

/-- Who is known on a connection is at home in its session. -/
theorem Housed.own (housed : server.Housed home) {socket : SocketId} {ctx : ConnectionContext}
    (found : server.contexts socket = some ctx) {pid : ParticipantId} (known : ctx.pid = some pid) :
    ctx.sid = home pid := by
  have identified : server.identity? socket = some ctx.identity := by
    rw [identity?, found]
    rfl
  exact housed.introduced socket ctx.identity identified pid known

/-- Registered connections were opened for the session they are registered for. -/
theorem Housed.placed (housed : server.Housed home) : server.Placed home where
  seated := housed.announcing.told.seated
  connected := by
    intro pid connection registered
    have identified := housed.announcing.registered pid connection registered
    rw [Identified, identity?] at identified
    obtain ⟨ctx, found, known⟩ := Option.bind_eq_some_iff.mp identified
    obtain ⟨stored, hStored, rfl⟩ := Option.map_eq_some_iff.mp found
    have own := housed.own hStored known
    have atHome := housed.announcing.told.seated.atHome pid connection registered
    rw [contextIn_eq_some.mpr ⟨hStored, own.trans atHome.symm⟩]
    rfl

/-- As long as participants keep to one session each, so does what the server
has of them. -/
theorem Housed.step (housed : server.Housed home) (atHome : server.AtHome home stamped) :
    (server.step cfg stamped).Housed home := by
  have effect := step_effect cfg server stamped
  have arrives : ∀ ctx msg, server.action stamped = .hello ctx msg → ctx.sid = home msg.pid :=
    fun ctx msg h => atHome ctx msg (action_eq_hello h)
  refine ⟨housed.announcing.step atHome, ?_, ?_⟩
  · intro socket ctx found pid known
    rw [effect.identity?] at found
    generalize hAction : server.action stamped = action at found
    cases action with
    | connect opened sid =>
        rw [Action.onIdentity] at found
        split at found
        · cases found
          cases known
        · exact housed.introduced socket ctx found pid known
    | hello opened msg =>
        rw [Action.onIdentity] at found
        split at found
        · cases found
          cases known
          exact arrives opened msg hAction
        · exact housed.introduced socket ctx found pid known
    | bye opened other =>
        rw [Action.onIdentity] at found
        split at found
        · have live : server.Live opened := by
            rw [hAction] at effect
            generalize server.step cfg stamped = after at effect
            cases effect with
            | bye live same identified => exact live
          cases found
          exact housed.own live.1 known
        · exact housed.introduced socket ctx found pid known
    | _ => exact housed.introduced socket ctx found pid known
  · intro sid pid there
    rw [InRoster, effect.entryOf housed.announcing.wellFormed] at there
    generalize hAction : server.action stamped = action at there
    by_cases newcomer : action.IsHelloFor sid pid
    · obtain ⟨ctx, msg, rfl, rfl, rfl⟩ := newcomer
      exact arrives ctx msg hAction
    · apply housed.rostered sid pid
      rw [InRoster]
      cases ho : server.entryOf sid pid with
      | some entry => rfl
      | none =>
          rw [ho, Action.onEntry_absent newcomer] at there
          cases there

end Housed

/-- Nothing but this session was ever opened. -/
structure OnlyIn (sid : SessionId) (server : Server) : Prop where
  contexts : ∀ socket ctx, server.identity? socket = some ctx → ctx.sid = sid
  registry : ∀ other, other ≠ sid → server.registry.get other = none

section OnlyIn

variable {cfg : Config} {sid : SessionId} {server : Server} {stamped : Stamped}

theorem initial_onlyIn (sid : SessionId) : Server.initial.OnlyIn sid where
  contexts := by
    intro socket ctx found
    cases found
  registry := fun _ _ => rfl

/-- Every connection is one of the session. -/
theorem OnlyIn.own (only : server.OnlyIn sid) {socket : SocketId} {ctx : ConnectionContext}
    (found : server.contexts socket = some ctx) : ctx.sid = sid := by
  have identified : server.identity? socket = some ctx.identity := by
    rw [identity?, found]
    rfl
  have own := only.contexts socket ctx.identity identified
  exact own

/-- A step for this session, or for all, gives no connection to another one. -/
theorem Effect.onlyIn_contexts {now : Int} {action : Action} {after : Server}
    (effect : Effect cfg server now action after) (only : server.OnlyIn sid)
    (opens : ∀ socket other, action = .connect socket other → other = sid) {socket : SocketId}
    {ctx : ConnectionContext} (found : after.identity? socket = some ctx) : ctx.sid = sid := by
  rw [effect.identity?] at found
  cases effect with
  | connect fresh =>
      rw [Action.onIdentity] at found
      split at found
      · cases found
        exact opens _ _ rfl
      · exact only.contexts socket ctx found
  | hello live same identified =>
      rw [Action.onIdentity] at found
      split at found
      · have own := only.own live.1
        cases found
        exact own
      · exact only.contexts socket ctx found
  | bye live same identified =>
      rw [Action.onIdentity] at found
      split at found
      · have own := only.own live.1
        cases found
        exact own
      · exact only.contexts socket ctx found
  | _ => exact only.contexts socket ctx found

/-- Removing somebody from this session leaves the others unopened. -/
theorem OnlyIn.removeFromSession (only : server.OnlyIn sid) {before : Server}
    (unmoved : before.registry = server.registry) {ctx : ConnectionContext} (own : ctx.sid = sid)
    (now : Int) (pid : ParticipantId) {other : SessionId} (another : other ≠ sid) :
    (Copresence.removeFromSession now ctx pid before).registry.get other = none := by
  rw [removeFromSession_eq, emit_registry, departed_get, own, if_neg another, unmoved]
  exact only.registry other another

/-- A step for this session, or for all, writes the roster of no other one. -/
theorem Effect.onlyIn_registry {now : Int} {action : Action} {after : Server}
    (effect : Effect cfg server now action after) (only : server.OnlyIn sid) {other : SessionId}
    (another : other ≠ sid) : after.registry.get other = none := by
  cases effect with
  | idle quiet =>
      rw [quiet.registry]
      exact only.registry other another
  | connect fresh => exact only.registry other another
  | closing wasOpen => exact only.registry other another
  | hello live same identified =>
      have own := (identity_sid same).trans (only.own live.1)
      rw [handleHello_eq, emit_registry, helloRegistered]
      dsimp only
      rw [SessionRegistry.get_save, helloSession_sid, own, if_neg another,
        getOrCreate_other _ _ another]
      exact only.registry other another
  | presence live same isPresence identified =>
      rw [handlePresence_get, (identity_sid same).trans (only.own live.1), if_neg another]
      exact only.registry other another
  | @bye ctx guarded pid live same identified =>
      have own := (identity_sid same).trans (only.own live.1)
      apply only.removeFromSession _ own now pid another
      rfl
  | @close ctx live =>
      rw [handleDisconnect]
      cases ctx.pid with
      | none => exact only.registry other another
      | some pid =>
          apply only.removeFromSession _ (only.own live.1) now pid another
          split <;> rfl
  | tick =>
      show (server.scheduler.tick _ _ _ now).2.1.get other = none
      rw [TickScheduler.tick_get, only.registry other another]
      rfl
  | reap =>
      rw [Reaper.sweep_registry, SessionRegistry.get_reapStale, only.registry other another]
      rfl

/-- A step for this session, or for all, writes no other session. -/
theorem Effect.onlyIn {now : Int} {action : Action} {after : Server}
    (effect : Effect cfg server now action after) (only : server.OnlyIn sid)
    (opens : ∀ socket other, action = .connect socket other → other = sid) :
    after.OnlyIn sid :=
  ⟨fun _ _ found => effect.onlyIn_contexts only opens found,
    fun _ another => effect.onlyIn_registry only another⟩

/-- A run that opens connections for one session writes no other. -/
theorem OnlyIn.step (only : server.OnlyIn sid)
    (opens : ∀ socket other, stamped.event = .connect socket other → other = sid) :
    (server.step cfg stamped).OnlyIn sid := by
  apply (step_effect cfg server stamped).onlyIn only
  intro socket other h
  rw [action] at h
  split at h
  · next opened sid he =>
      split at h
      · cases h
        exact opens _ _ he
      · cases h
  · split at h
    · cases h
    · next msg _ => cases msg <;> cases h
  · split at h <;> cases h
  · split at h <;> cases h
  all_goals cases h

end OnlyIn

/-- Whether an event has to do with this session: it opens a connection for it,
comes in on one, or is a timer's. -/
def Concerns (sid : SessionId) (server : Server) (stamped : Stamped) : Prop :=
  match stamped.event with
  | .connect socket other => other = sid ∧ server.contexts socket = none
  | .message socket _ | .closing socket | .close socket =>
    (server.contextIn sid socket).isSome
  | .tick | .reap => True
  | .reconcile | .beacon _ => False

instance (sid : SessionId) (server : Server) : DecidablePred (server.Concerns sid)
  | ⟨_, .connect socket other⟩ =>
    @instDecidableAnd (other = sid) (server.contexts socket = none)
      (instDecidableEqSessionId other sid)
      (@decidable_of_iff _ _ Option.isNone_iff_eq_none (instDecidableEqBool _ _))
  | ⟨_, .message socket _⟩ | ⟨_, .closing socket⟩ | ⟨_, .close socket⟩ =>
    instDecidableEqBool (server.contextIn sid socket).isSome true
  | ⟨_, .tick⟩ | ⟨_, .reap⟩ => instDecidableTrue
  | ⟨_, .reconcile⟩ | ⟨_, .beacon _⟩ => instDecidableFalse

section Step

variable {cfg : Config} {home : ParticipantId → SessionId} {sid : SessionId}
  {first second : Server} {stamped : Stamped}

/-- The pid a frame is accepted for is at home in its connection's session. -/
theorem Housed.received (housed : first.Housed home) (atHome : first.AtHome home stamped)
    {ctx : ConnectionContext} {msg : InboundMessage}
    (h : first.received stamped = some (ctx, msg)) : ctx.sid = home msg.pid := by
  obtain ⟨socket, frame, he, live, judged⟩ := received_eq_some h
  obtain ⟨_, introduced, identified, _⟩ := judge_accepted judged
  cases hp : ctx.pid with
  | some pid =>
      rw [identified pid hp]
      exact housed.own (live_of_liveContext live).1.1 hp
  | none =>
      cases msg with
      | hello msg => exact atHome ctx msg h
      | _ => cases introduced hp

/-- Another session has no part in a connection that was opened for this one. -/
theorem contextIn_eq_none {server : Server} {socket : SocketId} {ctx : ConnectionContext}
    (found : server.contexts socket = some ctx) :
    server.contextIn sid socket = none ↔ ctx.sid ≠ sid := by
  rw [contextIn, found, Option.filter_some]
  by_cases own : ctx.sid = sid <;> simp [own]

/-- What moves neither rosters nor connections nor writes is seen by no session. -/
theorem sameIn_of_frame {after before : Server} (registry : after.registry = before.registry)
    (hub : after.hub = before.hub) (scheduler : after.scheduler = before.scheduler)
    (contexts : after.contexts = before.contexts) (readyState : after.readyState = before.readyState)
    (outbound : after.outbound = before.outbound) : SameIn home sid after before where
  session := by rw [registry]
  peers := by rw [hub]
  registration := by simp [hub]
  seq := by rw [scheduler]
  settling := by rw [scheduler]
  context := by simp [contextIn, contexts]
  readyState := by simp [readyState]
  outbound := by rw [outbound]

/-- A frame on another session's connection, by somebody at home there. -/
theorem SameIn.frame_elsewhere (same : SameIn home sid first second) {ctx : ConnectionContext}
    (elsewhere : ctx.sid ≠ sid) (unknown : first.contextIn sid ctx.socket = none)
    (seated : first.hub.Seated home) {frame : RawFrame} {now : Int}
    (atHome : ∀ msg, judge ctx frame = .accepted msg → ctx.sid = home msg.pid) :
    SameIn home sid (handleRealtimeMessage now ctx frame first) second := by
  obtain ⟨sequenceGuard, hg⟩ := afterGuard_cases ctx frame
  have away : (afterGuard ctx frame).sid ≠ sid := by
    rw [hg]
    exact elsewhere
  have unknown' : first.contextIn sid (afterGuard ctx frame).socket = none := by
    rw [hg]
    exact unknown
  have guarded := same.setContext_elsewhere _ away unknown'
  have still : (first.setContext (afterGuard ctx frame)).contextIn sid
      (afterGuard ctx frame).socket = none := by
    rw [contextIn_setContext, if_pos rfl, if_neg away]
  rw [handleRealtimeMessage]
  cases judged : judge ctx frame with
  | refused code detail => exact same.sendError_elsewhere elsewhere code detail
  | unordered => exact guarded
  | accepted msg =>
      have gone : home msg.pid ≠ sid := fun own => elsewhere ((atHome msg judged).trans own)
      cases msg with
      | audit msg => exact guarded.audit_elsewhere away msg
      | hello msg => exact guarded.hello_elsewhere away gone still
      | bye msg => exact guarded.bye_elsewhere away gone still seated
      | ping msg => exact guarded.ping_elsewhere away msg
      | cursor msg => exact guarded.presence_elsewhere away (.cursor msg)
      | scroll msg => exact guarded.presence_elsewhere away (.scroll msg)
      | ack msg => exact guarded

/-- Opening a connection for another session changes nothing in this one. -/
theorem SameIn.connect_elsewhere (same : SameIn home sid first second) {socket : SocketId}
    {other : SessionId} {now : Int} (elsewhere : ¬(other = sid ∧ first.contexts socket = none)) :
    SameIn home sid (first.connect now socket other) second := by
  rw [Server.connect]
  cases taken : first.contexts socket with
  | some ctx => exact same
  | none =>
      have another : other ≠ sid := fun own => elsewhere ⟨own, taken⟩
      have unknown : first.contextIn sid socket = none := by
        rw [contextIn, taken]
        rfl
      have opened := same.setContext_elsewhere (createConnectionContext socket other now)
        another unknown
      apply opened.setReadyState_elsewhere
      rw [contextIn_setContext]
      split
      · exact if_neg another
      · exact unknown

/-- A frame on a connection of another session changes nothing in this one. -/
theorem SameIn.message_elsewhere (same : SameIn home sid first second) {socket : SocketId}
    (unknown : first.contextIn sid socket = none) (seated : first.hub.Seated home)
    {frame : RawFrame} {now : Int}
    (received : ∀ ctx msg, first.received ⟨now, .message socket frame⟩ = some (ctx, msg) →
      ctx.sid = home msg.pid) :
    SameIn home sid (first.message now socket frame) second := by
  rw [Server.message]
  cases live : first.liveContext socket with
  | none => exact same
  | some ctx =>
      obtain ⟨⟨found, _⟩, rfl⟩ := live_of_liveContext live
      apply same.frame_elsewhere ((contextIn_eq_none found).mp unknown) unknown seated
      intro msg judged
      apply received ctx msg
      simp [Server.received, live, judged]

/-- A socket of another session that begins to close changes nothing in this one. -/
theorem SameIn.closing_elsewhere (same : SameIn home sid first second) {socket : SocketId}
    (unknown : first.contextIn sid socket = none) :
    SameIn home sid (first.closing socket) second := by
  rw [Server.closing]
  split
  · exact same.setReadyState_elsewhere unknown .closing
  · exact same

/-- A socket of another session that closes removes nobody from this one: who was
known on it is at home elsewhere. -/
theorem SameIn.close_elsewhere (same : SameIn home sid first second) (housed : first.Housed home)
    {socket : SocketId} (unknown : first.contextIn sid socket = none) (now : Int) :
    SameIn home sid (first.close cfg now socket) second := by
  rw [Server.close]
  cases live : first.liveContext socket with
  | none => exact same
  | some ctx =>
      obtain ⟨⟨found, _⟩, rfl⟩ := live_of_liveContext live
      have another := (contextIn_eq_none found).mp unknown
      have closed := same.setReadyState_elsewhere unknown .closed
      dsimp only
      rw [handleDisconnect]
      cases hp : ctx.pid with
      | none => exact closed
      | some pid =>
          have away : home pid ≠ sid := fun own => another ((housed.own found hp).trans own)
          dsimp only
          split
          · exact closed.removeFromSession_elsewhere another away housed.placed.seated
          · exact (closed.recordGenerated_left cfg _).removeFromSession_elsewhere another away
              housed.placed.seated

/-- The reconciler writes audit records only, which no session reads. -/
theorem SameIn.reconcile_left (same : SameIn home sid first second) (now : Int) :
    SameIn home sid (AuditReconciler.sweep cfg now first) second := by
  obtain ⟨registry, hub, scheduler, contexts, readyState, outbound⟩ :=
    AuditReconciler.sweep_frame cfg now first
  exact (sameIn_of_frame registry hub scheduler contexts readyState outbound).trans same

/-- A beacon writes audit records only, which no session reads. -/
theorem SameIn.beacon_left (same : SameIn home sid first second) (now : Int) (frame : RawFrame) :
    SameIn home sid (Copresence.beacon now frame first).1 second := by
  rw [Copresence.beacon]
  split
  · exact same
  · exact same.record_left _
  · exact same

/-- What has to do with other sessions only leaves this one as it is. -/
theorem step_elsewhere (housed : first.Housed home) (atHome : first.AtHome home stamped)
    (same : SameIn home sid first second) (elsewhere : ¬first.Concerns sid stamped) :
    SameIn home sid (first.step cfg stamped) second := by
  have received : ∀ ctx msg, first.received stamped = some (ctx, msg) → ctx.sid = home msg.pid :=
    fun ctx msg h => housed.received atHome h
  obtain ⟨now, event⟩ := stamped
  cases event with
  | connect socket other => exact same.connect_elsewhere elsewhere
  | message socket frame =>
      have unknown := Option.not_isSome_iff_eq_none.mp elsewhere
      exact same.message_elsewhere unknown housed.placed.seated received
  | closing socket =>
      have unknown := Option.not_isSome_iff_eq_none.mp elsewhere
      exact same.closing_elsewhere unknown
  | close socket =>
      have unknown := Option.not_isSome_iff_eq_none.mp elsewhere
      exact same.close_elsewhere housed unknown now
  | tick => exact absurd trivial elsewhere
  | reap => exact absurd trivial elsewhere
  | reconcile => exact same.reconcile_left now
  | beacon frame => exact same.beacon_left now frame

/-- Both have the connection, and the same one. -/
theorem SameIn.contexts_here (same : SameIn home sid first second) {socket : SocketId}
    {ctx : ConnectionContext} (here : first.contextIn sid socket = some ctx) :
    first.contexts socket = some ctx ∧ second.contexts socket = some ctx ∧ ctx.sid = sid := by
  obtain ⟨found, own⟩ := contextIn_eq_some.mp here
  rw [same.context] at here
  exact ⟨found, (contextIn_eq_some.mp here).1, own⟩

/-- A connection of this session is live in both or in neither. -/
theorem SameIn.liveContext_here (same : SameIn home sid first second) {socket : SocketId}
    (here : (first.contextIn sid socket).isSome) :
    first.liveContext socket = second.liveContext socket := by
  obtain ⟨ctx, hc⟩ := Option.isSome_iff_exists.mp here
  obtain ⟨hFirst, hSecond, _⟩ := same.contexts_here hc
  rw [Server.liveContext, Server.liveContext, same.readyState socket here, hFirst, hSecond]

/-- A frame on a connection of this session does the same in it to both. -/
theorem SameIn.frame_here (same : SameIn home sid first second) {ctx : ConnectionContext}
    (here : ctx.sid = sid) (known : (first.contextIn sid ctx.socket).isSome) {frame : RawFrame}
    {now : Int} (atHome : ∀ msg, judge ctx frame = .accepted msg → ctx.sid = home msg.pid)
    (identified : ∀ pid, ctx.pid = some pid → home pid = sid) (placed : first.Placed home)
    (later : (handleRealtimeMessage now ctx frame first).Placed home) :
    SameIn home sid (handleRealtimeMessage now ctx frame first)
      (handleRealtimeMessage now ctx frame second) := by
  obtain ⟨sequenceGuard, hg⟩ := afterGuard_cases ctx frame
  have own : (afterGuard ctx frame).sid = sid := by
    rw [hg]
    exact here
  have known' : (first.contextIn sid (afterGuard ctx frame).socket).isSome := by
    rw [hg]
    exact known
  have guarded := same.setContext _ known'
  have still : ((first.setContext (afterGuard ctx frame)).contextIn sid
      (afterGuard ctx frame).socket).isSome := by
    rw [contextIn_setContext, if_pos rfl, if_pos own]
    rfl
  have guardedPlaced : (first.setContext (afterGuard ctx frame)).Placed home := by
    apply placed.setContext
    rw [own]
    exact known'
  have knownPid : ∀ pid, (afterGuard ctx frame).pid = some pid → home pid = sid := by
    rw [hg]
    exact identified
  rw [handleRealtimeMessage] at later
  rw [handleRealtimeMessage, handleRealtimeMessage]
  cases judged : judge ctx frame with
  | refused code detail => exact same.sendError known code detail
  | unordered => exact guarded
  | accepted msg =>
      have home_sid : home msg.pid = sid := (atHome msg judged).symm.trans here
      rw [judged] at later
      cases msg with
      | audit msg => exact guarded.audit home_sid guardedPlaced
      | hello msg => exact guarded.hello own home_sid still later
      | bye msg => exact guarded.bye own home_sid still guardedPlaced
      | ping msg => exact guarded.ping knownPid guardedPlaced msg
      | cursor msg => exact guarded.presence (.cursor msg)
      | scroll msg => exact guarded.presence (.scroll msg)
      | ack msg => exact guarded

/-- A socket this session never had is fresh to a server of this session
alone, and opening it does the same to both. -/
theorem SameIn.connect_here (same : SameIn home sid first second) (only : second.OnlyIn sid)
    {socket : SocketId} (taken : first.contexts socket = none) (now : Int) :
    SameIn home sid (first.connect now socket sid) (second.connect now socket sid) := by
  have fresh : second.contexts socket = none := by
    have unknown := same.context socket
    rw [contextIn, contextIn, taken, Option.filter_none] at unknown
    cases hs : second.contexts socket with
    | none => rfl
    | some ctx =>
        rw [hs, Option.filter_some, if_pos (decide_eq_true (only.own hs))] at unknown
        cases unknown
  rw [Server.connect, Server.connect, taken, fresh]
  exact
    { same with
      context := by
        intro peer
        show ((first.setContext _).contextIn sid peer) = (second.setContext _).contextIn sid peer
        rw [contextIn_setContext, contextIn_setContext, same.context]
      readyState := by
        intro peer there
        have there : ((first.setContext (createConnectionContext socket sid now)).contextIn
          sid peer).isSome := there
        show Function.update first.readyState socket .open peer =
          Function.update second.readyState socket .open peer
        rw [Function.update_apply, Function.update_apply]
        split
        · rfl
        · next another =>
            rw [contextIn_setContext, if_neg (by exact another)] at there
            exact same.readyState peer there }

/-- Who is known on a live connection of this session is at home here. -/
theorem Housed.live_here (housed : first.Housed home) {socket : SocketId}
    (here : (first.contextIn sid socket).isSome) {ctx : ConnectionContext}
    (live : first.liveContext socket = some ctx) :
    ctx.socket = socket ∧ ctx.sid = sid ∧ ∀ pid, ctx.pid = some pid → home pid = sid := by
  obtain ⟨⟨found, _⟩, rfl⟩ := live_of_liveContext live
  obtain ⟨stored, hs⟩ := Option.isSome_iff_exists.mp here
  obtain ⟨found', own⟩ := contextIn_eq_some.mp hs
  cases found.symm.trans found'
  exact ⟨rfl, own, fun pid known => (housed.own found known).symm.trans own⟩

/-- A frame on a connection of this session is judged alike by both. -/
theorem SameIn.message_here (same : SameIn home sid first second) (housed : first.Housed home)
    {socket : SocketId} (here : (first.contextIn sid socket).isSome) {frame : RawFrame} {now : Int}
    (received : ∀ ctx msg, first.received ⟨now, .message socket frame⟩ = some (ctx, msg) →
      ctx.sid = home msg.pid)
    (later : (first.message now socket frame).Placed home) :
    SameIn home sid (first.message now socket frame) (second.message now socket frame) := by
  rw [Server.message] at later
  rw [Server.message, Server.message, ← same.liveContext_here here]
  cases live : first.liveContext socket with
  | none => exact same
  | some ctx =>
      obtain ⟨rfl, own, known⟩ := housed.live_here here live
      rw [live] at later
      apply same.frame_here own here _ known housed.placed later
      intro msg judged
      apply received ctx msg
      simp [Server.received, live, judged]

/-- A socket of this session begins to close in both or in neither. -/
theorem SameIn.closing_here (same : SameIn home sid first second) {socket : SocketId}
    (here : (first.contextIn sid socket).isSome) :
    SameIn home sid (first.closing socket) (second.closing socket) := by
  have opened : first.isOpen socket = second.isOpen socket := by
    rw [isOpen, isOpen, same.readyState socket here]
  rw [Server.closing, Server.closing, opened]
  split
  · exact same.setReadyState socket .closing
  · exact same

/-- Who closes its last socket of this session leaves it in both. -/
theorem SameIn.close_here (same : SameIn home sid first second) (housed : first.Housed home)
    {socket : SocketId} (here : (first.contextIn sid socket).isSome) (now : Int) :
    SameIn home sid (first.close cfg now socket) (second.close cfg now socket) := by
  rw [Server.close, Server.close, ← same.liveContext_here here]
  cases live : first.liveContext socket with
  | none => exact same
  | some ctx =>
      obtain ⟨rfl, own, known⟩ := housed.live_here here live
      have closed := same.setReadyState ctx.socket .closed
      have placed := housed.placed
      dsimp only
      rw [handleDisconnect, handleDisconnect]
      cases hp : ctx.pid with
      | none => exact closed
      | some pid =>
          dsimp only
          split
          · exact closed.removeFromSession own (known pid hp) ⟨placed.1, placed.2⟩
          · exact (closed.recordGenerated cfg _).removeFromSession own (known pid hp)
              ⟨placed.1, placed.2⟩

/-- Whoever the reaper removes was in the roster of its home. -/
theorem Housed.reaped (housed : first.Housed home) {now : Int} {gone : ReapedParticipant}
    (listed : gone ∈ (first.registry.reapStale cfg.ttlMs now).2) : home gone.pid = gone.sid := by
  obtain ⟨participant, found, _⟩ :=
    (SessionRegistry.mem_reapStale_iff housed.announcing.wellFormed.seated cfg.ttlMs now
      gone).mp listed
  have there := first.participant?_eq gone.sid gone.pid
  rw [Server.participant?, found] at there
  obtain ⟨entry, hEntry, _⟩ := Option.map_eq_some_iff.mp there.symm
  have rostered : first.InRoster gone.sid gone.pid := by
    rw [InRoster, hEntry]
    rfl
  exact (housed.rostered gone.sid gone.pid rostered).symm

/-- A server of this session alone reaps what one of many reaps in it. -/
theorem SameIn.reapStale_here (same : SameIn home sid first second) (only : second.OnlyIn sid)
    (now : Int) :
    (second.registry.reapStale cfg.ttlMs now).2 =
      (first.registry.reapStale cfg.ttlMs now).2.filter fun gone => gone.sid = sid := by
  have alone : ((second.registry.reapStale cfg.ttlMs now).2.filter fun gone =>
      gone.sid = sid) = (second.registry.reapStale cfg.ttlMs now).2 := by
    rw [List.filter_eq_self]
    intro gone listed
    by_contra another
    exact get_of_mem_reapStale listed
      (only.registry gone.sid fun own => another (decide_eq_true own))
  rw [← alone, filter_reapStale, filter_reapStale, same.session]

/-- The reaper removes the same of this session from both, and says the same. -/
theorem SameIn.reap_here (same : SameIn home sid first second) (housed : first.Housed home)
    (only : second.OnlyIn sid) (now : Int) :
    SameIn home sid (Reaper.sweep cfg now first) (Reaper.sweep cfg now second) := by
  have placed := housed.placed
  have swept : SameIn home sid
      { first with registry := (first.registry.reapStale cfg.ttlMs now).1 }
      { second with registry := (second.registry.reapStale cfg.ttlMs now).1 } :=
    { same with
      session := by
        dsimp only
        rw [SessionRegistry.get_reapStale, SessionRegistry.get_reapStale, same.session] }
  have atHome : ∀ gone ∈ (first.registry.reapStale cfg.ttlMs now).2, home gone.pid = gone.sid :=
    fun _ listed => housed.reaped listed
  have announced := swept.foldl_announce ⟨placed.1, placed.2⟩ cfg now atHome
  rw [← same.reapStale_here only now] at announced
  exact announced

/-- A server of this session alone makes the same step as one of many. -/
theorem step_here (housed : first.Housed home) (only : second.OnlyIn sid)
    (atHome : first.AtHome home stamped) (same : SameIn home sid first second)
    (concerns : first.Concerns sid stamped) :
    SameIn home sid (first.step cfg stamped) (second.step cfg stamped) := by
  have received : ∀ ctx msg, first.received stamped = some (ctx, msg) → ctx.sid = home msg.pid :=
    fun ctx msg h => housed.received atHome h
  have later : (first.step cfg stamped).Placed home := (housed.step atHome).placed
  obtain ⟨now, event⟩ := stamped
  cases event with
  | connect socket other =>
      obtain ⟨rfl, taken⟩ : other = sid ∧ first.contexts socket = none := concerns
      exact same.connect_here only taken now
  | message socket frame => exact same.message_here housed concerns received later
  | closing socket => exact same.closing_here concerns
  | close socket => exact same.close_here housed concerns now
  | tick => exact same.tick housed.placed
  | reap => exact same.reap_here housed only now
  | reconcile => exact concerns.elim
  | beacon frame => exact concerns.elim

end Step

/-- The events of a run that have to do with this session. -/
def eventsOf (cfg : Config) (sid : SessionId) (events : List Stamped) : List Stamped :=
  Transition.purge (step cfg) (fun server stamped => ¬server.Concerns sid stamped) initial events

/-- As long as every participant keeps to one session, a session's roster with
its positions and flags, its settle entry, and everything sent in it, to whom
and in which order, are what they would be had the connections of all the
others, the beacons and the reconciler never done anything. -/
theorem session_noninterference (cfg : Config) (home : ParticipantId → SessionId)
    (sid : SessionId) (events : List Stamped)
    (atHome : Transition.Along (step cfg) (AtHome home) initial events) :
    (initial.run cfg events).registry.get sid =
        (initial.run cfg (eventsOf cfg sid events)).registry.get sid ∧
      (initial.run cfg events).scheduler.settling.get? sid =
        (initial.run cfg (eventsOf cfg sid events)).scheduler.settling.get? sid ∧
      toldIn sid (initial.run cfg events).outbound =
        toldIn sid (initial.run cfg (eventsOf cfg sid events)).outbound := by
  have respects : ∀ first second stamped, first.AtHome home stamped →
      (first.Housed home ∧ second.OnlyIn sid ∧ SameIn home sid first second) →
        ¬first.Concerns sid stamped →
          (first.step cfg stamped).Housed home ∧ second.OnlyIn sid ∧
            SameIn home sid (first.step cfg stamped) second := by
    intro first second stamped atHome related elsewhere
    obtain ⟨housed, only, same⟩ := related
    exact ⟨housed.step atHome, only, step_elsewhere housed atHome same elsewhere⟩
  have consistent : ∀ first second stamped, first.AtHome home stamped →
      (first.Housed home ∧ second.OnlyIn sid ∧ SameIn home sid first second) →
        ¬¬first.Concerns sid stamped →
          (first.step cfg stamped).Housed home ∧ (second.step cfg stamped).OnlyIn sid ∧
            SameIn home sid (first.step cfg stamped) (second.step cfg stamped) := by
    intro first second stamped atHome related concerns
    obtain ⟨housed, only, same⟩ := related
    have here := not_not.mp concerns
    refine ⟨housed.step atHome, only.step ?_, step_here housed only atHome same here⟩
    intro socket other he
    rw [Concerns, he] at here
    exact here.1
  obtain ⟨_, _, same⟩ := Transition.run_purge_along respects consistent
    ⟨initial_housed home, initial_onlyIn sid, sameIn_refl initial⟩ atHome
  exact ⟨same.session, same.settling, same.outbound⟩

open Scenario

/-- Alice keeps to one session, bob to another. -/
def homes (pid : ParticipantId) : SessionId := if pid = alice then session else otherSession

/-- Both move, both are flushed, and one says goodbye. -/
def sideBySide : List Stamped :=
  arrival 0 1 session alice 1 ++ arrival 0 2 otherSession bob 1 ++
    [⟨10, .message 1 (cursorFrame session alice 2 10 1 2)⟩,
      ⟨10, .message 2 (cursorFrame otherSession bob 2 10 0 4)⟩, ⟨50, .tick⟩,
      ⟨60, .message 2 (.parsed (.bye { envelope otherSession bob 3 60 with }))⟩, ⟨70, .close 2⟩,
      ⟨100, .tick⟩]

example : ∀ stamped ∈ sideBySide, stamped.Sendable := by decide

example : eventsOf (config 100) session sideBySide =
      arrival 0 1 session alice 1 ++
        [⟨10, .message 1 (cursorFrame session alice 2 10 1 2)⟩, ⟨50, .tick⟩, ⟨100, .tick⟩] := by
  decide

theorem session_noninterference_sideBySide :
    (initial.run (config 100) sideBySide).registry.get session =
        (initial.run (config 100) (eventsOf (config 100) session sideBySide)).registry.get session ∧
      toldIn session (initial.run (config 100) sideBySide).outbound =
        toldIn session
          (initial.run (config 100) (eventsOf (config 100) session sideBySide)).outbound := by
  have atHome : Transition.Along (step (config 100)) (AtHome homes) initial sideBySide := by decide
  obtain ⟨roster, _, told⟩ := session_noninterference (config 100) homes session sideBySide atHome
  exact ⟨roster, told⟩

end Server

end Copresence
