import Copresence.Properties.Announcements
import Copresence.Services.Deliveries

/-! What each action delivers to whom, on a network that loses nothing. -/
namespace Copresence

open Collections

/-- What an action tells everybody who is connected to a session after it. -/
def Action.tells (server : Server) (now : Int) (sid : SessionId) (pid : ParticipantId) :
    Action → List OutboundMessage
  | hello ctx msg =>
    if sid ≠ ctx.sid then []
    else if pid = msg.pid then
      [.welcome (toWelcome (server.helloSession now ctx msg) msg.pid 0 now)]
    else if server.InRoster sid msg.pid then []
    else [joinMessage sid (helloed msg none) now]
  | bye ctx other =>
    if sid = ctx.sid ∧ server.InRoster sid other then [leaveMessage sid other now] else []
  | close ctx =>
    match ctx.pid with
    | none => []
    | some other =>
      if sid = ctx.sid ∧ server.InRoster sid other then [leaveMessage sid other now] else []
  | tick =>
    (((server.registry.get sid).bind
      (TickScheduler.tickPatch server.scheduler.settling (server.scheduler.seq + 1) now)).map
        OutboundMessage.patch).toList
  | idle | connect _ _ | closing _ | presence _ _ | reap => []

instance : DecidablePred Action.IsFrame
  | .hello _ _ | .presence _ _ | .bye _ _ => inferInstanceAs (Decidable True)
  | .idle | .connect _ _ | .closing _ | .close _ | .tick | .reap => inferInstanceAs (Decidable False)

namespace Server

/-- The tracker's state: it has seen every send of the hub so far. -/
def convergence (server : Server) : ConvergenceTracker :=
  server.outbound.foldl ConvergenceTracker.onDeliver { sessions := JsMap.empty }

/-- Registered for the session, on an open socket. -/
def Connected (server : Server) (sid : SessionId) (pid : ParticipantId) : Prop :=
  server.hub.Reaches server.isOpen sid pid

instance (server : Server) (sid : SessionId) (pid : ParticipantId) :
    Decidable (server.Connected sid pid) := by
  rw [Connected]
  infer_instance

/-- Connections that come and go, ticks, and frames that are refused or are a
hello, a cursor, a scroll or a bye. -/
def CarriesPresence (server : Server) (stamped : Stamped) : Prop :=
  match stamped.event with
  | .connect _ _ | .closing _ | .close _ | .tick => True
  | .message _ _ => (server.received stamped).isSome → (server.action stamped).IsFrame
  | .reap | .reconcile | .beacon _ => False

instance (server : Server) (stamped : Stamped) : Decidable (server.CarriesPresence stamped) := by
  unfold CarriesPresence
  cases stamped.event <;> infer_instance

variable {cfg : Config} {home : ParticipantId → SessionId} {server : Server} {stamped : Stamped}

theorem CarriesPresence.not_reap (carries : server.CarriesPresence stamped) :
    stamped.event ≠ .reap := by
  intro h
  rw [CarriesPresence, h] at carries
  exact carries

theorem written_of_append {writes : List Write}
    (h : (server.step cfg stamped).outbound = server.outbound ++ writes) :
    server.written cfg stamped = writes := by
  rw [written, h, List.drop_left]

theorem convergence_step (cfg : Config) (server : Server) (stamped : Stamped) :
    (server.step cfg stamped).convergence =
      (server.written cfg stamped).foldl ConvergenceTracker.onDeliver server.convergence := by
  rw [convergence, outbound_step, List.foldl_append]
  rfl

theorem written_of_unmoved (same : (server.step cfg stamped).outbound = server.outbound) :
    server.written cfg stamped = [] := by
  rw [written, same, List.drop_length]

/-- A refused frame is at most answered past the hub. -/
theorem unaddressed_of_refused {socket : SocketId} {frame : RawFrame}
    (he : stamped.event = .message socket frame) (refused : server.received stamped = none) :
    ∀ write ∈ server.written cfg stamped, write.recipient = none := by
  have unmoved : (server.step cfg stamped).outbound = server.outbound →
      ∀ write ∈ server.written cfg stamped, write.recipient = none := by
    intro same write hw
    rw [written_of_unmoved same] at hw
    cases hw
  cases hl : server.liveContext socket with
  | none =>
      apply unmoved
      rw [step, he]
      dsimp only
      rw [message, hl]
  | some ctx =>
      rcases step_of_rejected cfg he hl refused with ⟨code, detail, hs⟩ | hs
      · rw [sendError] at hs
        split at hs
        · intro write hw
          rw [written_of_append (congrArg outbound hs)] at hw
          rw [List.mem_singleton.mp hw]
        · exact unmoved (by rw [hs])
      · exact unmoved (by rw [hs]; rfl)

/-- An event that is not a frame and comes to nothing sends nothing. -/
theorem outbound_of_idle (carries : server.CarriesPresence stamped)
    (idle : server.action stamped = .idle)
    (notFrame : ∀ socket frame, stamped.event ≠ .message socket frame) :
    (server.step cfg stamped).outbound = server.outbound := by
  rw [CarriesPresence] at carries
  cases he : stamped.event with
  | connect socket sid =>
      rw [step, he]
      dsimp only
      rw [connect]
      split <;> rfl
  | message socket frame => exact absurd he (notFrame socket frame)
  | closing socket =>
      rw [step, he]
      dsimp only
      rw [closing]
      split <;> rfl
  | close socket =>
      rw [step, he]
      dsimp only
      rw [close]
      cases hl : server.liveContext socket with
      | none => rfl
      | some ctx =>
          rw [action, he] at idle
          dsimp only at idle
          rw [hl] at idle
          cases idle
  | tick =>
      rw [action, he] at idle
      cases idle
  | reap =>
      rw [he] at carries
      exact carries.elim
  | reconcile =>
      rw [he] at carries
      exact carries.elim
  | beacon frame =>
      rw [he] at carries
      exact carries.elim

/-- What comes to nothing is at most answered past the hub. -/
theorem unaddressed_of_idle (carries : server.CarriesPresence stamped)
    (idle : server.action stamped = .idle) :
    ∀ write ∈ server.written cfg stamped, write.recipient = none := by
  by_cases isFrame : ∃ socket frame, stamped.event = .message socket frame
  · obtain ⟨socket, frame, he⟩ := isFrame
    have refused : server.received stamped = none := by
      rw [← Option.not_isSome_iff_eq_none]
      intro accepted
      rw [CarriesPresence, he] at carries
      have presence := carries accepted
      rw [idle] at presence
      exact presence
    exact unaddressed_of_refused he refused
  · have notFrame : ∀ socket frame, stamped.event ≠ .message socket frame :=
      fun socket frame he => isFrame ⟨socket, frame, he⟩
    intro write hw
    rw [written_of_unmoved (outbound_of_idle carries idle notFrame)] at hw
    cases hw

section Sends

variable (sid : SessionId) (pid : ParticipantId)

/-- A leave goes to whoever is connected to the session afterwards. -/
theorem deliveredTo_departureWrites {ctx : ConnectionContext} {other : ParticipantId}
    (seated : (server.hub.unregister other).Seated home) (now : Int) :
    deliveredTo sid pid (server.departureWrites now ctx other) =
      if (removeFromSession now ctx other server).Connected sid pid then
        if sid = ctx.sid ∧ server.InRoster sid other then [leaveMessage sid other now] else []
      else [] := by
  have connected : (removeFromSession now ctx other server).Connected sid pid ↔
      (server.hub.unregister other).Reaches server.isOpen sid pid := by
    rw [removeFromSession_eq]
    rfl
  have another : (server.hub.unregister other).Reaches server.isOpen sid pid → pid ≠ other := by
    intro ⟨_, registered, _⟩
    exact (BroadcastHub.registration_of_unregister registered).1
  have told : deliveredTo sid pid ((server.hub.unregister other).broadcastToSession server.isOpen
      ctx.sid (leaveMessage ctx.sid other now) (some other)) = _ :=
    seated.deliveredTo_broadcast (leaveMessage ctx.sid other now) (some other) sid pid
  have hSid : (leaveMessage ctx.sid other now).envelope.sid = ctx.sid := rfl
  simp only [connected]
  rw [departureWrites]
  by_cases there : (server.entryOf ctx.sid other).isSome
  · rw [if_pos there, told, hSid]
    by_cases reached : (server.hub.unregister other).Reaches server.isOpen sid pid
    · by_cases own : sid = ctx.sid
      · subst own
        rw [if_pos ⟨rfl, fun h => another reached (Option.some.inj h), reached⟩, if_pos reached,
          if_pos ⟨rfl, there⟩]
      · rw [if_neg fun h => own h.1.symm, if_pos reached, if_neg fun h => own h.1]
    · rw [if_neg fun h => reached h.2.2, if_neg reached]
  · have absent : ¬(sid = ctx.sid ∧ server.InRoster sid other) := by
      rintro ⟨rfl, h⟩
      exact there h
    rw [if_neg there, if_neg absent, ite_self]
    rfl

/-- A hello is answered with a welcome, to its sender and nobody else. -/
theorem deliveredTo_welcome {ctx : ConnectionContext} {msg : HelloMessage} {now : Int} :
    deliveredTo sid pid ((server.helloRegistered now ctx msg).hub.sendTo server.isOpen msg.pid
        (.welcome (toWelcome (server.helloSession now ctx msg) msg.pid 0 now))) =
      if pid = msg.pid ∧ ctx.sid = sid ∧
          (server.helloRegistered now ctx msg).hub.Reaches server.isOpen sid pid then
        [.welcome (toWelcome (server.helloSession now ctx msg) msg.pid 0 now)]
      else [] := by
  have registered : (server.helloRegistered now ctx msg).hub.registration msg.pid =
      some { pid := msg.pid, sid := ctx.sid, socket := ctx.socket } := by
    rw [helloRegistered]
    exact (BroadcastHub.registration_register _ _ _).trans (if_pos rfl)
  have hSid : (OutboundMessage.welcome (toWelcome (server.helloSession now ctx msg) msg.pid 0
      now)).envelope.sid = ctx.sid := helloSession_sid server now ctx msg
  rw [BroadcastHub.deliveredTo_sendTo, hSid]
  intro connection h
  cases registered.symm.trans h
  exact hSid.symm

/-- The others hear of a newcomer, and of nobody who was there. -/
theorem deliveredTo_joins {ctx : ConnectionContext} {msg : HelloMessage} {now : Int}
    (seated : (server.helloRegistered now ctx msg).hub.Seated home) :
    deliveredTo sid pid
        (if (server.entryOf ctx.sid msg.pid).isSome then []
        else (server.helloRegistered now ctx msg).hub.broadcastToSession server.isOpen ctx.sid
          (joinMessage ctx.sid (helloed msg none) now) (some msg.pid)) =
      if ¬server.InRoster ctx.sid msg.pid ∧ ctx.sid = sid ∧ pid ≠ msg.pid ∧
          (server.helloRegistered now ctx msg).hub.Reaches server.isOpen sid pid then
        [joinMessage ctx.sid (helloed msg none) now]
      else [] := by
  have joined : deliveredTo sid pid ((server.helloRegistered now ctx msg).hub.broadcastToSession
      server.isOpen ctx.sid (joinMessage ctx.sid (helloed msg none) now) (some msg.pid)) = _ :=
    seated.deliveredTo_broadcast (joinMessage ctx.sid (helloed msg none) now) (some msg.pid) sid pid
  have hSid : (joinMessage ctx.sid (helloed msg none) now).envelope.sid = ctx.sid := rfl
  by_cases there : server.InRoster ctx.sid msg.pid
  · have present : (server.entryOf ctx.sid msg.pid).isSome := there
    rw [if_pos present, if_neg fun h => h.1 there]
    rfl
  · have absent : ¬(server.entryOf ctx.sid msg.pid).isSome := there
    rw [if_neg absent, joined, hSid]
    simp only [there, not_false_eq_true, true_and, ne_eq, Option.some.injEq]

/-- A hello is answered to its sender; the others hear of a newcomer. -/
theorem deliveredTo_helloWrites {ctx : ConnectionContext} {msg : HelloMessage} {now : Int}
    (seated : (server.helloRegistered now ctx msg).hub.Seated home) :
    deliveredTo sid pid (server.helloWrites now ctx msg) =
      if (handleHello now ctx msg server).Connected sid pid then
        (Action.hello ctx msg).tells server now sid pid
      else [] := by
  have connected : (handleHello now ctx msg server).Connected sid pid ↔
      (server.helloRegistered now ctx msg).hub.Reaches server.isOpen sid pid := by
    rw [handleHello_eq]
    rfl
  simp only [connected]
  rw [helloWrites, deliveredTo_append, deliveredTo_welcome, deliveredTo_joins sid pid seated,
    Action.tells]
  by_cases reached : (server.helloRegistered now ctx msg).hub.Reaches server.isOpen sid pid
  · by_cases own : sid = ctx.sid
    · subst own
      by_cases itself : pid = msg.pid
      · simp [itself]
      · by_cases there : server.InRoster ctx.sid msg.pid
        · simp [itself, there]
        · simp [reached, itself, there]
    · simp [own, Ne.symm own]
  · simp [reached]

/-- A tick tells a session at most one patch. -/
theorem deliveredTo_tick (seated : server.hub.Seated home) (now : Int) :
    deliveredTo sid pid (server.scheduler.tick server.registry server.hub server.isOpen now).2.2 =
      if server.Connected sid pid then Action.tick.tells server now sid pid else [] := by
  have turn : ∀ session : Session, deliveredTo sid pid (TickScheduler.tickWrites server.hub
      server.isOpen server.scheduler.settling (server.scheduler.seq + 1) now session) =
        if session.sid = sid ∧ server.Connected sid pid then
          ((TickScheduler.tickPatch server.scheduler.settling (server.scheduler.seq + 1) now
            session).map OutboundMessage.patch).toList
        else [] := by
    intro session
    rw [TickScheduler.tickWrites]
    cases due : TickScheduler.tickPatch server.scheduler.settling (server.scheduler.seq + 1) now
      session with
    | none => rw [Option.map_none, Option.toList_none, ite_self]; rfl
    | some patch =>
        have hSid : (OutboundMessage.patch patch).envelope.sid = session.sid :=
          (TickScheduler.tickPatch_envelope due).1
        dsimp only
        rw [← hSid, seated.deliveredTo_broadcast]
        simp only [ne_eq, reduceCtorEq, not_false_eq_true, true_and]
        rfl
  rw [TickScheduler.tick_writes, deliveredTo, List.filterMap_flatMap, Action.tells]
  cases hg : server.registry.get sid with
  | none =>
      rw [Option.bind_none, Option.map_none, Option.toList_none, ite_self, List.flatMap_eq_nil_iff]
      intro session hm
      have stored := SessionRegistry.mem_all_iff.mp hm
      show deliveredTo sid pid _ = []
      rw [turn, if_neg]
      rintro ⟨rfl, _⟩
      rw [hg] at stored
      cases stored
  | some session =>
      obtain rfl := SessionRegistry.get_sid hg
      have listed := SessionRegistry.mem_all_iff.mpr hg
      have nodup : server.registry.all.Nodup := server.registry.all_sids_nodup.of_map
      rw [Option.bind_some, BroadcastHub.flatMap_of_unique nodup listed]
      · show deliveredTo session.sid pid _ = _
        rw [turn]
        simp only [true_and]
      · intro other ho different
        show deliveredTo session.sid pid _ = []
        rw [turn, if_neg]
        rintro ⟨same, -⟩
        have stored := SessionRegistry.mem_all_iff.mp ho
        rw [same, hg] at stored
        exact different (Option.some.inj stored).symm

end Sends

/-- What an action tells does not depend on the guard of its connection. -/
theorem tells_hello_setContext {ctx guarded : ConnectionContext} {msg : HelloMessage}
    (same : guarded.identity = ctx.identity) (server : Server) (now : Int) (sid : SessionId)
    (pid : ParticipantId) :
    (Action.hello guarded msg).tells (server.setContext guarded) now sid pid =
      (Action.hello ctx msg).tells server now sid pid := by
  have hSid := identity_sid same
  rw [Action.tells, Action.tells, helloSession_setContext server now same, hSid]
  rfl

/-- What a departure delivers, whatever was recorded of it before. -/
theorem deliveredTo_removal (server : Server) {before after : Server} {now : Int}
    {ctx : ConnectionContext} {other : ParticipantId} {writes : List Write} (next : after.Announcing home)
    (left : after = removeFromSession now ctx other before)
    (registry : before.registry = server.registry) (sent : before.outbound = server.outbound)
    (grown : after.outbound = server.outbound ++ writes) (sid : SessionId) (pid : ParticipantId) :
    deliveredTo sid pid writes =
      if after.Connected sid pid then
        if sid = ctx.sid ∧ server.InRoster sid other then [leaveMessage sid other now] else []
      else [] := by
  subst left
  have seated := next.told.seated
  have hOut : (removeFromSession now ctx other before).outbound =
      server.outbound ++ before.departureWrites now ctx other := by
    rw [removeFromSession_eq, ← sent]
    rfl
  rw [removeFromSession_eq] at seated
  rw [List.append_cancel_left (grown.symm.trans hOut), deliveredTo_departureWrites sid pid seated]
  simp only [inRoster_congr registry]

/-- Everything a step delivers, to everybody. -/
theorem deliveredTo_written (next : (server.step cfg stamped).Announcing home)
    (carries : server.CarriesPresence stamped) (sid : SessionId) (pid : ParticipantId) :
    deliveredTo sid pid (server.written cfg stamped) =
      if (server.step cfg stamped).Connected sid pid then
        (server.action stamped).tells server stamped.time sid pid
      else [] := by
  have grown := outbound_step cfg server stamped
  have effect := step_effect cfg server stamped
  by_cases idle : server.action stamped = .idle
  · rw [idle, Action.tells, ite_self]
    apply deliveredTo_eq_nil
    intro write hw addressed
    rw [unaddressed_of_idle carries idle write hw] at addressed
    cases addressed
  have noSweep : server.action stamped ≠ .reap := fun h => carries.not_reap (action_eq_reap h)
  generalize server.action stamped = action at effect idle noSweep ⊢
  generalize server.written cfg stamped = writes at grown ⊢
  generalize server.step cfg stamped = after at next effect grown ⊢
  have silent : after.outbound = server.outbound → deliveredTo sid pid writes = [] := by
    intro same
    rw [same] at grown
    rw [List.append_right_eq_self.mp grown.symm]
    rfl
  cases effect with
  | idle quiet => exact absurd rfl idle
  | connect fresh => rw [silent rfl, Action.tells, ite_self]
  | closing wasOpen => rw [silent rfl, Action.tells, ite_self]
  | @hello ctx guarded msg live same identified =>
      have seated := next.told.seated
      have hOut : (handleHello stamped.time guarded msg (server.setContext guarded)).outbound =
          server.outbound ++
            (server.setContext guarded).helloWrites stamped.time guarded msg := by
        rw [handleHello_eq]
        rfl
      rw [handleHello_eq] at seated
      rw [List.append_cancel_left (grown.symm.trans hOut), deliveredTo_helloWrites sid pid seated,
        tells_hello_setContext same]
  | presence live same isPresence identified =>
      obtain ⟨registry, h⟩ := handlePresence_eq (server.setContext _) _ _
      rw [silent (by rw [h]; rfl), Action.tells, ite_self]
  | @bye ctx guarded other live same identified =>
      rw [deliveredTo_removal server next rfl rfl rfl grown, Action.tells, identity_sid same]
  | @close ctx live =>
      rw [handleDisconnect] at next grown silent ⊢
      rw [Action.tells]
      cases hp : ctx.pid with
      | none =>
          rw [hp] at silent
          rw [silent rfl, ite_self]
      | some other =>
          rw [hp] at next grown
          dsimp only at next grown ⊢
          apply deliveredTo_removal server next rfl _ _ grown
          · split <;> rfl
          · split <;> rfl
  | tick =>
      have hOut : (server.tick stamped.time).outbound = server.outbound ++
          (server.scheduler.tick server.registry server.hub server.isOpen stamped.time).2.2 := rfl
      have seated : server.hub.Seated home := next.told.seated
      rw [List.append_cancel_left (grown.symm.trans hOut), deliveredTo_tick sid pid seated]
      rfl
  | reap => exact absurd rfl noSweep

end Server

end Copresence
