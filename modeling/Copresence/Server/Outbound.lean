import Copresence.Server.Roster

/-! What each action makes the server say. -/
namespace Copresence

open Collections

/-- The messages an action can hand to a socket. -/
inductive Action.Says (server : Server) (ttlMs now : Int) : Action → OutboundMessage → Prop where
  | reply {message : OutboundMessage} (isReply : Server.IsReply message) :
      Says server ttlMs now .idle message
  | welcome (ctx : ConnectionContext) (msg : HelloMessage) :
      Says server ttlMs now (.hello ctx msg)
        (.welcome (toWelcome (server.helloSession now ctx msg) msg.pid 0 now))
  | join {ctx : ConnectionContext} {msg : HelloMessage}
      (newcomer : server.entryOf ctx.sid msg.pid = none) :
      Says server ttlMs now (.hello ctx msg) (joinMessage ctx.sid (helloed msg none) now)
  | bye (ctx : ConnectionContext) (pid : ParticipantId) :
      Says server ttlMs now (.bye ctx pid) (leaveMessage ctx.sid pid now)
  | close {ctx : ConnectionContext} {pid : ParticipantId} (identified : ctx.pid = some pid) :
      Says server ttlMs now (.close ctx) (leaveMessage ctx.sid pid now)
  | tick {session : Session} {patch : PatchMessage} (listed : session ∈ server.registry.all)
      (due : TickScheduler.tickPatch server.scheduler.settling (server.scheduler.seq + 1) now
        session = some patch) :
      Says server ttlMs now .tick (.patch patch)
  | reap {reaped : ReapedParticipant} (stale : reaped ∈ (server.registry.reapStale ttlMs now).2) :
      Says server ttlMs now .reap (leaveMessage reaped.sid reaped.pid now)

namespace Server

variable {cfg : Config} {server after : Server} {now : Int} {action : Action}

/-- What is broadcast to a session is that message. -/
theorem message_of_mem_broadcast {hub : BroadcastHub} {isOpen : SocketId → Bool} {sid : SessionId}
    {message : OutboundMessage} {exclude : Option ParticipantId} {write : Write}
    (h : write ∈ hub.broadcastToSession isOpen sid message exclude) : write.message = message := by
  obtain ⟨pid, _, _, hs⟩ := BroadcastHub.mem_broadcastToSession.mp h
  exact message_of_mem_sendTo hs

theorem removeFromSession_outbound (server : Server) (now : Int) (ctx : ConnectionContext)
    (pid : ParticipantId) :
    ∃ writes, (removeFromSession now ctx pid server).outbound = server.outbound ++ writes ∧
      ∀ write ∈ writes, write.message = leaveMessage ctx.sid pid now := by
  refine ⟨server.departureWrites now ctx pid, by rw [removeFromSession_eq]; rfl, ?_⟩
  intro write hw
  unfold departureWrites at hw
  split at hw
  · exact message_of_mem_broadcast hw
  · cases hw

theorem foldl_announce_outbound (cfg : Config) (now : Int) (reaped : List ReapedParticipant)
    (server : Server) :
    ∃ writes, (reaped.foldl (Reaper.announce cfg now) server).outbound =
        server.outbound ++ writes ∧
      ∀ write ∈ writes, ∃ gone ∈ reaped, write.message = leaveMessage gone.sid gone.pid now := by
  induction reaped generalizing server with
  | nil => exact ⟨[], (List.append_nil _).symm, by simp⟩
  | cons first reaped ih =>
      obtain ⟨later, hLater, leaves⟩ := ih (Reaper.announce cfg now server first)
      refine ⟨_ ++ later, by rw [List.foldl_cons, hLater, ← List.append_assoc]; rfl, ?_⟩
      intro write hw
      rcases List.mem_append.mp hw with hw | hw
      · exact ⟨first, List.mem_cons_self, message_of_mem_broadcast hw⟩
      · obtain ⟨gone, hg, hm⟩ := leaves write hw
        exact ⟨gone, List.mem_cons_of_mem _ hg, hm⟩

/-- A hello's session does not depend on the guard of its connection. -/
theorem helloSession_setContext (server : Server) (now : Int) {ctx guarded : ConnectionContext}
    (same : guarded.identity = ctx.identity) (msg : HelloMessage) :
    (server.setContext guarded).helloSession now guarded msg = server.helloSession now ctx msg := by
  rw [helloSession, helloSession, identity_sid same]
  rfl

/-- A hello is said over the services it finds, whatever its context's guard. -/
theorem helloWrites_said (server : Server) (ttlMs now : Int) {ctx guarded : ConnectionContext}
    (same : guarded.identity = ctx.identity) (msg : HelloMessage) :
    ∀ write ∈ (server.setContext guarded).helloWrites now guarded msg,
      (Action.hello ctx msg).Says server ttlMs now write.message := by
  have hSid := identity_sid same
  intro write hw
  rcases List.mem_append.mp hw with hw | hw
  · rw [message_of_mem_sendTo hw, helloSession_setContext server now same]
    exact .welcome ctx msg
  · split at hw
    · cases hw
    · next absent =>
        rw [message_of_mem_broadcast hw, hSid]
        refine .join ?_
        rw [hSid] at absent
        exact Option.not_isSome_iff_eq_none.mp absent

/-- A step only adds to the sockets' history, and only what its action says. -/
theorem Effect.outbound (effect : Effect cfg server now action after) :
    ∃ writes, after.outbound = server.outbound ++ writes ∧
      ∀ write ∈ writes, action.Says server cfg.ttlMs now write.message := by
  have silent : server.outbound = server.outbound ++ [] ∧ ∀ write ∈ ([] : List Write),
      action.Says server cfg.ttlMs now write.message := ⟨(List.append_nil _).symm, by simp⟩
  cases effect with
  | idle quiet =>
      obtain ⟨writes, hw, replies⟩ := quiet.replies
      exact ⟨writes, hw, fun write hm => .reply (replies write hm)⟩
  | connect fresh => exact ⟨[], silent⟩
  | closing wasOpen => exact ⟨[], silent⟩
  | hello live same identified =>
      exact ⟨_, by rw [handleHello_eq]; rfl, helloWrites_said server _ _ same _⟩
  | presence live same isPresence identified =>
      obtain ⟨registry, h⟩ := handlePresence_eq (server.setContext _) _ _
      rw [h]
      exact ⟨[], silent⟩
  | @bye ctx guarded pid live same identified =>
      obtain ⟨writes, hw, leaves⟩ := removeFromSession_outbound
        ((server.setContext guarded).setContext { guarded with leftExplicitly := true }) now
        guarded pid
      refine ⟨writes, hw, fun write hm => ?_⟩
      rw [leaves write hm, identity_sid same]
      exact .bye ctx pid
  | @close ctx live =>
      rw [handleDisconnect]
      split
      · exact ⟨[], silent⟩
      · next pid hp =>
          obtain ⟨writes, hw, leaves⟩ := removeFromSession_outbound
            (if ctx.leftExplicitly then server.setReadyState ctx.socket .closed
              else (server.setReadyState ctx.socket .closed).recordGenerated cfg
                (socketEnd ctx pid now)) now ctx pid
          refine ⟨writes, hw.trans ?_, fun write hm => ?_⟩
          · split <;> rfl
          · rw [leaves write hm]
            exact .close hp
  | tick =>
      have hWrites := TickScheduler.tick_writes server.scheduler server.registry server.hub
        server.isOpen now
      refine ⟨_, rfl, fun write hw => ?_⟩
      change write ∈ (server.scheduler.tick server.registry server.hub server.isOpen now).2.2 at hw
      rw [hWrites] at hw
      obtain ⟨session, hm, hw⟩ := List.mem_flatMap.mp hw
      unfold TickScheduler.tickWrites at hw
      split at hw
      · cases hw
      · next patch hp =>
          rw [message_of_mem_broadcast hw]
          exact .tick hm hp
  | reap =>
      obtain ⟨writes, hw, leaves⟩ := foldl_announce_outbound cfg now
        (server.registry.reapStale cfg.ttlMs now).2
        { server with registry := (server.registry.reapStale cfg.ttlMs now).1 }
      refine ⟨writes, hw, fun write hm => ?_⟩
      obtain ⟨gone, hg, he⟩ := leaves write hm
      rw [he]
      exact .reap hg

/-- What a step adds to the sockets' history. -/
def written (cfg : Config) (server : Server) (stamped : Stamped) : List Write :=
  (server.step cfg stamped).outbound.drop server.outbound.length

theorem outbound_step (cfg : Config) (server : Server) (stamped : Stamped) :
    (server.step cfg stamped).outbound = server.outbound ++ server.written cfg stamped := by
  obtain ⟨writes, hw, _⟩ := (step_effect cfg server stamped).outbound
  rw [written, hw, List.drop_left]

/-- What a run adds to the sockets' history. -/
def sent (cfg : Config) (server : Server) (events : List Stamped) : List Write :=
  (server.run cfg events).outbound.drop server.outbound.length

theorem outbound_run (cfg : Config) (server : Server) (events : List Stamped) :
    (server.run cfg events).outbound = server.outbound ++ server.sent cfg events := by
  have grows : server.outbound <+: (server.run cfg events).outbound := by
    apply Transition.invariant_run (P := fun later : Server => server.outbound <+: later.outbound)
    · intro later stamped h
      rw [outbound_step]
      exact h.trans (List.prefix_append _ _)
    · exact List.prefix_refl _
  obtain ⟨writes, hw⟩ := grows
  rw [sent, ← hw, List.drop_left]

theorem sent_cons (cfg : Config) (server : Server) (stamped : Stamped) (events : List Stamped) :
    server.sent cfg (stamped :: events) =
      server.written cfg stamped ++ (server.step cfg stamped).sent cfg events := by
  have whole := outbound_run cfg (server.step cfg stamped) events
  rw [outbound_step, List.append_assoc] at whole
  show ((server.step cfg stamped).run cfg events).outbound.drop _ = _
  rw [whole, List.drop_left]

theorem said_of_mem_written {stamped : Stamped} {write : Write}
    (h : write ∈ server.written cfg stamped) :
    (server.action stamped).Says server cfg.ttlMs stamped.time write.message := by
  obtain ⟨writes, hw, said⟩ := (step_effect cfg server stamped).outbound
  rw [written, hw, List.drop_left] at h
  exact said write h

/-- A patch is numbered by the tick that sends it. -/
theorem patch_of_mem_written {stamped : Stamped} {write : Write} {patch : PatchMessage}
    (h : write ∈ server.written cfg stamped) (hp : write.message = .patch patch) :
    server.action stamped = .tick ∧ patch.seq = server.scheduler.seq + 1 ∧
      ∃ session, server.registry.get patch.sid = some session ∧
        TickScheduler.tickPatch server.scheduler.settling (server.scheduler.seq + 1)
          stamped.time session = some patch := by
  have said := said_of_mem_written h
  rw [hp] at said
  generalize server.action stamped = action at said
  generalize hm : OutboundMessage.patch patch = message at said
  cases said with
  | reply isReply => rw [← hm] at isReply; rcases isReply with h | h | h <;> cases h
  | tick listed due =>
      obtain rfl := OutboundMessage.patch.inj hm
      obtain ⟨hSid, hSeq⟩ := TickScheduler.tickPatch_envelope due
      exact ⟨rfl, hSeq, _, by rw [hSid]; exact SessionRegistry.mem_all_iff.mp listed, due⟩
  | _ => cases hm

/-- The tick counter never goes back, -/
theorem scheduler_step_le (cfg : Config) (server : Server) (stamped : Stamped) :
    server.scheduler.seq ≤ (server.step cfg stamped).scheduler.seq := by
  by_cases isTick : server.action stamped = .tick
  · rw [step_of_tick cfg isTick]
    exact Int.le_of_lt (Int.lt_succ _)
  · exact Int.le_of_eq (congrArg TickScheduler.seq
      ((step_effect cfg server stamped).scheduler isTick).symm)

/-- and each tick moves it by one. -/
theorem scheduler_step_tick (cfg : Config) {server : Server} {stamped : Stamped}
    (isTick : server.action stamped = .tick) :
    (server.step cfg stamped).scheduler.seq = server.scheduler.seq + 1 := by
  rw [step_of_tick cfg isTick]
  rfl

end Server

end Copresence
