import Copresence.Server.Alike

/-! Frames the router rejects leave nothing behind but error replies and
filled gaps: the run without them is the same run. -/
namespace Copresence

namespace Server

/-- A frame that no controller gets to see. -/
def Rejected (server : Server) (stamped : Stamped) : Prop :=
  (∃ socket frame, stamped.event = .message socket frame) ∧ server.received stamped = none

instance (server : Server) (stamped : Stamped) : Decidable (server.Rejected stamped) :=
  match h : stamped.event with
  | .message socket frame =>
    if hr : server.received stamped = none then isTrue ⟨⟨socket, frame, h⟩, hr⟩
    else isFalse fun rejected => hr rejected.2
  | .connect _ _ | .closing _ | .close _ | .tick | .reap | .reconcile | .beacon _ =>
    isFalse (by simp [Rejected, h])

/-- The events of a run without the frames it rejects. -/
def withoutRejected (cfg : Config) (server : Server) (events : List Stamped) : List Stamped :=
  Transition.purge (step cfg) Rejected server events

variable {cfg : Config} {server first second : Server} {stamped : Stamped}

/-- A frame that is not accepted does not move its guard. -/
theorem afterGuard_of_rejected {ctx : ConnectionContext} {frame : RawFrame}
    (h : ∀ msg, judge ctx frame ≠ .accepted msg) :
    (afterGuard ctx frame).withoutGaps = ctx.withoutGaps := by
  rcases judge_cases ctx frame with ⟨_, _, _, kept⟩ | ⟨msg, _, judged, guarded⟩
  · rw [kept]
  · have refused : (ctx.sequenceGuard.accept msg.seq).2 ≠ true := by
      intro accepted
      rw [if_pos accepted] at judged
      exact h msg judged
    have seen : (ctx.sequenceGuard.accept msg.seq).1.lastSeen = ctx.sequenceGuard.lastSeen := by
      rw [SequenceGuard.accept_lastSeen, if_neg refused]
    rw [guarded, ConnectionContext.withoutGaps, ConnectionContext.withoutGaps, seen]

theorem same_sendError (server : Server) (now : Int) (ctx : ConnectionContext) (code : ErrorCode)
    (detail : String) : Same (sendError now ctx code detail server) server := by
  rw [sendError]
  split
  · refine { same_refl server with outbound := ?_ }
    show withoutErrors (server.outbound ++ _) = withoutErrors server.outbound
    rw [withoutErrors_append]
    exact List.append_nil _
  · exact same_refl server

theorem same_setContext {ctx guarded : ConnectionContext} (live : server.Live ctx)
    (alike : guarded.withoutGaps = ctx.withoutGaps) : Same (server.setContext guarded) server := by
  refine { same_refl server with contexts := fun socket => ?_ }
  rw [setContext_contexts, alike_socket alike]
  split
  · next hs => rw [hs, live.1, Option.map_some, Option.map_some, alike]
  · rfl

theorem Rejected.step (rejected : server.Rejected stamped) :
    Same (server.step cfg stamped) server := by
  obtain ⟨⟨socket, frame, he⟩, hr⟩ := rejected
  cases hl : server.liveContext socket with
  | none =>
      rw [Server.step, he]
      dsimp only
      rw [Server.message, hl]
      exact same_refl server
  | some ctx =>
      rcases step_of_rejected cfg he hl hr with ⟨code, detail, hs⟩ | hs
      · rw [hs]
        exact same_sendError server _ ctx code detail
      · rw [hs]
        refine same_setContext (live_of_liveContext hl).1 (afterGuard_of_rejected ?_)
        intro msg accepted
        rw [received, he] at hr
        dsimp only at hr
        rw [hl, Option.bind_some, accepted] at hr
        cases hr

/-- The same frames are accepted of two servers that differ in gaps and errors. -/
theorem Same.acceptedFrame (same : Same first second) (stamped : Stamped) :
    acceptedFrame first stamped = acceptedFrame second stamped := by
  rw [Copresence.acceptedFrame, Copresence.acceptedFrame, received, received]
  cases stamped.event with
  | message socket frame =>
      dsimp only
      rcases same.liveContext_cases socket with ⟨hf, hs⟩ | ⟨ctx, other, hf, hs, alike⟩
      · rw [hf, hs]
      · rw [hf, hs, Option.bind_some, Option.bind_some, judge_alike alike]
        cases judge other frame with
        | accepted msg =>
            dsimp only
            rw [Option.map_some, Option.map_some, alike_socket alike, alike_sid alike]
        | _ => rfl
  | _ => rfl

theorem Same.rejected_iff (same : Same first second) :
    first.Rejected stamped ↔ second.Rejected stamped := by
  have h : first.received stamped = none ↔ second.received stamped = none := by
    have accepted := same.acceptedFrame stamped
    rw [Copresence.acceptedFrame, Copresence.acceptedFrame] at accepted
    rw [← Option.map_eq_none_iff, accepted, Option.map_eq_none_iff]
  rw [Rejected, Rejected, h]

theorem same_unwinds (cfg : Config) : Transition.Unwinds Same Rejected (Server.step cfg) where
  respects _ _ _ same rejected := rejected.step.trans same
  consistent _ _ event same _ := same.step cfg event

/-- A frame of this number will not be accepted on the socket any more: its
connection is this participant's and has gone past the number. -/
structure Spent (server : Server) (socket : SocketId) (pid : ParticipantId) (seq : Int) : Prop where
  identified : server.Identified socket pid
  passed : ∃ guard, server.guard? socket = some guard ∧ ¬guard.Newer seq

variable {socket : SocketId} {pid : ParticipantId} {seq : Int}

theorem Spent.step (spent : server.Spent socket pid seq) (stamped : Stamped) :
    (server.step cfg stamped).Spent socket pid seq := by
  obtain ⟨guard, hg, passed⟩ := spent.passed
  obtain ⟨later, hLater, newer⟩ := guard?_step_le cfg stamped hg
  exact ⟨(step_effect cfg server stamped).identified spent.identified,
    later, hLater, fun h => passed (newer seq h)⟩

/-- An accepted frame is spent from then on. -/
theorem spent_of_received {ctx : ConnectionContext} {msg : InboundMessage}
    (h : server.received stamped = some (ctx, msg)) :
    (server.step cfg stamped).Spent ctx.socket msg.pid msg.seq := by
  obtain ⟨live, hHello, hPid, _⟩ := step_of_received cfg h
  refine ⟨?_, guard?_step_received cfg h⟩
  have found : server.identity? ctx.socket = some ctx.identity := by
    rw [Server.identity?, live.1, Option.map_some]
  rw [Identified, (step_effect cfg server stamped).identity?, found, action_of_received h]
  cases hc : ctx.pid with
  | some known =>
      have within := Action.ofMessage_within ctx msg
      rw [hPid known hc] at within ⊢
      exact within.onIdentity stamped.time hc
  | none =>
      -- a connection nobody has introduced accepts a hello only
      have isHello := hHello hc
      cases msg with
      | hello msg =>
          rw [Action.ofMessage, Action.onIdentity, if_pos rfl]
          rfl
      | _ => cases isHello

theorem Spent.unordered {ctx : ConnectionContext} {frame : RawFrame} {msg : InboundMessage}
    (spent : server.Spent socket msg.pid msg.seq) (hl : server.liveContext socket = some ctx)
    (decoded : decodeInbound frame = .ok msg) : judge ctx frame = .unordered := by
  obtain ⟨live, hSocket⟩ := live_of_liveContext hl
  have known : ctx.pid = some msg.pid := by
    rw [← live.identified_iff, hSocket]
    exact spent.identified
  obtain ⟨guard, hg, passed⟩ := spent.passed
  rw [guard?, ← hSocket, live.1, Option.map_some, Option.some.injEq] at hg
  have refused : (ctx.sequenceGuard.accept msg.seq).2 ≠ true := by
    rw [Ne, SequenceGuard.accept_snd, hg]
    exact passed
  have fits : Fits ctx frame msg :=
    ⟨decoded, by rw [known]; simp, fun pid hp => Option.some.inj (known.symm.trans hp)⟩
  rw [fits.route.1, if_neg refused]

/-- A spent frame is rejected, silently. -/
theorem Spent.redelivered {frame : RawFrame} {msg : InboundMessage}
    (spent : server.Spent socket msg.pid msg.seq) (decoded : decodeInbound frame = .ok msg)
    (he : stamped.event = .message socket frame) :
    server.Rejected stamped ∧ (server.step cfg stamped).outbound = server.outbound := by
  rw [Rejected, received, Server.step, he]
  dsimp only
  rw [Server.message]
  cases hl : server.liveContext socket with
  | none => exact ⟨⟨⟨socket, frame, rfl⟩, rfl⟩, rfl⟩
  | some ctx =>
      dsimp only
      rw [Option.bind_some, handleRealtimeMessage, spent.unordered hl decoded]
      exact ⟨⟨⟨socket, frame, rfl⟩, rfl⟩, rfl⟩

/-- However often a spent frame is delivered again, nothing comes of it. -/
theorem Spent.run_redelivered {frame : RawFrame} {msg : InboundMessage}
    (spent : server.Spent socket msg.pid msg.seq) (decoded : decodeInbound frame = .ok msg)
    {again : List Stamped} (every : ∀ stamped ∈ again, stamped.event = .message socket frame) :
    Same (server.run cfg again) server ∧ (server.run cfg again).outbound = server.outbound := by
  induction again generalizing server with
  | nil => exact ⟨same_refl server, rfl⟩
  | cons stamped again ih =>
      have first := every stamped List.mem_cons_self
      obtain ⟨rejected, silent⟩ : server.Rejected stamped ∧
          (server.step cfg stamped).outbound = server.outbound := spent.redelivered decoded first
      obtain ⟨same, later⟩ := ih (spent.step stamped)
        fun other ho => every other (List.mem_cons_of_mem _ ho)
      exact ⟨same.trans rejected.step, later.trans silent⟩

end Server

/-- The accepted frames of a run and of the run without its rejected frames are
the same, and so is all the rest but gaps and errors. -/
theorem Observed.run_withoutRejected (cfg : Config) {first second : Observed}
    (same : Server.Same first.server second.server) (history : first.accepted = second.accepted)
    (events : List Stamped) :
    (run cfg first events).accepted =
      (run cfg second (Server.withoutRejected cfg first.server events)).accepted := by
  induction events generalizing first second with
  | nil => exact history
  | cons event events ih =>
      rw [Server.withoutRejected, Transition.purge]
      by_cases h : first.server.Rejected event
      · rw [if_pos h]
        have nothing : acceptedFrame first.server event = none := by rw [acceptedFrame, h.2]; rfl
        have kept : (first.step cfg event).accepted = second.accepted := by
          rw [step, nothing, history]
          rfl
        exact ih (h.step.trans same) kept
      · rw [if_neg h]
        have heard : (first.step cfg event).accepted = (second.step cfg event).accepted := by
          rw [step, step, same.acceptedFrame event, history]
        exact ih (same.step cfg event) heard

namespace Server

/-- Taking the rejected frames out of a run leaves a run of accepted frames
only, with the same history and the same server up to gaps and error replies;
and a frame accepted once is silently rejected however often it comes again. -/
theorem rejected_invisible (cfg : Config) (server : Server) (events : List Stamped) :
    Transition.Along (step cfg) (fun server stamped => ¬server.Rejected stamped) server
        (withoutRejected cfg server events) ∧
      (Observed.run cfg ⟨server, []⟩ (withoutRejected cfg server events)).accepted =
        (Observed.run cfg ⟨server, []⟩ events).accepted ∧
      Same (server.run cfg (withoutRejected cfg server events)) (server.run cfg events) ∧
      ∀ before stamped later, events = before ++ stamped :: later →
        ((server.run cfg before).received stamped).isSome →
        ∀ again : List Stamped, (∀ repeated ∈ again, repeated.event = stamped.event) →
          Same ((server.run cfg events).run cfg again) (server.run cfg events) ∧
          ((server.run cfg events).run cfg again).outbound = (server.run cfg events).outbound := by
  have unwinds := same_unwinds cfg
  have history : (Observed.run cfg ⟨server, []⟩ events).accepted =
      (Observed.run cfg ⟨server, []⟩ (withoutRejected cfg server events)).accepted :=
    Observed.run_withoutRejected cfg (same_refl server) rfl events
  refine ⟨unwinds.along_purge (fun _ _ _ same => same.rejected_iff) (same_refl server) events,
    history.symm, (unwinds.run_purge (same_refl server) events).symm, ?_⟩
  rintro before stamped later rfl accepted again every
  obtain ⟨⟨ctx, msg⟩, hr⟩ := Option.isSome_iff_exists.mp accepted
  obtain ⟨socket, frame, he, hl, hj⟩ := received_eq_some hr
  obtain ⟨_, hSocket⟩ := live_of_liveContext hl
  have spent : (server.run cfg (before ++ stamped :: later)).Spent socket msg.pid msg.seq := by
    rw [run, Transition.run_append, Transition.run_cons, ← hSocket]
    exact Transition.invariant_run (P := fun server : Server => server.Spent ctx.socket msg.pid msg.seq)
      (fun _ stamped spent => spent.step stamped) (spent_of_received hr) later
  apply spent.run_redelivered (judge_accepted hj).1
  intro repeated h
  rw [every repeated h, he]

open Scenario

def introduction : Stamped := ⟨2, .message 1 (helloFrame session alice 2 2)⟩

/-- A cursor frame comes before the introduction and one comes late. -/
def disturbed : List Stamped :=
  [⟨0, .connect 1 session⟩, ⟨1, .message 1 (cursorFrame session alice 1 1 1 4)⟩] ++
    introduction ::
      [⟨3, .message 1 (cursorFrame session alice 4 3 0 6)⟩,
        ⟨4, .message 1 (cursorFrame session alice 3 4 1 8)⟩]

example : ∀ stamped ∈ disturbed, stamped.Sendable := by decide

example : (withoutRejected (config 100) Server.initial disturbed).map Stamped.time = [0, 2, 3] := by
  decide

theorem rejected_invisible_disturbed :
    Same ((Server.initial.run (config 100) disturbed).run (config 100)
        [{ introduction with time := 5 }, { introduction with time := 6 }])
        (Server.initial.run (config 100) disturbed) ∧
      ((Server.initial.run (config 100) disturbed).run (config 100)
        [{ introduction with time := 5 }, { introduction with time := 6 }]).outbound =
        (Server.initial.run (config 100) disturbed).outbound := by
  have again : ∀ repeated ∈ [{ introduction with time := 5 }, { introduction with time := 6 }],
      repeated.event = introduction.event := by decide
  exact (rejected_invisible (config 100) Server.initial disturbed).2.2.2 _ introduction _ rfl
    (by decide) _ again

end Server

end Copresence
