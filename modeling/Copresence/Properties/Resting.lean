import Copresence.Server.Flushing

/-! What each tick broadcasts, read off the flushes so far, and that a server
nobody moves on falls silent. -/
namespace Copresence

open Collections

namespace TickScheduler

/-- A tick repeats what is in the settle map and still open. -/
theorem tickPatch_eq (settling : JsMap SessionId SettleEntry) (seq now : Int) (session : Session) :
    tickPatch settling seq now session =
      (toPatch session seq now).or
        (((settling.get? session.sid).filter fun settle => now < settle.settleUntil).map
          (resendOf session.sid seq now)) := by
  unfold tickPatch
  cases toPatch session seq now with
  | some patch => rfl
  | none =>
      cases settling.get? session.sid with
      | none => rfl
      | some settle =>
          dsimp only
          rw [Option.none_or, Option.filter_some]
          by_cases expired : now ≥ settle.settleUntil
          · rw [if_pos expired, if_neg (by simpa using expired)]
            rfl
          · rw [if_neg expired, if_pos (by simpa using expired)]
            rfl

end TickScheduler

/-- The settle entry a flush leaves. -/
def PatchMessage.settle (flush : PatchMessage) : SettleEntry where
  patches := flush.patches
  settleUntil := flush.ts + patchSettleWindowMs

/-- The clock never goes back. -/
def Punctual (events : List Stamped) : Prop :=
  events.Pairwise fun early late => early.time ≤ late.time

instance (events : List Stamped) : Decidable (Punctual events) :=
  inferInstanceAs (Decidable (List.Pairwise _ _))

namespace Watched

/-- A server from its start, and the flushes of one session. -/
def history (cfg : Config) (sid : SessionId) (events : List Stamped) : Watched :=
  run cfg sid { server := Server.initial, flushes := [] } events

/-- The history is of the server that ran. -/
theorem history_server (cfg : Config) (sid : SessionId) (events : List Stamped) :
    (history cfg sid events).server = Server.initial.run cfg events :=
  Transition.run_map (f := Watched.server) (fun _ _ => rfl) _ _

/-- One event more is one more step of the history. -/
theorem history_concat (cfg : Config) (sid : SessionId) (events : List Stamped)
    (stamped : Stamped) :
    history cfg sid (events ++ [stamped]) = (history cfg sid events).step cfg sid stamped :=
  Transition.run_concat _ _ _ _

/-- What is left open of the last flush: nothing once its window has passed. -/
def lastOpen (watched : Watched) (now : Int) : Option SettleEntry :=
  (watched.flushes.head?.map PatchMessage.settle).filter fun settle => now < settle.settleUntil

/-- What a tick has for a session: whatever is unflushed, or what is left open
of the last flush under a new number. -/
def due (watched : Watched) (sid : SessionId) (stamped : Stamped) : Option PatchMessage :=
  (watched.server.flush stamped sid).or
    ((watched.lastOpen stamped.time).map
      (TickScheduler.resendOf sid (watched.server.scheduler.seq + 1) stamped.time))

/-- From now on the settle map has of the session what is left open of its last flush. -/
def KeepsOpen (sid : SessionId) (watched : Watched) (now : Int) : Prop :=
  ∀ later, now ≤ later →
    (watched.server.scheduler.settling.get? sid).filter (fun settle => later < settle.settleUntil) =
      watched.lastOpen later

section Step

variable {cfg : Config} {sid : SessionId} {watched : Watched} {stamped : Stamped} {now : Int}

/-- Every step leaves the settle map with what is left open of the last flush. -/
theorem KeepsOpen.step (keeps : KeepsOpen sid watched now) (later : now ≤ stamped.time) :
    KeepsOpen sid (watched.step cfg sid stamped) stamped.time := by
  intro instant hInstant
  have before := keeps instant (Int.le_trans later hInstant)
  by_cases isTick : stamped.event = .tick
  · rw [show (watched.step cfg sid stamped).server = _ from
      Server.step_of_tick cfg (Server.action_eq_tick_iff.mpr isTick),
      show (watched.server.tick stamped.time).scheduler.settling.get? sid = _ from
        TickScheduler.tick_settling _ _ _ _ _ sid]
    have flush : watched.server.flush stamped sid = (watched.server.registry.get sid).bind _ :=
      if_pos isTick
    cases hg : watched.server.registry.get sid with
    | none =>
        rw [hg] at flush
        rw [lastOpen, flushes_step_none flush]
        exact before
    | some session =>
        rw [hg, Option.bind_some] at flush
        dsimp only
        rw [TickScheduler.settled]
        cases fresh : toPatch session (watched.server.scheduler.seq + 1) stamped.time with
        | some patch =>
            obtain ⟨_, _, sent⟩ := toPatch_envelope fresh
            rw [lastOpen, flushes_step_some (flush.trans fresh), List.head?_cons, Option.map_some,
              PatchMessage.settle, sent]
        | none =>
            dsimp only
            rw [lastOpen, flushes_step_none (flush.trans fresh), Option.filter_filter]
            rw [← lastOpen, ← before]
            congr 1
            funext settle
            simp only [← Bool.decide_and, decide_eq_decide]
            omega
  · have same := (Server.step_effect cfg watched.server stamped).scheduler
      fun h => isTick (Server.action_eq_tick_iff.mp h)
    rw [show (watched.step cfg sid stamped).server.scheduler = _ from same, lastOpen,
      flushes_step_none (Server.flush_eq_none _ sid isTick)]
    exact before

/-- Over a run whose clock never goes back, the settle map has what is left open
of the last flush. -/
theorem KeepsOpen.run {events : List Stamped} (punctual : Punctual events)
    (keeps : KeepsOpen sid watched now) (later : ∀ stamped ∈ events, now ≤ stamped.time) :
    ∀ last, now ≤ last → (∀ stamped ∈ events, stamped.time ≤ last) →
      KeepsOpen sid (watched.run cfg sid events) last := by
  induction events generalizing watched now with
  | nil =>
      intro last hLast _ instant hInstant
      exact keeps instant (Int.le_trans hLast hInstant)
  | cons stamped events ih =>
      intro last _ hTimes
      obtain ⟨first, rest⟩ := List.pairwise_cons.mp punctual
      exact ih rest (keeps.step (later stamped List.mem_cons_self)) first last
        (hTimes stamped List.mem_cons_self)
        fun other listed => hTimes other (List.mem_cons_of_mem _ listed)

end Step

/-- As long as the clock never goes back, the settle map is the last flush. -/
theorem history_keepsOpen (cfg : Config) (sid : SessionId) {events : List Stamped} {last : Stamped}
    (punctual : Punctual (events ++ [last])) :
    KeepsOpen sid (history cfg sid events) last.time := by
  obtain ⟨before, _, later⟩ := List.pairwise_append.mp punctual
  have atMost : ∀ stamped ∈ events, stamped.time ≤ last.time :=
    fun stamped listed => later stamped listed last List.mem_cons_self
  cases events with
  | nil => exact fun _ _ => rfl
  | cons first events =>
      have opening : KeepsOpen sid { server := Server.initial, flushes := [] } first.time :=
        fun _ _ => rfl
      refine opening.run before ?_ last.time (atMost first List.mem_cons_self) atMost
      intro stamped listed
      rcases List.mem_cons.mp listed with rfl | listed
      · exact Int.le_refl _
      · exact List.rel_of_pairwise_cons before listed

end Watched

namespace Server

variable {cfg : Config}

/-- A tick writes, session by session, what its entry has to say. -/
theorem written_tick {server : Server} {stamped : Stamped} (isTick : stamped.event = .tick) :
    server.written cfg stamped =
      server.registry.all.flatMap (TickScheduler.tickWrites server.hub server.isOpen
        server.scheduler.settling (server.scheduler.seq + 1) stamped.time) := by
  rw [written, step_of_tick cfg (action_eq_tick_iff.mpr isTick)]
  show (server.outbound ++
    (server.scheduler.tick server.registry server.hub server.isOpen stamped.time).2.2).drop _ = _
  rw [List.drop_left, TickScheduler.tick_writes]

theorem tickWrites_due (cfg : Config) {events : List Stamped} {last : Stamped}
    (punctual : Punctual (events ++ [last])) (isTick : last.event = .tick) {session : Session}
    (listed : session ∈ (initial.run cfg events).registry.all) :
    TickScheduler.tickWrites (initial.run cfg events).hub (initial.run cfg events).isOpen
        (initial.run cfg events).scheduler.settling ((initial.run cfg events).scheduler.seq + 1)
        last.time session =
      ((Watched.history cfg session.sid events).due session.sid last).toList.flatMap fun patch =>
        (initial.run cfg events).hub.broadcastToSession (initial.run cfg events).isOpen
          session.sid (.patch patch) none := by
  have keeps := Watched.history_keepsOpen cfg session.sid punctual last.time (Int.le_refl _)
  rw [Watched.history_server] at keeps
  have due : (Watched.history cfg session.sid events).due session.sid last =
      TickScheduler.tickPatch (initial.run cfg events).scheduler.settling
        ((initial.run cfg events).scheduler.seq + 1) last.time session := by
    rw [Watched.due, Watched.history_server, flush, if_pos isTick,
      SessionRegistry.mem_all_iff.mp listed, Option.bind_some, TickScheduler.tickPatch_eq, keeps]
  rw [due, TickScheduler.tickWrites]
  cases TickScheduler.tickPatch (initial.run cfg events).scheduler.settling
      ((initial.run cfg events).scheduler.seq + 1) last.time session with
  | none => rfl
  | some patch => simp

/-- As long as the clock never goes back, a tick broadcasts to each session
whatever is unflushed, or else repeats the session's last flush until its
settle window has passed, and nothing else. -/
theorem ticks_repeat_last_flush (cfg : Config) (events : List Stamped) (last : Stamped)
    (punctual : Punctual (events ++ [last])) (isTick : last.event = .tick) :
    (initial.run cfg events).written cfg last =
      (initial.run cfg events).registry.all.flatMap fun session =>
        ((Watched.history cfg session.sid events).due session.sid last).toList.flatMap fun patch =>
          (initial.run cfg events).hub.broadcastToSession (initial.run cfg events).isOpen
            session.sid (.patch patch) none := by
  rw [written_tick isTick]
  exact List.flatMap_congr fun session listed => tickWrites_due cfg punctual isTick listed

open Scenario

/-- One comes, moves, and is still. -/
def movedOnce : List Stamped :=
  arrival 0 1 session alice 1 ++
    [⟨10, .message 1 (cursorFrame session alice 2 10 1 2)⟩, ⟨50, .tick⟩]

/-- The second tick repeats what the first has sent. -/
theorem ticks_repeat_last_flush_movedOnce :
    (initial.run (config 100) movedOnce).written (config 100) ⟨100, .tick⟩ =
      (initial.run (config 100) movedOnce).registry.all.flatMap fun session =>
        ((Watched.history (config 100) session.sid movedOnce).due session.sid
          ⟨100, .tick⟩).toList.flatMap fun patch =>
            (initial.run (config 100) movedOnce).hub.broadcastToSession
              (initial.run (config 100) movedOnce).isOpen session.sid (.patch patch) none :=
  ticks_repeat_last_flush (config 100) movedOnce ⟨100, .tick⟩ (by decide) rfl

end Server

/-- The actions that move somebody's cursor or page. -/
def Action.IsMove : Action → Prop
  | .presence _ _ => True
  | _ => False

instance : DecidablePred Action.IsMove
  | .presence _ _ => inferInstanceAs (Decidable True)
  | .idle | .connect _ _ | .closing _ | .hello _ _ | .bye _ _ | .close _ | .tick | .reap =>
    inferInstanceAs (Decidable False)

/-- Only a move flags anything. -/
theorem Action.onEntry_clean {ttlMs now : Int} {sid : SessionId} {pid : ParticipantId}
    {action : Action} (still : ¬action.IsMove) {old : Option Entry} {new : Entry}
    (h : action.onEntry ttlMs now sid pid old = some new)
    (clean : ∀ entry, old = some entry → entry.dirty = {}) : new.dirty = {} := by
  cases action with
  | hello ctx msg =>
      rw [onEntry] at h
      split at h
      · rw [← Option.some.inj h, helloEntry]
        cases old with
        | none => rfl
        | some entry => exact clean entry rfl
      · exact clean new h
  | presence ctx event => exact absurd trivial still
  | bye ctx other =>
      rw [onEntry] at h
      split at h
      · cases h
      · exact clean new h
  | close ctx =>
      rw [onEntry] at h
      split at h
      · cases h
      · exact clean new h
  | tick =>
      obtain ⟨entry, _, rfl⟩ := Option.map_eq_some_iff.mp h
      rfl
  | reap => exact clean new (Option.filter_eq_some_iff.mp h).1
  | _ => exact clean new h

namespace Server

variable {cfg : Config} {server : Server} {stamped : Stamped} {sid : SessionId}

/-- Where nothing moves, nothing becomes unflushed. -/
theorem not_unflushed_step (wf : server.WellFormed) (still : ¬(server.action stamped).IsMove)
    (flushed : ¬server.Unflushed sid) : ¬(server.step cfg stamped).Unflushed sid := by
  rintro ⟨pid, entry, he, dirty⟩
  rw [(step_effect cfg server stamped).entryOf wf] at he
  apply dirty
  exact Action.onEntry_clean still he fun old hOld => clean_of_not_unflushed flushed pid old hOld

/-- A tick leaves nothing unflushed. -/
theorem not_unflushed_tick (wf : server.WellFormed) (isTick : stamped.event = .tick) :
    ¬(server.step cfg stamped).Unflushed sid := by
  rintro ⟨pid, entry, he, dirty⟩
  rw [(step_effect cfg server stamped).entryOf wf, action_eq_tick_iff.mpr isTick] at he
  obtain ⟨old, _, rfl⟩ := Option.map_eq_some_iff.mp he
  exact dirty rfl

/-- A flush has the time of its tick. -/
theorem flush_ts {patch : PatchMessage} (h : server.flush stamped sid = some patch) :
    patch.ts = stamped.time := by
  rw [flush] at h
  split at h
  · obtain ⟨session, _, hs⟩ := Option.bind_eq_some_iff.mp h
    exact (toPatch_envelope hs).2.2
  · cases h

/-- Where nothing is unflushed, a tick flushes nothing. -/
theorem flush_eq_none_of_flushed (wf : server.WellFormed) (flushed : ¬server.Unflushed sid) :
    server.flush stamped sid = none := by
  rw [flush]
  split
  · cases hg : server.registry.get sid with
    | none => rfl
    | some session =>
        rw [unflushed_iff hg, ← Session.toPatch_isSome_iff (wf sid session hg)] at flushed
        exact Option.not_isSome_iff_eq_none.mp flushed
  · rfl

end Server

namespace Watched

/-- Nothing of the session is unflushed, and it was last flushed by this time. -/
structure Quiet (sid : SessionId) (watched : Watched) (time : Int) : Prop where
  wellFormed : watched.server.WellFormed
  flushed : ¬watched.server.Unflushed sid
  flushes : ∀ flush, watched.flushes.head? = some flush → flush.ts ≤ time

variable {cfg : Config} {sid : SessionId} {watched : Watched} {stamped : Stamped} {time : Int}

/-- Where nothing moves, a quiet session stays quiet. -/
theorem Quiet.step (quiet : Quiet sid watched time)
    (still : ¬(watched.server.action stamped).IsMove) :
    Quiet sid (watched.step cfg sid stamped) time where
  wellFormed := Server.step_wellFormed cfg quiet.wellFormed stamped
  flushed := Server.not_unflushed_step quiet.wellFormed still quiet.flushed
  flushes := by
    rw [flushes_step_none (Server.flush_eq_none_of_flushed quiet.wellFormed quiet.flushed)]
    exact quiet.flushes

/-- A flush has the time of one of the events. -/
theorem time_of_mem_flushes {events : List Stamped} {flush : PatchMessage}
    (listed : flush ∈ (history cfg sid events).flushes) :
    ∃ stamped ∈ events, flush.ts = stamped.time := by
  have reached : ∀ flush ∈ (history cfg sid events).flushes, ∃ stamped ∈ events,
      flush.ts = stamped.time := by
    apply Transition.invariant_run_mem (P := fun watched : Watched => ∀ flush ∈ watched.flushes,
      ∃ stamped ∈ events, flush.ts = stamped.time)
    · intro flush listed
      cases listed
    · intro watched stamped given before flush listed
      rcases List.mem_append.mp listed with now | listed
      · exact ⟨stamped, given, Server.flush_ts (Option.mem_toList.mp now)⟩
      · exact before flush listed
  exact reached flush listed

/-- The tick itself flushes what there is. -/
theorem quiet_tick (wf : watched.server.WellFormed) (isTick : stamped.event = .tick)
    (flushes : ∀ flush, watched.flushes.head? = some flush → flush.ts ≤ stamped.time) :
    Quiet sid (watched.step cfg sid stamped) stamped.time where
  wellFormed := Server.step_wellFormed cfg wf stamped
  flushed := Server.not_unflushed_tick wf isTick
  flushes := by
    cases h : watched.server.flush stamped sid with
    | none =>
        rw [flushes_step_none h]
        exact flushes
    | some patch =>
        rw [flushes_step_some h]
        intro flush first
        rw [← Option.some.inj first]
        exact Int.le_of_eq (Server.flush_ts h)

/-- A session quiet since before its settle window has nothing due. -/
theorem Quiet.due_eq_none (quiet : Quiet sid watched time)
    (passed : time + patchSettleWindowMs ≤ stamped.time) : watched.due sid stamped = none := by
  have closed : watched.lastOpen stamped.time = none := by
    rw [lastOpen, Option.filter_eq_none_iff]
    intro settle hs
    obtain ⟨flush, hf, rfl⟩ := Option.map_eq_some_iff.mp hs
    have before := quiet.flushes flush hf
    rw [PatchMessage.settle, decide_eq_true_eq]
    dsimp only
    omega
  rw [due, Server.flush_eq_none_of_flushed quiet.wellFormed quiet.flushed, closed]
  rfl

/-- A session in which nothing moves is quiet from the next tick on. -/
theorem history_quiet {events rest : List Stamped} {first : Stamped}
    (punctual : Punctual (events ++ [first])) (isTick : first.event = .tick)
    (still : Transition.Along (Server.step cfg)
      (fun server stamped => ¬(server.action stamped).IsMove)
      (Server.initial.run cfg (events ++ [first])) rest) :
    Quiet sid (history cfg sid (events ++ first :: rest)) first.time := by
  have ticked : Quiet sid (history cfg sid (events ++ [first])) first.time := by
    rw [history_concat]
    apply quiet_tick _ isTick
    · intro flush latest
      obtain ⟨stamped, listed, hts⟩ := time_of_mem_flushes (List.mem_of_head? latest)
      rw [hts]
      exact (List.pairwise_append.mp punctual).2.2 stamped listed first List.mem_cons_self
    · rw [history_server]
      exact Server.run_wellFormed cfg Server.initial_wellFormed events
  have along : Transition.Along (step cfg sid)
      (fun watched stamped => ¬(watched.server.action stamped).IsMove)
      (history cfg sid (events ++ [first])) rest := by
    rw [← history_server cfg sid] at still
    exact (Transition.along_map (f := Watched.server)
      (C := fun server stamped => ¬(server.action stamped).IsMove) fun _ _ => rfl).mpr still
  rw [List.append_cons, history, run, Transition.run_append]
  exact Transition.invariant_run_along (P := fun watched => Quiet sid watched first.time)
    (fun _ _ still quiet => quiet.step still) ticked along

end Watched

/-- As long as the clock never goes back, once a tick has found nobody moving
any more and the settle window has passed, ticks send nothing at all, whoever
comes, goes, pings or reports meanwhile. -/
theorem Server.silent_at_rest (cfg : Config) (events rest : List Stamped) (first last : Stamped)
    (punctual : Punctual (events ++ first :: rest ++ [last])) (ticks : first.event = .tick)
    (still : Transition.Along (step cfg) (fun server stamped => ¬(server.action stamped).IsMove)
      (initial.run cfg (events ++ [first])) rest)
    (isTick : last.event = .tick) (passed : first.time + patchSettleWindowMs ≤ last.time) :
    (initial.run cfg (events ++ first :: rest)).written cfg last = [] := by
  have until_first : Punctual (events ++ [first]) := by
    rw [List.append_assoc] at punctual
    exact List.Pairwise.sublist ((List.Sublist.refl events).append (by simp)) punctual
  rw [written_tick isTick, List.flatMap_eq_nil_iff]
  intro session listed
  have quiet : Watched.Quiet session.sid _ first.time :=
    Watched.history_quiet until_first ticks still
  rw [tickWrites_due cfg punctual isTick listed, quiet.due_eq_none passed]
  rfl

open Scenario

/-- Bob comes after alice has moved, and the tick has nothing to send him. -/
theorem Server.silent_at_rest_arrival :
    (initial.run (config 100) (arrival 0 1 session alice 1 ++
      [⟨10, .message 1 (cursorFrame session alice 2 10 1 2)⟩] ++ ⟨50, .tick⟩ ::
        arrival 60 2 session bob 1)).written (config 100) ⟨800, .tick⟩ = [] :=
  silent_at_rest (config 100) (arrival 0 1 session alice 1 ++
      [⟨10, .message 1 (cursorFrame session alice 2 10 1 2)⟩]) (arrival 60 2 session bob 1)
    ⟨50, .tick⟩ ⟨800, .tick⟩ (by decide) rfl (by decide) rfl (by decide)

end Copresence
