import Copresence.Client.Remotes
import Copresence.Server.Departures
import Copresence.Server.Outbound

/-! What a tick broadcasts against what the registry holds. -/
namespace Copresence

open Collections

/-- Every patch the tick broadcasts names members of the session's roster and
carries positions the registry holds for them. -/
def Server.Truthful (server : Server) (stamped : Stamped) : Prop :=
  stamped.event = .tick → ∀ session ∈ server.registry.all, ∀ patch,
    TickScheduler.tickPatch server.scheduler.settling (server.scheduler.seq + 1) stamped.time
        session = some patch →
      ∀ reported ∈ patch.patches, ∃ participant,
        server.participant? session.sid reported.pid = some participant ∧
          reported.Agrees participant.presence

/-- As `Truthful`, of one session. -/
def Server.TruthfulIn (server : Server) (stamped : Stamped) (sid : SessionId) : Prop :=
  ∀ session, server.registry.get sid = some session → ∀ patch,
    TickScheduler.tickPatch server.scheduler.settling (server.scheduler.seq + 1) stamped.time
        session = some patch →
      ∀ reported ∈ patch.patches, ∃ participant,
        server.participant? sid reported.pid = some participant ∧
          reported.Agrees participant.presence

namespace Tracked

/-- A tick with nothing to flush for a session repeats, inside the window, what
it last flushed, and names somebody who has left since. -/
def ResendsDeparted (tracked : Tracked) (stamped : Stamped) : Prop :=
  stamped.event = .tick ∧ ∃ sid, (tracked.server.registry.get sid).isSome ∧
    ¬ tracked.server.Unflushed sid ∧
      ∃ settle, tracked.server.scheduler.settling.get? sid = some settle ∧
        stamped.time < settle.settleUntil ∧
          ∃ reported ∈ settle.patches, tracked.left sid reported.pid

/-- As `ResendsDeparted`, for one session. -/
def ResendsDepartedIn (tracked : Tracked) (stamped : Stamped) (sid : SessionId) : Prop :=
  stamped.event = .tick ∧ (tracked.server.registry.get sid).isSome ∧
    ¬ tracked.server.Unflushed sid ∧
      ∃ settle, tracked.server.scheduler.settling.get? sid = some settle ∧
        stamped.time < settle.settleUntil ∧
          ∃ reported ∈ settle.patches, tracked.left sid reported.pid

variable {cfg : Config} {tracked : Tracked} {stamped : Stamped}

/-- A memory is worth repeating unless its participant has left. -/
theorem Remembers.agrees_iff {sid : SessionId} {reported : ParticipantPatch}
    (remembers : tracked.Remembers sid reported) (nothing : ¬ tracked.server.Unflushed sid) :
    (∃ participant, tracked.server.participant? sid reported.pid = some participant ∧
        reported.Agrees participant.presence) ↔ ¬ tracked.left sid reported.pid := by
  have clean := Server.unmarked_of_not_unflushed nothing reported.pid
  simp only [Server.participant?_eq, Option.map_eq_some_iff]
  constructor
  · intro ⟨participant, ⟨entry, he, hp⟩, agrees⟩ gone
    subst hp
    exact remembers.carries.not_agrees
      (fun field => remembers.back gone entry he field (clean entry he field)) agrees
  · intro stays
    obtain ⟨entry, he, agrees⟩ := remembers.stayed stays
    exact ⟨entry.participant, ⟨entry, he, rfl⟩,
      fun field => agrees field (clean entry he field)⟩

/-- A fresh flush is truthful. -/
theorem agrees_of_fresh (wf : tracked.server.WellFormed) {sid : SessionId} {session : Session}
    (hg : tracked.server.registry.get sid = some session) {seq now : Int} {patch : PatchMessage}
    (fresh : toPatch session seq now = some patch) {reported : ParticipantPatch}
    (hr : reported ∈ patch.patches) :
    ∃ participant, tracked.server.participant? sid reported.pid = some participant ∧
      reported.Agrees participant.presence := by
  obtain ⟨entry, he, _, hReported⟩ := (Session.mem_toPatch_iff (wf sid session hg) fresh).mp hr
  refine ⟨entry.participant, ?_, ?_⟩
  · rw [Server.participant?_eq, Server.entryOf, SessionRegistry.entryOf_of_get hg, he]
    rfl
  · rw [hReported]
    exact toParticipantPatch_agrees _ _ _

theorem resendsDeparted_iff :
    tracked.ResendsDeparted stamped ↔ ∃ sid, tracked.ResendsDepartedIn stamped sid := by
  simp only [ResendsDeparted, ResendsDepartedIn, exists_and_left]

/-- A tick is truthful about a session in which it repeats nobody who has left. -/
theorem truthfulIn_of_stays (wf : tracked.server.WellFormed) (remembering : tracked.Remembering)
    (isTick : stamped.event = .tick) {sid : SessionId}
    (stays : ¬tracked.ResendsDepartedIn stamped sid) : tracked.server.TruthfulIn stamped sid := by
  intro session hg patch due reported hr
  have hSid := SessionRegistry.get_sid hg
  unfold TickScheduler.tickPatch at due
  split at due
  · next fresh hf =>
      rw [Option.some.inj due] at hf
      exact agrees_of_fresh wf hg hf hr
  · next stale =>
      have nothing : ¬ tracked.server.Unflushed sid := by
        rw [Server.unflushed_iff hg, ← Session.toPatch_isSome_iff (wf _ session hg), stale]
        exact fun h => nomatch h
      split at due
      · cases due
      · next settle hs =>
          split at due
          · cases due
          · next hOpen =>
              rw [hSid] at hs
              rw [← Option.some.inj due] at hr
              apply ((remembering _ settle hs reported hr).agrees_iff nothing).mpr
              intro gone
              exact stays ⟨isTick, Option.isSome_of_eq_some hg, nothing, settle, hs, by omega,
                reported, hr, gone⟩

/-- A tick is truthful exactly when it repeats nobody who has left. -/
theorem truthful_iff (wf : tracked.server.WellFormed) (remembering : tracked.Remembering) :
    tracked.server.Truthful stamped ↔ ¬ tracked.ResendsDeparted stamped := by
  constructor
  · intro truthful ⟨isTick, sid, hGet, nothing, settle, hs, hOpen, reported, hr, gone⟩
    obtain ⟨session, hg⟩ := Option.isSome_iff_exists.mp hGet
    have hSid := SessionRegistry.get_sid hg
    have stale : toPatch session (tracked.server.scheduler.seq + 1) stamped.time = none := by
      rw [← Option.not_isSome_iff_eq_none, Session.toPatch_isSome_iff (wf sid session hg),
        ← Server.unflushed_iff hg]
      exact nothing
    have resent : TickScheduler.tickPatch tracked.server.scheduler.settling
        (tracked.server.scheduler.seq + 1) stamped.time session =
          some (TickScheduler.resendOf session.sid (tracked.server.scheduler.seq + 1)
            stamped.time settle) := by
      rw [TickScheduler.tickPatch, stale, hSid, hs]
      exact if_neg (by omega)
    have agrees := truthful isTick session
      (SessionRegistry.mem_all_iff.mpr (by rw [hSid, hg])) _ resent reported hr
    rw [hSid] at agrees
    exact ((remembering sid settle hs reported hr).agrees_iff nothing).mp agrees gone
  · intro harmless isTick session hm patch due reported hr
    have stays : ¬tracked.ResendsDepartedIn stamped session.sid := by
      intro resends
      exact harmless (resendsDeparted_iff.mpr ⟨_, resends⟩)
    exact truthfulIn_of_stays wf remembering isTick stays session (SessionRegistry.mem_all_iff.mp hm)
      patch due reported hr

end Tracked

namespace Server

/-- After somebody's leave went out on a socket, and as long as they say no
hello, a client that gets what the session sends there does not show them. -/
def StaysGone (cfg : Config) (events : List Stamped) : Prop :=
  ∀ before stamped after, events = before ++ stamped :: after →
    ∀ socket msg,
      (∃ write ∈ (initial.run cfg before).written cfg stamped,
        write.socket = socket ∧ write.message = .leave msg) →
      Transition.Along (step cfg)
        (fun server next => ¬ (server.action next).IsHelloFor msg.sid msg.pid)
        ((initial.run cfg before).step cfg stamped) after →
      ∀ (client : Client) now deliveries, msg.pid ≠ client.pid →
        (∀ delivery ∈ deliveries, delivery.2.envelope.sid = msg.sid ∧
          ∃ write ∈ (initial.run cfg before).sent cfg (stamped :: after),
            write.socket = socket ∧ write.message = delivery.2) →
        ((client.routeMessage now (.leave msg)).receive deliveries).shown msg.pid = none

variable {cfg : Config} {server : Server} {stamped : Stamped} {write : Write}

/-- Whose leave is announced is off the roster. -/
theorem absent_of_leave (wf : server.WellFormed) (h : write ∈ server.written cfg stamped)
    {msg : LeaveMessage} (hm : write.message = .leave msg) :
    (server.step cfg stamped).entryOf msg.sid msg.pid = none := by
  have said := said_of_mem_written h
  rw [hm] at said
  rw [(step_effect cfg server stamped).entryOf wf]
  generalize server.action stamped = action at said
  generalize he : OutboundMessage.leave msg = message at said
  cases said with
  | reply isReply => rw [← he] at isReply; rcases isReply with h | h | h <;> cases h
  | bye ctx pid =>
      cases he
      exact if_pos ⟨rfl, rfl⟩
  | close identified =>
      cases he
      exact if_pos ⟨rfl, identified⟩
  | reap stale =>
      cases he
      obtain ⟨participant, hp, isStale, _⟩ := (SessionRegistry.mem_reapStale_iff wf.seated _ _ _).mp stale
      rw [← Server.participant?, Server.participant?_eq, Option.map_eq_some_iff] at hp
      obtain ⟨entry, he, rfl⟩ := hp
      rw [he]
      exact if_neg (by simpa using isStale)
  | _ => cases he

theorem IsReply.not_shows {message : OutboundMessage} (isReply : IsReply message)
    (pid : ParticipantId) : ¬ message.Shows pid := by
  cases message with
  | pong msg => exact id
  | auditAck msg => exact id
  | error msg => exact id
  | _ => rcases isReply with h | h | h <;> cases h

/-- A message brings up only members of its session's roster. -/
theorem inRoster_of_shows (wf : server.WellFormed) (truthful : server.Truthful stamped)
    (h : write ∈ server.written cfg stamped) {pid : ParticipantId}
    (shown : write.message.Shows pid) :
    (server.step cfg stamped).InRoster write.message.envelope.sid pid := by
  have said := said_of_mem_written h
  have moved := fun sid => (step_effect cfg server stamped).entryOf wf sid pid
  rw [InRoster]
  rw [moved]
  generalize write.message = message at said shown
  generalize ha : server.action stamped = action at said
  cases said with
  | reply isReply => exact absurd shown (isReply.not_shows pid)
  | welcome ctx msg =>
      have listed := (mem_toParticipantSnapshots_pids
        (helloSession_wellFormed server stamped.time ctx msg wf)).mp shown
      rw [helloSession_entryOf _ _ _ _ wf] at listed
      have hSid : (OutboundMessage.welcome (toWelcome (server.helloSession stamped.time ctx msg)
          msg.pid 0 stamped.time)).envelope.sid = ctx.sid := helloSession_sid server _ ctx msg
      rw [hSid, Action.onEntry]
      by_cases hp : pid = msg.pid
      · rw [if_pos ⟨rfl, hp⟩]
        rfl
      · rw [if_neg hp] at listed
        rw [if_neg fun h => hp h.2]
        exact listed
  | @join ctx msg newcomer =>
      have hp : pid = msg.pid := shown
      have hSid : (joinMessage ctx.sid (helloed msg none) stamped.time).envelope.sid = ctx.sid := rfl
      rw [hSid, Action.onEntry, if_pos ⟨rfl, hp⟩]
      rfl
  | @tick session patch listed due =>
      obtain ⟨reported, hr, rfl⟩ := List.mem_map.mp shown
      obtain ⟨participant, hp, _⟩ :=
        truthful (action_eq_tick_iff.mp ha) session listed patch due reported hr
      rw [participant?_eq, Option.map_eq_some_iff] at hp
      obtain ⟨entry, he, _⟩ := hp
      have hSid : (OutboundMessage.patch patch).envelope.sid = session.sid :=
        (TickScheduler.tickPatch_envelope due).1
      rw [hSid, he]
      rfl
  | bye ctx other => exact shown.elim
  | close identified => exact shown.elim
  | reap stale => exact shown.elim

/-- Once off the roster and silent, nobody is brought up again. -/
theorem not_shows_of_absent {sid : SessionId} {pid : ParticipantId} {events : List Stamped}
    (wf : server.WellFormed) (truthful : Transition.Along (step cfg) Truthful server events)
    (absent : server.entryOf sid pid = none)
    (silent : Transition.Along (step cfg)
      (fun server next => ¬ (server.action next).IsHelloFor sid pid) server events) :
    ∀ write ∈ server.sent cfg events, write.message.envelope.sid = sid →
      ¬ write.message.Shows pid := by
  induction events generalizing server with
  | nil =>
      intro write h
      rw [sent, show server.run cfg [] = server from rfl, List.drop_length] at h
      cases h
  | cons stamped events ih =>
      have still : (server.step cfg stamped).entryOf sid pid = none := by
        rw [(step_effect cfg server stamped).entryOf wf, absent]
        exact Action.onEntry_absent silent.1
      intro write h hSid
      rw [sent_cons] at h
      rcases List.mem_append.mp h with h | h
      · intro shown
        have present := inRoster_of_shows wf truthful.1 h shown
        rw [hSid, InRoster, still] at present
        cases present
      · exact ih (step_wellFormed cfg wf stamped) truthful.2 still silent.2 write h hSid

theorem staysGone_of_truthful {events : List Stamped}
    (truthful : Transition.Along (step cfg) Truthful initial events) :
    StaysGone cfg events := by
  intro before stamped after hEvents socket msg ⟨write, hw, _, hm⟩ silent client now deliveries
    other ofSession
  have wf := run_wellFormed cfg initial_wellFormed before
  have wfNext := step_wellFormed cfg wf stamped
  rw [hEvents, Transition.along_append] at truthful
  obtain ⟨here, later⟩ := truthful.2
  have absent := absent_of_leave wf hw hm
  have gone : (client.routeMessage now (.leave msg)).shown msg.pid = none := by
    rw [Client.routeMessage, Client.forget_shown, if_pos rfl]
  apply Client.receive_absent (by rwa [Client.routeMessage_pid]) gone
  intro delivery hd shown
  obtain ⟨hSid, other, ho, _, hMessage⟩ := ofSession delivery hd
  rw [← hMessage] at hSid shown
  rw [sent_cons] at ho
  rcases List.mem_append.mp ho with ho | ho
  · have present := inRoster_of_shows wf here ho shown
    rw [hSid, InRoster, absent] at present
    cases present
  · exact not_shows_of_absent wfNext later absent silent other ho hSid shown

end Server

namespace Tracked

/-- Over a whole run, patches are truthful and leaves final exactly when no
tick repeats the content of somebody who has left since it was flushed. -/
theorem truthful_along_iff (cfg : Config) (events : List Stamped) :
    (Transition.Along (Server.step cfg) Server.Truthful Server.initial events ∧
        Server.StaysGone cfg events) ↔
      Transition.Along (step cfg) (fun tracked stamped => ¬ tracked.ResendsDeparted stamped)
        initial events := by
  have seen : Transition.Along (step cfg) (fun tracked stamped => tracked.server.Truthful stamped)
      initial events ↔ Transition.Along (Server.step cfg) Server.Truthful Server.initial events :=
    Transition.along_map (f := Tracked.server) fun _ _ => rfl
  have exact_run : Transition.Along (step cfg)
      (fun tracked stamped => tracked.server.Truthful stamped) initial events ↔
        Transition.Along (step cfg) (fun tracked stamped => ¬ tracked.ResendsDeparted stamped)
          initial events :=
    Transition.along_iff_along
      (I := fun tracked : Tracked => tracked.server.WellFormed ∧ tracked.Remembering)
      (fun _ stamped inv => ⟨Server.step_wellFormed cfg inv.1 stamped, inv.2.step inv.1⟩)
      (fun _ _ inv => truthful_iff inv.1 inv.2) ⟨Server.initial_wellFormed, initial_remembering⟩
  rw [← exact_run, seen]
  exact ⟨And.left, fun truthful => ⟨truthful, Server.staysGone_of_truthful truthful⟩⟩

open Scenario

/-- Somebody moves, is flushed, and leaves inside the settle window. -/
def briefVisit : List Stamped :=
  arrival 0 1 session alice 1 ++ arrival 0 2 session bob 1 ++
    [⟨10, .message 2 (cursorFrame session bob 2 10 1 4)⟩, ⟨50, .tick⟩, ⟨60, .close 2⟩]

/-- The next tick repeats the position of the one who left, and the one who
stays sees a ghost. -/
theorem briefVisit_resent :
    (∀ stamped ∈ briefVisit ++ [⟨100, .tick⟩], stamped.Sendable) ∧
      ¬ Transition.Along (Server.step (config 100)) Server.Truthful Server.initial
        (briefVisit ++ [⟨100, .tick⟩]) ∧
      (Client.receive { pid := alice }
        (((Server.initial.run (config 100) (briefVisit ++ [⟨100, .tick⟩])).outbound.filter
          fun write => write.socket = 1).map fun write => (0, write.message))).shown bob ≠ none := by
  refine ⟨by decide, fun along => ?_, by decide⟩
  have truthful := Transition.along_iff_prefix.mp along briefVisit ⟨100, .tick⟩
    (List.prefix_refl _) rfl
  have listed : ((Server.initial.run (config 100) briefVisit).registry.all.head (by decide)) ∈
      (Server.initial.run (config 100) briefVisit).registry.all := List.head_mem _
  obtain ⟨participant, absent, _⟩ := truthful _ listed
    { sid := session, seq := 2, ts := 100
      patches := [{ pid := bob, x := some 1, y := some 4 }] } (by decide)
    { pid := bob, x := some 1, y := some 4 } (by decide)
  have gone : (Server.initial.run (config 100) briefVisit).participant?
      (((Server.initial.run (config 100) briefVisit).registry.all.head (by decide))).sid bob =
        none := by decide
  exact Option.some_ne_none participant (absent.symm.trans gone)

end Tracked

end Copresence
