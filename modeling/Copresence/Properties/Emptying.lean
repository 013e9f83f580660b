import Copresence.Properties.Staleness
import Copresence.Server.Roster

/-! Sessions that the last participant left: which sweeps drop them and which
never will. -/
namespace Copresence

open Collections

namespace Server

/-- Somebody is in the session. -/
def Occupied (server : Server) (sid : SessionId) : Prop := ∃ pid, server.InRoster sid pid

/-- The session is kept with nobody in it. -/
def Deserted (server : Server) (sid : SessionId) : Prop :=
  (server.registry.get sid).isSome = true ∧ ¬ server.Occupied sid

/-- Nobody but this participant is in the session. -/
def Alone (server : Server) (sid : SessionId) (pid : ParticipantId) : Prop :=
  server.InRoster sid pid ∧ ∀ other, server.InRoster sid other → other = pid

end Server

/-- Who leaves the session by a bye or a close. -/
def Action.leaver (sid : SessionId) : Action → Option ParticipantId
  | bye ctx pid => if sid = ctx.sid then some pid else none
  | close ctx => if sid = ctx.sid then ctx.pid else none
  | _ => none

/-- The session a hello is for. -/
def Action.entered : Action → Option SessionId
  | hello ctx _ => some ctx.sid
  | _ => none

def Action.Enters (action : Action) (sid : SessionId) : Prop := action.entered = some sid

/-- An action that lets nobody in lets nobody into this session. -/
theorem Action.not_enters {action : Action} {sid : SessionId} (h : action.entered = none) :
    ¬ action.Enters sid := by
  rw [Enters, h]
  intro he
  cases he

/-- A bye or a close takes the last participant out of the session. -/
def Server.Vacates (server : Server) (stamped : Stamped) (sid : SessionId) : Prop :=
  ∃ pid, (server.action stamped).leaver sid = some pid ∧ server.Alone sid pid

/-- A server with the sessions that ever had somebody in them, and those whose
last participant left by a bye or a close, with no hello since. -/
structure Emptying where
  server : Server
  visited : SessionId → Prop
  vacated : SessionId → Prop

namespace Emptying

def initial : Emptying where
  server := Server.initial
  visited := fun _ => False
  vacated := fun _ => False

def step (cfg : Config) (emptying : Emptying) (stamped : Stamped) : Emptying where
  server := emptying.server.step cfg stamped
  visited := fun sid =>
    emptying.visited sid ∨ (emptying.server.step cfg stamped).Occupied sid
  vacated := fun sid =>
    emptying.server.Vacates stamped sid ∨
      (emptying.vacated sid ∧ ¬(emptying.server.action stamped).Enters sid)

/-- A sweep leaves no session that had somebody in it and now has nobody. -/
def Swept (cfg : Config) (emptying : Emptying) (stamped : Stamped) : Prop :=
  stamped.event = .reap → ∀ sid, (emptying.step cfg stamped).visited sid →
    ¬(emptying.step cfg stamped).server.Deserted sid

/-- A sweep finds no session that was last left by a bye or a close. -/
def NoneVacated (emptying : Emptying) (stamped : Stamped) : Prop :=
  stamped.event = .reap → ∀ sid, ¬ emptying.vacated sid

end Emptying

namespace Server

variable {cfg : Config} {server after : Server} {now : Int} {action : Action} {sid : SessionId}

/-- Whoever is on the roster is a participant of the session. -/
theorem inRoster_iff {pid : ParticipantId} :
    server.InRoster sid pid ↔ ∃ participant, server.participant? sid pid = some participant := by
  rw [InRoster, ← Option.isSome_map (f := Entry.participant), ← participant?_eq,
    Option.isSome_iff_exists]

/-- A session with somebody on its roster is stored. -/
theorem stored_of_inRoster {pid : ParticipantId} (h : server.InRoster sid pid) :
    (server.registry.get sid).isSome = true := by
  cases hg : server.registry.get sid with
  | none => simp [InRoster, entryOf, SessionRegistry.entryOf_of_get_none hg] at h
  | some session => rfl

/-- Only a hello makes a session, and only a sweep drops one. -/
theorem Effect.stored (effect : Effect cfg server now action after) (noSweep : action ≠ .reap)
    (sid : SessionId) :
    (after.registry.get sid).isSome = true ↔
      action.Enters sid ∨ (server.registry.get sid).isSome = true := by
  have departed : ∀ (ctx : ConnectionContext) (pid : ParticipantId) (before : Server),
      before.registry = server.registry →
      (((removeFromSession now ctx pid before).registry.get sid).isSome = true ↔
        (server.registry.get sid).isSome = true) := by
    intro ctx pid before same
    rw [removeFromSession_eq, emit_registry, departed_get, same]
    split
    · rw [Option.isSome_map]
    · rfl
  cases effect with
  | idle quiet => rw [quiet.registry, or_iff_right (Action.not_enters rfl)]
  | connect fresh => exact (or_iff_right (Action.not_enters rfl)).symm
  | closing wasOpen => exact (or_iff_right (Action.not_enters rfl)).symm
  | @hello ctx guarded msg live same identified =>
      rw [handleHello_eq, emit_registry, helloRegistered, SessionRegistry.get_save,
        helloSession_sid, identity_sid same]
      split
      · next own => exact iff_of_true rfl (Or.inl (congrArg some own.symm))
      · next other =>
          have another : ¬ (Action.hello ctx msg).Enters sid :=
            fun h => other (Option.some.inj h).symm
          rw [getOrCreate_other _ _ other, or_iff_right another]
          rfl
  | presence live same isPresence identified =>
      rw [handlePresence_get, or_iff_right (Action.not_enters rfl)]
      split
      · rw [Option.isSome_map]
        rfl
      · rfl
  | bye live same identified =>
      rw [or_iff_right (Action.not_enters rfl)]
      exact departed _ _ _ rfl
  | @close ctx live =>
      rw [or_iff_right (Action.not_enters rfl), handleDisconnect]
      split
      · rfl
      · apply departed
        split
        · rfl
        · rfl
  | tick =>
      rw [or_iff_right (Action.not_enters rfl), Server.tick, TickScheduler.tick_get]
      cases server.registry.get sid with
      | none => rfl
      | some session =>
          rw [Option.bind_some, TickScheduler.flushed]
          split
          · rfl
          · rfl
  | reap => exact absurd rfl noSweep

/-- A sweep neither empties a session that stays nor drops one that was
empty. -/
theorem deserted_sweep (wf : server.WellFormed) :
    (Reaper.sweep cfg now server).Deserted sid ↔ server.Deserted sid := by
  have reaps := SessionRegistry.reapStale_reaps wf.seated cfg.ttlMs now
  have rosters : ∀ pid, (Reaper.sweep cfg now server).InRoster sid pid ↔
      ∃ participant, server.participant? sid pid = some participant ∧
        now - participant.lastSeenAt ≤ cfg.ttlMs := by
    intro pid
    have present := reaps.present sid pid
    rw [SessionRegistry.participant?_eq, Option.isSome_map] at present
    rw [InRoster, entryOf, Reaper.sweep_registry]
    exact present
  rw [Deserted, Deserted, Reaper.sweep_registry]
  constructor
  · rintro ⟨stays, nobody⟩
    cases hg : server.registry.get sid with
    | none =>
        rw [SessionRegistry.get_reapStale, hg] at stays
        cases stays
    | some session =>
        refine ⟨rfl, ?_⟩
        rintro ⟨pid, there⟩
        have allStale : ∀ other participant,
            session.participants.get? other = some participant →
              ¬ now - participant.lastSeenAt ≤ cfg.ttlMs := by
          intro other participant hp fresh
          apply nobody
          refine ⟨other, (rosters other).mpr ⟨participant, ?_, fresh⟩⟩
          exact (SessionRegistry.participant?_of_get hg other).trans hp
        obtain ⟨participant, hp⟩ := inRoster_iff.mp there
        have listed := (reaps.listed ⟨sid, pid, participant.lastSeenAt⟩).mpr
          ⟨participant, hp, allStale pid participant
            ((SessionRegistry.participant?_of_get hg pid).symm.trans hp), rfl⟩
        rw [(reaps.dropped sid session hg).mpr ⟨⟨_, listed, rfl⟩, allStale⟩] at stays
        cases stays
  · rintro ⟨stored, nobody⟩
    have untouched := reaps.untouched sid (by
      rintro one hm rfl
      obtain ⟨participant, hp, _⟩ := (reaps.listed one).mp hm
      exact nobody ⟨one.pid, inRoster_iff.mpr ⟨participant, hp⟩⟩)
    rw [untouched]
    refine ⟨stored, ?_⟩
    rintro ⟨pid, there⟩
    obtain ⟨participant, hp, _⟩ := (rosters pid).mp there
    exact nobody ⟨pid, inRoster_iff.mpr ⟨participant, hp⟩⟩

/-- After a step the roster is what the action makes of its entries. -/
theorem Effect.inRoster (effect : Effect cfg server now action after) (wf : server.WellFormed)
    (pid : ParticipantId) :
    after.InRoster sid pid ↔
      (action.onEntry cfg.ttlMs now sid pid (server.entryOf sid pid)).isSome = true := by
  rw [InRoster, effect.entryOf wf]

/-- A session whose roster does not move stays deserted, or stays not. -/
theorem Effect.deserted_of_still (effect : Effect cfg server now action after)
    (noSweep : action ≠ .reap) (nobody : action.leaver sid = none) (notIn : ¬ action.Enters sid)
    (same : ∀ pid, after.InRoster sid pid ↔ server.InRoster sid pid) :
    after.Deserted sid ↔
      (∃ pid, action.leaver sid = some pid ∧ server.Alone sid pid) ∨
        (server.Deserted sid ∧ ¬ action.Enters sid) := by
  rw [nobody, and_iff_left notIn, Deserted, Deserted, effect.stored noSweep,
    or_iff_right notIn, Occupied, Occupied]
  simp [same]

/-- A session is deserted when the one who leaves was alone in it. -/
theorem Effect.deserted_of_leaver (effect : Effect cfg server now action after)
    (noSweep : action ≠ .reap) {leaver : ParticipantId} (leaves : action.leaver sid = some leaver)
    (notIn : ¬ action.Enters sid)
    (rest : ∀ pid, after.InRoster sid pid ↔ pid ≠ leaver ∧ server.InRoster sid pid) :
    after.Deserted sid ↔
      (∃ pid, action.leaver sid = some pid ∧ server.Alone sid pid) ∨
        (server.Deserted sid ∧ ¬ action.Enters sid) := by
  rw [leaves, and_iff_left notIn, Deserted, Deserted, effect.stored noSweep, or_iff_right notIn]
  constructor
  · rintro ⟨stored, nobody⟩
    by_cases occupied : server.Occupied sid
    · left
      obtain ⟨pid, there⟩ := occupied
      have only : ∀ other, server.InRoster sid other → other = leaver := by
        intro other ho
        by_contra different
        exact nobody ⟨other, (rest other).mpr ⟨different, ho⟩⟩
      exact ⟨leaver, rfl, only pid there ▸ there, only⟩
    · exact Or.inr ⟨stored, occupied⟩
  · rintro (⟨pid, same, there, only⟩ | ⟨stored, nobody⟩)
    · obtain rfl := Option.some.inj same
      refine ⟨stored_of_inRoster there, ?_⟩
      rintro ⟨other, ho⟩
      obtain ⟨different, ho⟩ := (rest other).mp ho
      exact different (only other ho)
    · refine ⟨stored, ?_⟩
      rintro ⟨other, ho⟩
      exact nobody ⟨other, ((rest other).mp ho).2⟩

/-- What empties a session, and what fills it again. -/
theorem Effect.deserted (effect : Effect cfg server now action after) (wf : server.WellFormed) :
    after.Deserted sid ↔
      (∃ pid, action.leaver sid = some pid ∧ server.Alone sid pid) ∨
        (server.Deserted sid ∧ ¬ action.Enters sid) := by
  have rosters : ∀ pid, after.InRoster sid pid ↔ _ := effect.inRoster wf
  have cleared : ∀ pid leaver : ParticipantId,
      (if pid = leaver then none else server.entryOf sid pid).isSome = true ↔
        pid ≠ leaver ∧ server.InRoster sid pid := by
    intro pid leaver
    split
    · next same => simp [same]
    · next other => simp [other, InRoster]
  cases action with
  | idle => exact effect.deserted_of_still (by simp) rfl (Action.not_enters rfl) rosters
  | connect => exact effect.deserted_of_still (by simp) rfl (Action.not_enters rfl) rosters
  | closing => exact effect.deserted_of_still (by simp) rfl (Action.not_enters rfl) rosters
  | hello ctx msg =>
      by_cases own : sid = ctx.sid
      · have entered : (Action.hello ctx msg).Enters sid := congrArg some own.symm
        have occupied : after.Occupied sid := by
          refine ⟨msg.pid, (rosters msg.pid).mpr ?_⟩
          rw [Action.onEntry, if_pos ⟨own, rfl⟩]
          rfl
        rw [Deserted]
        simp [occupied, entered, Action.leaver]
      · have another : ¬ (Action.hello ctx msg).Enters sid :=
          fun h => own (Option.some.inj h).symm
        apply effect.deserted_of_still (by simp) rfl another
        intro pid
        rw [rosters, Action.onEntry, if_neg fun h => own h.1, InRoster]
  | presence ctx event =>
      apply effect.deserted_of_still (by simp) rfl (Action.not_enters rfl)
      intro pid
      rw [rosters, Action.onEntry, InRoster]
      split
      · rw [Option.isSome_map]
      · rfl
  | bye ctx leaver =>
      by_cases own : sid = ctx.sid
      · apply effect.deserted_of_leaver (by simp) (if_pos own) (Action.not_enters rfl)
        intro pid
        rw [rosters, ← cleared, Action.onEntry]
        simp [own]
      · apply effect.deserted_of_still (by simp) (if_neg own) (Action.not_enters rfl)
        intro pid
        rw [rosters, Action.onEntry, if_neg fun h => own h.1, InRoster]
  | close ctx =>
      by_cases own : sid = ctx.sid
      · cases hp : ctx.pid with
        | none =>
            apply effect.deserted_of_still (by simp) ((if_pos own).trans hp) (Action.not_enters rfl)
            intro pid
            rw [rosters, Action.onEntry, hp, InRoster]
            simp
        | some leaver =>
            apply effect.deserted_of_leaver (by simp) ((if_pos own).trans hp)
              (Action.not_enters rfl)
            intro pid
            rw [rosters, ← cleared, Action.onEntry, hp]
            simp only [own, true_and, Option.some.injEq, eq_comm (a := leaver)]
      · apply effect.deserted_of_still (by simp) (if_neg own) (Action.not_enters rfl)
        intro pid
        rw [rosters, Action.onEntry, if_neg fun h => own h.1, InRoster]
  | tick =>
      apply effect.deserted_of_still (by simp) rfl (Action.not_enters rfl)
      intro pid
      rw [rosters, Action.onEntry, InRoster, Option.isSome_map]
  | reap =>
      cases effect with
      | reap =>
          rw [deserted_sweep wf, and_iff_left (Action.not_enters rfl)]
          simp [Action.leaver]

end Server

namespace Emptying

variable {cfg : Config} {emptying : Emptying}

/-- The sessions emptied by a bye or a close are those kept with nobody in
them. -/
structure Tracks (emptying : Emptying) : Prop where
  wellFormed : emptying.server.WellFormed
  vacated : ∀ sid, emptying.vacated sid ↔ emptying.server.Deserted sid
  occupied : ∀ sid, emptying.server.Occupied sid → emptying.visited sid
  visited : ∀ sid, emptying.vacated sid → emptying.visited sid

theorem tracks_initial : initial.Tracks where
  wellFormed := Server.initial_wellFormed
  vacated := by
    intro sid
    constructor
    · intro h
      cases h
    · intro h
      cases h.1
  occupied := by
    rintro sid ⟨pid, h⟩
    cases h
  visited := by
    intro sid h
    cases h

/-- Every step keeps track of the sessions kept with nobody in them. -/
theorem Tracks.step (tracks : emptying.Tracks) (stamped : Stamped) :
    (emptying.step cfg stamped).Tracks where
  wellFormed := Server.step_wellFormed cfg tracks.wellFormed stamped
  vacated := by
    intro sid
    have effect := Server.step_effect cfg emptying.server stamped
    have moved : (emptying.server.step cfg stamped).Deserted sid ↔ _ :=
      effect.deserted tracks.wellFormed
    rw [← tracks.vacated] at moved
    exact moved.symm
  occupied := fun sid h => Or.inr h
  visited := by
    rintro sid (⟨pid, _, there, _⟩ | ⟨before, _⟩)
    · exact Or.inl (tracks.occupied sid ⟨pid, there⟩)
    · exact Or.inl (tracks.visited sid before)

/-- A sweep leaves no deserted session exactly when it finds none that was vacated. -/
theorem Tracks.swept_iff_noneVacated (tracks : emptying.Tracks) (stamped : Stamped) :
    emptying.Swept cfg stamped ↔ emptying.NoneVacated stamped := by
  have after : (emptying.step cfg stamped).Tracks := tracks.step stamped
  apply imp_congr_right
  intro isReap
  apply forall_congr'
  intro sid
  have unmoved : (emptying.step cfg stamped).vacated sid ↔ emptying.vacated sid := by
    have swept : emptying.server.action stamped = .reap := by rw [Server.action, isReap]
    have nobody : ¬ emptying.server.Vacates stamped sid := by
      rintro ⟨pid, leaves, _⟩
      rw [swept] at leaves
      cases leaves
    have notIn : ¬ (emptying.server.action stamped).Enters sid := by
      rw [swept]
      exact Action.not_enters rfl
    exact (or_iff_right nobody).trans (and_iff_left notIn)
  rw [← after.vacated, unmoved]
  constructor
  · intro h before
    exact h (after.visited sid (unmoved.mpr before)) before
  · intro h _ before
    exact h before

/-- The sweeps of a run leave no emptied session behind exactly when none of
them finds one whose last participant left by a bye or a close. -/
theorem swept_iff (cfg : Config) (events : List Stamped) :
    Transition.Along (step cfg) (Swept cfg) initial events ↔
      Transition.Along (step cfg) NoneVacated initial events :=
  Transition.along_iff_along (I := Tracks) (fun _ stamped tracks => tracks.step stamped)
    (fun _ stamped tracks => tracks.swept_iff_noneVacated stamped) tracks_initial

/-- Watching does not disturb. -/
theorem run_server (cfg : Config) (events : List Stamped) :
    (Transition.run (step cfg) initial events).server = Server.run cfg Server.initial events :=
  Transition.run_map (f := Emptying.server) (fun _ _ => rfl) initial events

open Scenario

/-- One visit, ended by a bye, and a sweep long after it. -/
def oneVisit : List Stamped :=
  arrival 0 1 session alice 1 ++
    [⟨10, .message 1 (.parsed (.bye { toEnvelope := envelope session alice 2 10 }))⟩]

/-- The session is never dropped. -/
theorem oneVisit_kept :
    ¬ Transition.Along (step (config 1000)) (Swept (config 1000)) initial
      (oneVisit ++ [⟨100000, .reap⟩]) := by
  intro along
  have swept := Transition.along_iff_prefix.mp along oneVisit _ (List.prefix_refl _)
  apply swept rfl session
  · exact Or.inl (Or.inl (Or.inr ⟨alice, by decide⟩))
  · have emptied : ((Server.run (config 1000) Server.initial
        (oneVisit ++ [⟨100000, .reap⟩])).registry.get session).map Session.participants =
          some JsMap.empty := by decide
    rw [← run_server, Transition.run_concat] at emptied
    obtain ⟨left, hg, nobody⟩ := Option.map_eq_some_iff.mp emptied
    constructor
    · rw [hg]
      rfl
    · rintro ⟨pid, there⟩
      rw [Server.InRoster, Server.entryOf, SessionRegistry.entryOf_of_get hg, Session.entryOf,
        nobody] at there
      cases there

end Emptying

end Copresence
