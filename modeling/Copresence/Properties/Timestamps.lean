import Copresence.Lib.Run
import Copresence.Server.Roster
import Copresence.Server.UntimedSweep

/-! Whether the times that clients report decide anything. They reach one
place that does, the time a participant was last seen at, which the reaper
compares with the server's clock and reports. -/
namespace Copresence

/-- A server with all that the reaper has removed from its rosters so far. -/
structure Swept where
  server : Server
  removed : List (SessionId × ParticipantId)

namespace Swept

def initial : Swept := { server := Server.initial, removed := [] }

def step (cfg : Config) (swept : Swept) (stamped : Stamped) : Swept where
  server := swept.server.step cfg stamped
  removed := swept.removed ++
    match stamped.event with
    | .reap =>
      (swept.server.registry.reapStale cfg.ttlMs stamped.time).2.map ReapedParticipant.who
    | _ => []

end Swept

/-- Two runs side by side. -/
structure Twins where
  first : Swept
  second : Swept

namespace Twins

def initial : Twins := { first := Swept.initial, second := Swept.initial }

def step (cfg : Config) (twins : Twins) (pair : Stamped × Stamped) : Twins where
  first := twins.first.step cfg pair.1
  second := twins.second.step cfg pair.2

/-- All that clients' times are to leave alone. The messages sent may differ in
times they repeat. -/
structure Agree (twins : Twins) : Prop where
  rosters : ∀ sid pid, twins.first.server.InRoster sid pid ↔ twins.second.server.InRoster sid pid
  presence : ∀ sid pid, (twins.first.server.entryOf sid pid).map
      (fun entry => (entry.participant.presence, entry.dirty)) =
    (twins.second.server.entryOf sid pid).map
      fun entry => (entry.participant.presence, entry.dirty)
  registrations : ∀ pid, twins.first.server.hub.registration pid =
    twins.second.server.hub.registration pid
  removed : ∀ who, who ∈ twins.first.removed ↔ who ∈ twins.second.removed
  auditLog : twins.first.server.auditLog = twins.second.server.auditLog
  outbound : twins.first.server.outbound.map Write.untimed =
    twins.second.server.outbound.map Write.untimed

/-- At a sweep of the reaper nobody is stale in one run and fresh in the other,
and whoever is stale was last seen at the same time in both or has an end in
the audit log that takes the report in. -/
def SweepsAlike (cfg : Config) (twins : Twins) (pair : Stamped × Stamped) : Prop :=
  pair.1.event = .reap → ∀ sid pid p q,
    twins.first.server.participant? sid pid = some p →
    twins.second.server.participant? sid pid = some q →
      (p.Stale cfg.ttlMs pair.1.time ↔ q.Stale cfg.ttlMs pair.1.time) ∧
      (p.Stale cfg.ttlMs pair.1.time → p.lastSeenAt = q.lastSeenAt ∨
        (twins.first.server.auditLog.openSessionEnd sid pid).isSome)

/-- What holds of the runs as long as their sweeps find the same. -/
structure Alike (cfg : Config) (twins : Twins) : Prop where
  servers : twins.first.server.untimed = twins.second.server.untimed
  removed : twins.first.removed = twins.second.removed
  wellFormed : twins.first.server.WellFormed ∧ twins.second.server.WellFormed
  undrawn : twins.first.server.Undrawn cfg

variable {cfg : Config} {twins : Twins} {pair : Stamped × Stamped}

/-- Servers that are alike agree on the rosters. -/
theorem Alike.agree (alike : twins.Alike cfg) : twins.Agree := by
  obtain ⟨same, logs⟩ := Server.untimed_eq_iff.mp alike.servers
  have entries : ∀ sid pid, (twins.first.server.entryOf sid pid).map
      (fun entry => { entry with participant := entry.participant.untimed }) =
    (twins.second.server.entryOf sid pid).map
      fun entry => { entry with participant := entry.participant.untimed } := by
    intro sid pid
    rw [← Server.untimed_entryOf, ← Server.untimed_entryOf, alike.servers]
  refine ⟨?_, ?_, ?_, ?_, logs, same.outbound⟩
  · intro sid pid
    have known := congrArg Option.isSome (entries sid pid)
    rw [Option.isSome_map, Option.isSome_map] at known
    rw [Server.InRoster, Server.InRoster, known]
  · intro sid pid
    have shown := congrArg (Option.map fun entry : Entry =>
      (entry.participant.presence, entry.dirty)) (entries sid pid)
    rw [Option.map_map, Option.map_map] at shown
    exact shown
  · intro pid
    rw [same.hub]
  · intro who
    rw [alike.removed]

/-- A sweep carries no client's time. -/
theorem eq_of_reap {stamped other : Stamped} (retimed : stamped.untimed = other.untimed)
    (he : stamped.event = .reap) : other = stamped := by
  obtain ⟨time, event⟩ := stamped
  obtain ⟨otherTime, otherEvent⟩ := other
  cases he
  simp only [Stamped.untimed, ServerEvent.untimed, Stamped.mk.injEq] at retimed
  cases otherEvent with
  | reap => rw [retimed.1]
  | _ => cases retimed.2

/-- Every event but a sweep keeps the two servers alike. -/
theorem Alike.step_of_ne_reap (alike : twins.Alike cfg)
    (retimed : pair.1.untimed = pair.2.untimed) (noSweep : pair.1.event ≠ .reap)
    (undrawn : (twins.first.server.step cfg pair.1).Undrawn cfg) :
    (twins.step cfg pair).Alike cfg := by
  have noSweep' : pair.2.event ≠ .reap := by
    intro he
    rw [← eq_of_reap retimed.symm he] at he
    exact noSweep he
  have untouched : ∀ (swept : Swept) (stamped : Stamped), stamped.event ≠ .reap →
      (swept.step cfg stamped).removed = swept.removed := by
    intro swept stamped h
    rw [Swept.step]
    cases he : stamped.event with
    | reap => exact absurd he h
    | _ => exact List.append_nil _
  refine ⟨?_, ?_, ⟨?_, ?_⟩, undrawn⟩
  · show (twins.first.server.step cfg pair.1).untimed = (twins.second.server.step cfg pair.2).untimed
    rw [Server.untimed_step _ _ _ noSweep, Server.untimed_step _ _ _ noSweep', alike.servers,
      retimed]
  · show (twins.first.step cfg pair.1).removed = (twins.second.step cfg pair.2).removed
    rw [untouched _ _ noSweep, untouched _ _ noSweep', alike.removed]
  · exact (Server.step_effect cfg twins.first.server pair.1).wellFormed alike.wellFormed.1
  · exact (Server.step_effect cfg twins.second.server pair.2).wellFormed alike.wellFormed.2

section Reap

variable (alike : twins.Alike cfg) (retimed : pair.1.untimed = pair.2.untimed)
  (he : pair.1.event = .reap)

include retimed he

/-- A sweep of the two is a sweep of each at the same time. -/
theorem step_reap : (twins.step cfg pair).first.server =
      Reaper.sweep cfg pair.1.time twins.first.server ∧
    (twins.step cfg pair).second.server = Reaper.sweep cfg pair.1.time twins.second.server := by
  constructor
  · show twins.first.server.step cfg pair.1 = _
    rw [Server.step, he]
  · show twins.second.server.step cfg pair.2 = _
    rw [eq_of_reap retimed he, Server.step, he]

include alike

/-- Runs that still agree after a sweep have found the same in it. -/
theorem Alike.sweepsAlike (unique : Function.Injective cfg.generateId)
    (agree : (twins.step cfg pair).Agree) : twins.SweepsAlike cfg pair := by
  intro _
  obtain ⟨same, logs⟩ := Server.untimed_eq_iff.mp alike.servers
  obtain ⟨first, second⟩ := step_reap retimed he
  have kept : ∀ {server : Server} {sid pid p}, server.WellFormed →
      server.participant? sid pid = some p →
        ((Reaper.sweep cfg pair.1.time server).InRoster sid pid ↔
          ¬p.Stale cfg.ttlMs pair.1.time) := by
    intro server sid pid p wf hp
    rw [Server.participant?_eq, Option.map_eq_some_iff] at hp
    obtain ⟨entry, hEntry, rfl⟩ := hp
    rw [Server.InRoster, Reaper.sweep_entryOf cfg pair.1.time wf, hEntry]
    simp [Option.filter]
  have stale : ∀ sid pid p q, twins.first.server.participant? sid pid = some p →
      twins.second.server.participant? sid pid = some q →
        (p.Stale cfg.ttlMs pair.1.time ↔ q.Stale cfg.ttlMs pair.1.time) := by
    intro sid pid p q hp hq
    have rosters := agree.rosters sid pid
    rw [first, second, kept alike.wellFormed.1 hp, kept alike.wellFormed.2 hq] at rosters
    exact not_iff_not.mp rosters
  have reports := agree.auditLog
  rw [first, second, same.sweep_auditLog_iff logs alike.wellFormed.1 alike.wellFormed.2 stale unique
    alike.undrawn] at reports
  exact fun sid pid p q hp hq => ⟨stale sid pid p q hp hq, reports sid pid p q hp hq⟩

/-- A sweep that finds the same participants stale keeps the two alike. -/
theorem Alike.step_of_reap (unique : Function.Injective cfg.generateId)
    (sweeps : twins.SweepsAlike cfg pair)
    (undrawn : (twins.first.server.step cfg pair.1).Undrawn cfg) :
    (twins.step cfg pair).Alike cfg := by
  obtain ⟨same, logs⟩ := Server.untimed_eq_iff.mp alike.servers
  obtain ⟨wf, wf'⟩ := alike.wellFormed
  obtain ⟨first, second⟩ := step_reap retimed he
  have stale := fun sid pid p q hp hq => (sweeps he sid pid p q hp hq).1
  have reports := (same.sweep_auditLog_iff logs wf wf' stale unique alike.undrawn).mpr
    fun sid pid p q hp hq => (sweeps he sid pid p q hp hq).2
  have swept := same.sweep cfg pair.1.time wf wf' stale
  refine ⟨?_, ?_, ?_, undrawn⟩
  · rw [first, second]
    exact Server.untimed_eq_iff.mpr ⟨swept, reports⟩
  · show (twins.first.step cfg pair.1).removed = (twins.second.step cfg pair.2).removed
    rw [eq_of_reap retimed he, Swept.step, Swept.step, he, alike.removed]
    exact congrArg (twins.second.removed ++ ·)
      (SessionRegistry.reapStale_alike wf wf' same.registry stale).2
  · rw [first, second]
    exact ⟨Reaper.sweep_wellFormed cfg _ wf, Reaper.sweep_wellFormed cfg _ wf'⟩

end Reap

theorem initial_alike (cfg : Config) : initial.Alike cfg where
  servers := rfl
  removed := rfl
  wellFormed := ⟨Server.initial_wellFormed, Server.initial_wellFormed⟩
  undrawn := fun _ _ => rfl

/-- Two runs whose frames differ in times agree throughout exactly when every
sweep of the reaper finds the same in both, where the ids the server draws are
drawn once and not by clients. -/
theorem agree_iff_sweepsAlike (cfg : Config) (unique : Function.Injective cfg.generateId)
    (pairs : List (Stamped × Stamped)) (retimed : ∀ pair ∈ pairs, pair.1.untimed = pair.2.untimed)
    (unborrowed : ∀ pair ∈ pairs, ∀ eventId, pair.1.event.reported? = some eventId →
      ∀ drawn, cfg.generateId drawn ≠ eventId) :
    Transition.Always (step cfg) Agree initial pairs ↔
      Transition.Along (step cfg) (SweepsAlike cfg) initial pairs := by
  have allowed : ∀ pair ∈ pairs, pair.1.untimed = pair.2.untimed ∧
      ∀ eventId, pair.1.event.reported? = some eventId → ∀ drawn, cfg.generateId drawn ≠ eventId :=
    fun pair hp => ⟨retimed pair hp, unborrowed pair hp⟩
  refine Transition.always_iff_along_of_kept (R := Alike cfg) ?_ ?_ ?_ (initial_alike cfg) allowed
  · exact fun twins alike => alike.agree
  · intro twins pair allowed alike agree he
    exact alike.sweepsAlike allowed.1 he unique agree he
  · intro twins pair allowed alike sweeps
    have undrawn := alike.undrawn.step unique allowed.2
    by_cases he : pair.1.event = .reap
    · exact alike.step_of_reap allowed.1 he unique sweeps undrawn
    · exact alike.step_of_ne_reap allowed.1 he undrawn

open Scenario

def patient : Config := { ttlMs := 100, generateId := longerId }

/-- In the second run the participant's clock is ahead of the server's. -/
def skewed : List (Stamped × Stamped) :=
  [(⟨0, .connect 1 session⟩, ⟨0, .connect 1 session⟩),
    (⟨1, .message 1 (helloFrame session alice 1 1)⟩,
      ⟨1, .message 1 (helloFrame session alice 1 50)⟩),
    (⟨2, .message 1 (startFrame session alice 2 2 ⟨"e", nonempty_e⟩)⟩,
      ⟨2, .message 1 (startFrame session alice 2 51 ⟨"e", nonempty_e⟩)⟩),
    (⟨110, .reap⟩, ⟨110, .reap⟩)]

theorem skewed_retimed : ∀ pair ∈ skewed, pair.1.untimed = pair.2.untimed := by
  decide

theorem skewed_disagree : ¬Transition.Always (step patient) Agree initial skewed := by
  intro always
  have agree := Transition.always_iff_prefix.mp always skewed (List.prefix_refl _)
  have rosters := agree.rosters session alice
  revert rosters
  decide

/-- The sweep removes the participant whose clock is right, and not the one
whose clock is ahead. -/
theorem clocks_decide : (∀ pair ∈ skewed, pair.1.untimed = pair.2.untimed) ∧
    ¬Transition.Always (step patient) Agree initial skewed :=
  ⟨skewed_retimed, skewed_disagree⟩

theorem agree_iff_sweepsAlike_skewed :
    ¬Transition.Along (step patient) (SweepsAlike patient) initial skewed := by
  intro along
  apply skewed_disagree
  apply (agree_iff_sweepsAlike patient longerId_injective skewed skewed_retimed ?_).mpr along
  have reported : ∀ pair ∈ skewed, ∀ eventId ∈ pair.1.event.reported?,
      eventId.value.toList = ['e'] := by
    decide
  intro pair hp eventId hr drawn same
  have letters := reported pair hp eventId hr
  rw [← same, show patient.generateId drawn = longerId drawn from rfl, longerId_toList] at letters
  simp [List.replicate_succ] at letters

end Twins

end Copresence
