import Copresence.Properties.Reconnection
import Copresence.Server.Drawing

/-! Departures the server was not told of: whether the close of a connection
that takes its participant out of the roster is reported to the audit log. -/
namespace Copresence

open Collections

namespace AuditLog

variable {before after log : AuditLog} {sid : SessionId} {pid : ParticipantId}
  {report : AuditReport}

/-- An end of this participant's stay took the report, in a record of its own
or in one that was there. -/
def TookEnd (before after : AuditLog) (sid : SessionId) (pid : ParticipantId)
    (report : AuditReport) : Prop :=
  ∃ record ∈ after.all, IsEndOf sid pid record ∧
    ((before.get record.eventId = none ∧ record.source = report.source ∧
        record.reports = [report]) ∨
      ∃ existing ∈ before.all, record = existing.addReport report)

/-- A log that is as it was took nothing. -/
theorem not_tookEnd_self : ¬ TookEnd log log sid pid report := by
  intro ⟨record, listed, _, took⟩
  have stored := log.mem_all_iff.mp listed
  rcases took with ⟨unknown, _⟩ | ⟨existing, there, grown⟩
  · rw [get, stored] at unknown
    cases unknown
  · have same : existing = record := by
      have found := log.mem_all_iff.mp there
      have named : existing.eventId = record.eventId := by rw [grown]; rfl
      rw [named, stored] at found
      exact (Option.some.inj found).symm
    have longer := congrArg (fun record => record.reports.length) grown
    simp [same, AuditRecord.addReport] at longer

/-- An end under an id the log does not have is taken. -/
theorem tookEnd_record {entry : AuditRecordInput} (isEnd : entry.kind = .sessionEnd)
    (fresh : log.get entry.eventId = none) :
    TookEnd log (log.record entry).1 entry.sid entry.pid entry.report := by
  obtain ⟨written, how, stored⟩ := log.record_written entry
  rw [stored]
  refine ⟨written, log.mem_put.mpr (Or.inl rfl), ?_⟩
  cases how with
  | extended known =>
      rw [fresh] at known
      cases known
  | folded _ _ found =>
      obtain ⟨there, own⟩ := log.openSessionEnd_spec found
      exact ⟨own, Or.inr ⟨_, there, rfl⟩⟩
  | created _ => exact ⟨⟨isEnd, rfl, rfl⟩, Or.inl ⟨fresh, rfl, rfl⟩⟩

end AuditLog

namespace Observed

variable {cfg : Config} {observed : Observed} {stamped : Stamped}

/-- The 'close' event of a connection whose participant is in the roster. -/
structure Departs (observed : Observed) (stamped : Stamped) (ctx : ConnectionContext)
    (pid : ParticipantId) : Prop where
  closes : stamped.event = .close ctx.socket
  found : observed.server.liveContext ctx.socket = some ctx
  own : ctx.pid = some pid
  listed : observed.server.InRoster ctx.sid pid

/-- Every such close is reported as the server saw it. -/
def DepartureReported (cfg : Config) (observed : Observed) (stamped : Stamped) : Prop :=
  ∀ ctx pid, observed.Departs stamped ctx pid →
    AuditLog.TookEnd observed.server.auditLog (observed.server.step cfg stamped).auditLog
      ctx.sid pid ⟨.socket, stamped.time⟩

/-- No `bye` was accepted on the connection before it. -/
def DepartsUnannounced (observed : Observed) (stamped : Stamped) : Prop :=
  ∀ ctx pid, observed.Departs stamped ctx pid → ¬ observed.SaidBye ctx.socket

/-- The flag of a connection says whether it ever sent a `bye`. -/
def Flagged (observed : Observed) : Prop :=
  ∀ socket, ((observed.server.identity? socket).map ConnectionContext.leftExplicitly = some true) ↔
    observed.SaidBye socket

theorem initial_flagged : initial.Flagged := by
  intro socket
  simp [initial, SaidBye, Server.identity?, Server.initial]

/-- A socket that said goodbye is known to the server. -/
theorem saidBye_known (known : observed.Known) {socket : SocketId}
    (said : observed.SaidBye socket) : observed.server.contexts socket ≠ none := by
  obtain ⟨accepted, before, rfl, _⟩ := said
  intro absent
  apply known accepted before
  rw [Server.identity?, absent, Option.map_none]

/-- Only a `bye` raises the flag, and nothing takes it down. -/
theorem Flagged.step (flagged : observed.Flagged) (known : observed.Known) :
    (observed.step cfg stamped).Flagged := by
  intro socket
  have effect := Server.step_effect cfg observed.server stamped
  rw [saidBye_step_iff, ← flagged socket]
  change ((observed.server.step cfg stamped).identity? socket).map _ = _ ↔ _
  rw [effect.identity?]
  generalize observed.server.action stamped = action at effect ⊢
  generalize observed.server.step cfg stamped = after at effect
  cases effect with
  | @connect opened sid fresh =>
      have silent : ¬ observed.SaidBye opened := fun said => saidBye_known known said fresh
      rw [Action.onIdentity]
      split
      · next same =>
          rw [same, flagged opened]
          simp [silent, createConnectionContext]
      · simp
  | @hello ctx guarded msg live same identified =>
      rw [Action.onIdentity]
      split
      · next own =>
          rw [own, Server.identity?, live.1]
          simp [ConnectionContext.identity]
      · simp
  | @bye ctx guarded pid live same identified =>
      rw [Action.onIdentity]
      split
      · next own => simp [own]
      · next other =>
          have another : ctx.socket ≠ socket := fun same => other same.symm
          simp [another]
  | _ => simp [Action.onIdentity]

section Close

variable {ctx : ConnectionContext} {pid : ParticipantId}
  (departs : observed.Departs stamped ctx pid)

include departs

/-- What the close does to the log. -/
theorem Departs.auditLog (cfg : Config) :
    (observed.server.step cfg stamped).auditLog =
      if ctx.leftExplicitly then observed.server.auditLog
      else (observed.server.auditLog.record (socketEnd ctx pid stamped.time
        (cfg.generateId observed.server.generated))).1 := by
  rw [Server.step, departs.closes]
  dsimp only
  rw [Server.close, departs.found]
  dsimp only
  rw [handleDisconnect, departs.own]
  dsimp only
  rw [Server.removeFromSession_eq]
  show (if ctx.leftExplicitly then _ else _ : Server).auditLog = _
  split
  · rfl
  · rfl

/-- The flag of a departing connection says whether its socket said goodbye. -/
theorem Departs.leftExplicitly_iff (flagged : observed.Flagged) :
    ctx.leftExplicitly = true ↔ observed.SaidBye ctx.socket := by
  have live := (Server.live_of_liveContext departs.found).1
  rw [← flagged ctx.socket, Server.identity?, live.1]
  simp [ConnectionContext.identity]

/-- The close is reported exactly when the connection never said bye. -/
theorem Departs.reported_iff (flagged : observed.Flagged)
    (undrawn : observed.server.Undrawn cfg) :
    AuditLog.TookEnd observed.server.auditLog (observed.server.step cfg stamped).auditLog
        ctx.sid pid ⟨.socket, stamped.time⟩ ↔ ¬ observed.SaidBye ctx.socket := by
  rw [departs.auditLog, ← departs.leftExplicitly_iff flagged]
  constructor
  · intro took left
    rw [if_pos left] at took
    exact AuditLog.not_tookEnd_self took
  · intro stayed
    rw [if_neg stayed]
    have fresh := undrawn observed.server.generated (Nat.le_refl _)
    have isEnd : (socketEnd ctx pid stamped.time
        (cfg.generateId observed.server.generated)).kind = .sessionEnd := rfl
    exact AuditLog.tookEnd_record isEnd fresh

end Close

/-- What holds of a server and its history all along. -/
structure Watched (cfg : Config) (observed : Observed) : Prop where
  known : observed.Known
  flagged : observed.Flagged
  undrawn : observed.server.Undrawn cfg

theorem initial_watched (cfg : Config) : initial.Watched cfg where
  known := by
    intro accepted before
    cases before
  flagged := initial_flagged
  undrawn := fun _ _ => rfl

/-- Every step keeps it, if ids are drawn once and clients report under others. -/
theorem Watched.step (watched : observed.Watched cfg) (unique : Function.Injective cfg.generateId)
    (unborrowed : ∀ eventId, stamped.event.reported? = some eventId →
      ∀ drawn, cfg.generateId drawn ≠ eventId) : (observed.step cfg stamped).Watched cfg where
  known := known_step watched.known
  flagged := watched.flagged.step watched.known
  undrawn := watched.undrawn.step unique unborrowed

/-- A departure is reported exactly when it was not announced by a goodbye. -/
theorem Watched.reports_iff (watched : observed.Watched cfg) :
    DepartureReported cfg observed stamped ↔ observed.DepartsUnannounced stamped := by
  constructor
  · intro reported ctx pid departs
    exact (departs.reported_iff watched.flagged watched.undrawn).mp (reported ctx pid departs)
  · intro silent ctx pid departs
    exact (departs.reported_iff watched.flagged watched.undrawn).mpr (silent ctx pid departs)

/-- The departures of a run are all reported exactly when none is of a
connection that had said bye and come back, where the ids the server draws are
drawn once and not by clients. -/
theorem departureReported_iff (cfg : Config) (unique : Function.Injective cfg.generateId)
    (events : List Stamped) (unborrowed : ∀ stamped ∈ events, ∀ eventId,
      stamped.event.reported? = some eventId → ∀ drawn, cfg.generateId drawn ≠ eventId) :
    Transition.Along (step cfg) (DepartureReported cfg) initial events ↔
      Transition.Along (step cfg) DepartsUnannounced initial events := by
  apply Transition.along_iff_along_of_kept (I := Watched cfg) _ _ (initial_watched cfg)
    (Transition.along_of_forall_mem unborrowed)
  · intro observed stamped unborrowed watched
    exact watched.step unique unborrowed
  · intro observed stamped _ watched
    exact watched.reports_iff

open Scenario

def numbering : Config := { ttlMs := 1000, generateId := longerId }

/-- A connection that says bye, says hello again, and is closed. -/
def takenBack : List Stamped :=
  arrival 0 1 session alice 1 ++
    [⟨5, .message 1 (.parsed (.bye { toEnvelope := envelope session alice 2 5 }))⟩,
      ⟨6, .message 1 (helloFrame session alice 3 6)⟩]

theorem takenBack_unreported :
    ¬ Transition.Along (step numbering) (DepartureReported numbering) initial
      (takenBack ++ [⟨10, .close 1⟩]) := by
  intro along
  have reported := Transition.along_iff_prefix.mp along takenBack _ (List.prefix_refl _)
  have departs : (run numbering initial takenBack).Departs ⟨10, .close 1⟩
      { socket := 1, sid := session, pid := some alice, sequenceGuard := { lastSeen := some 3 }
        connectedAt := 0, leftExplicitly := true } alice :=
    ⟨rfl, by decide, rfl, by decide⟩
  have took := reported _ _ departs
  change AuditLog.TookEnd _ ((run numbering initial takenBack).server.step numbering _).auditLog
    _ _ _ at took
  rw [departs.auditLog, if_pos rfl] at took
  exact AuditLog.not_tookEnd_self took

/-- A close without a bye. -/
def dropped : List Stamped := arrival 0 1 session alice 1 ++ [⟨10, .close 1⟩]

theorem dropped_reported :
    Transition.Along (step numbering) (DepartureReported numbering) initial dropped := by
  have unborrowed : ∀ stamped ∈ dropped, stamped.event.reported? = none := by decide
  have wordless : ∀ accepted ∈ (run numbering initial (arrival 0 1 session alice 1)).accepted,
      accepted.msg.t ≠ .bye := by
    decide
  apply (departureReported_iff numbering longerId_injective dropped _).mpr
  · rw [dropped, Transition.along_append]
    refine ⟨⟨?_, ?_, trivial⟩, ?_, trivial⟩
    · intro ctx pid departs
      cases departs.closes
    · intro ctx pid departs
      cases departs.closes
    · intro ctx pid departs ⟨accepted, before, _, said⟩
      exact wordless accepted before said
  · intro stamped occurs eventId reported
    rw [unborrowed stamped occurs] at reported
    cases reported

end Observed

end Copresence
