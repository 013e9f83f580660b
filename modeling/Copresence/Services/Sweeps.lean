import Copresence.Controllers.Realtime

/-! The two sweeps that infer a session's end: the reaper from `lastSeenAt`,
the reconciler from the audit log alone. -/
namespace Copresence

open Collections

namespace Reaper

/-- The audit entry for one reaped participant. -/
def inferredEnd (reaped : ReapedParticipant) (now : Int) (eventId : EventId) : AuditRecordInput :=
  { eventId, sid := reaped.sid, pid := reaped.pid, kind := .sessionEnd, source := .inferred
    recordedAt := now
    detail := some { reason := "heartbeat timeout", lastSeenAt := some reaped.lastSeenAt } }

/-- One turn of the loop in `sweep`. -/
def announce (cfg : Config) (now : Int) (server : Server) (reaped : ReapedParticipant) : Server :=
  let unregistered := { server with hub := server.hub.unregister reaped.pid }
  let noted := unregistered.recordGenerated cfg (inferredEnd reaped now)
  noted.broadcastToSession reaped.sid (leaveMessage reaped.sid reaped.pid now) (some reaped.pid)

def sweep (cfg : Config) (now : Int) (server : Server) : Server :=
  let (registry, reaped) := server.registry.reapStale cfg.ttlMs now
  reaped.foldl (announce cfg now) { server with registry }

end Reaper

namespace AuditReconciler

/-- The key under which the sweep groups records, a plain concatenation. -/
def key (record : AuditRecord) : String := record.sid.value ++ ":" ++ record.pid.value

/-- Keep the record with the later `recordedAt` under its key. -/
def keepLatest (latest : JsMap String AuditRecord) (record : AuditRecord) :
    JsMap String AuditRecord :=
  match latest.get? (key record) with
  | none => latest.set (key record) record
  | some existing =>
    if record.recordedAt > existing.recordedAt then latest.set (key record) record else latest

/-- One step of the first loop of `sweep`: the latest start and end by key. -/
def scan (found : JsMap String AuditRecord × JsMap String AuditRecord) (record : AuditRecord) :
    JsMap String AuditRecord × JsMap String AuditRecord :=
  match record.kind with
  | .sessionStart => (keepLatest found.1 record, found.2)
  | .sessionEnd => (found.1, keepLatest found.2 record)
  | _ => found

def latest (log : AuditLog) : JsMap String AuditRecord × JsMap String AuditRecord :=
  log.all.foldl scan (JsMap.empty, JsMap.empty)

/-- Whether the second loop closes this start. -/
def overdue (latestEnd : JsMap String AuditRecord) (ttlMs now : Int) (start : AuditRecord) :
    Bool :=
  let closed := match latestEnd.get? (key start) with
    | none => false
    | some record => decide (record.recordedAt ≥ start.recordedAt)
  !closed && !decide (now - start.recordedAt < ttlMs)

def inferredEnd (start : AuditRecord) (now : Int) (eventId : EventId) : AuditRecordInput :=
  { eventId, sid := start.sid, pid := start.pid, kind := .sessionEnd, source := .inferred
    recordedAt := now
    detail := some { reason := "reconciliation sweep: no session.end seen within TTL" } }

/-- The starts that `sweep` closes, in the order of their keys. -/
def overdueStarts (log : AuditLog) (ttlMs now : Int) : List AuditRecord :=
  (latest log).1.values.filter (overdue (latest log).2 ttlMs now)

def sweep (cfg : Config) (now : Int) (server : Server) : Server :=
  (overdueStarts server.auditLog cfg.ttlMs now).foldl
    (fun server start => server.recordGenerated cfg (inferredEnd start now)) server

end AuditReconciler

end Copresence
