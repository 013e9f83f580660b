import Copresence.Lib.JsMap
import Copresence.Protocol.Messages
import Mathlib.Data.List.Sort

/-! The outbox: audit events stored on the page until they are confirmed,
expired or pruned. -/
namespace Copresence

open Collections

/-- A permanently failing endpoint must not fill the storage quota. -/
def outboxMaxEntries : Nat := 200

/-- Past this age an entry is given up on. -/
def outboxTtlMs : Int := 24 * 60 * 60 * 1000

/-- One stored event. The payload is the encoded message itself, ready to be
sent, and carries the id it is stored under. -/
structure OutboxEntry where
  eventId : EventId
  payload : AuditMessage
  createdAt : Int
  named : payload.eventId = eventId
deriving DecidableEq

abbrev OutboxStorage := JsMap EventId OutboxEntry

namespace OutboxStorage

/-- The store lists its entries by key. -/
def getAll (storage : OutboxStorage) : List OutboxEntry :=
  storage.values.insertionSort fun first second => first.eventId.value ≤ second.eventId.value

/-- Oldest first; entries of one moment stay in the order of the listing. -/
def byCreation (entries : List OutboxEntry) : List OutboxEntry :=
  entries.insertionSort fun first second => first.createdAt ≤ second.createdAt

/-- What `prune` deletes, given what it read. -/
def excess (all : List OutboxEntry) : List OutboxEntry :=
  if all.length ≤ outboxMaxEntries then []
  else (byCreation all).take (all.length - outboxMaxEntries)

/-- Whether `flushPending` drops this entry unsent. -/
def Expired (now : Int) (entry : OutboxEntry) : Prop := now - entry.createdAt > outboxTtlMs

instance (now : Int) (entry : OutboxEntry) : Decidable (Expired now entry) :=
  inferInstanceAs (Decidable (_ > _))

end OutboxStorage

end Copresence
