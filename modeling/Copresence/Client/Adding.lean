import Copresence.Client.Outbox
import Copresence.Lib.Run

/-! Calls of `outbox.add` that run side by side, cut where they wait for
storage. Each operation of the storage is atomic. -/
namespace Copresence

open Collections

/-- Where a call of `add` waits: for its `put`, for its `getAll`, or for the
next of its deletes. -/
inductive AddStage where
  | putting
  | counting
  | pruning (excess : List OutboxEntry)
  | done
deriving DecidableEq

structure AddCall where
  entry : OutboxEntry
  stage : AddStage := .putting
deriving DecidableEq

variable [LinearOrder EventId]

/-- Entries in the order the storage keeps their ids in. -/
def OutboxStorage.inOrder (entries : List OutboxEntry) : List OutboxEntry :=
  entries.insertionSort fun first second => first.eventId ≤ second.eventId

/-- What the storage lists, whatever its fixed order is. -/
def OutboxStorage.listing (storage : OutboxStorage) : List OutboxEntry := inOrder storage.values

/-- The next operation of a call, and what it waits for after that. -/
def AddCall.resume (storage : OutboxStorage) (call : AddCall) : OutboxStorage × AddCall :=
  match call.stage with
  | .putting => (storage.set call.entry.eventId call.entry, { call with stage := .counting })
  | .counting =>
    (storage, { call with stage := .pruning (OutboxStorage.excess storage.listing) })
  | .pruning [] => (storage, { call with stage := .done })
  | .pruning (oldest :: rest) =>
    (JsMap.delete storage oldest.eventId, { call with stage := .pruning rest })
  | .done => (storage, call)

/-- A storage and the calls that work on it. -/
structure Adding where
  storage : OutboxStorage
  calls : List AddCall

namespace Adding

def start (entries : List OutboxEntry) : Adding :=
  { storage := JsMap.empty, calls := entries.map fun entry => { entry } }

/-- The call at `index` gets its turn. -/
def step (adding : Adding) (index : Nat) : Adding :=
  match adding.calls[index]? with
  | none => adding
  | some call =>
    { storage := (call.resume adding.storage).1
      calls := adding.calls.set index (call.resume adding.storage).2 }

/-- The calls take turns in the order of the schedule. -/
def run (entries : List OutboxEntry) (schedule : List Nat) : Adding :=
  Transition.run step (start entries) schedule

def Completed (adding : Adding) : Prop := ∀ call ∈ adding.calls, call.stage = .done

instance (adding : Adding) : Decidable adding.Completed := by
  rw [Completed]
  infer_instance

end Adding

end Copresence
