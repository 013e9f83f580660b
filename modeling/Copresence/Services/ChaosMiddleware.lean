import Copresence.Lib.JsMap
import Copresence.Lib.JsNumber
import Copresence.Protocol.Messages
import Mathlib.Algebra.Order.Floor.Defs
import Mathlib.Data.Rat.Floor

/-! The middleware between the hub and the sockets: it drops, repeats, delays
and reorders what it is handed. -/
namespace Copresence

open Collections

structure ChaosConfig where
  dropRate : ℚ
  duplicateRate : ℚ
  latencyMs : ℚ
  jitterMs : ℚ
  reorderWindow : Nat
deriving DecidableEq, Repr

def defaultChaosConfig : ChaosConfig :=
  { dropRate := 0, duplicateRate := 0, latencyMs := 0, jitterMs := 0, reorderWindow := 0 }

def maxDropRate : ℚ := 1 / 2

def maxDuplicateRate : ℚ := 1 / 5

def maxLatencyMs : ℚ := 2000

def maxJitterMs : ℚ := 500

def maxReorderWindow : ℚ := 10

def maxPartitionMs : ℚ := 30000

/-- At the latest this long after it was buffered a message is released. -/
def reorderMaxHoldMs : ℚ := 200

def clamp (value : JsNumber) (lower upper : ℚ) : ℚ :=
  match value with
  | .finite value => min upper (max lower value)
  | _ => lower

/-- What a request to the panel may set; a field left out keeps its value. -/
structure PartialChaosConfig where
  dropRate : Option JsNumber := none
  duplicateRate : Option JsNumber := none
  latencyMs : Option JsNumber := none
  jitterMs : Option JsNumber := none
  reorderWindow : Option JsNumber := none
deriving DecidableEq, Repr

/-- `rawSend` is the call of `send` whose closure this is. -/
structure QueuedSend where
  message : OutboundMessage
  rawSend : Nat
deriving DecidableEq

/-- What is handed to `setTimeoutFn`: the fallback release of a buffered message,
or a delivery that latency put off. -/
inductive ChaosCallback where
  | releaseIfStillBuffered (pid : ParticipantId) (entry : QueuedSend)
  | deliver (pid : ParticipantId) (queued : QueuedSend)
deriving DecidableEq

structure ChaosTimer where
  dueAt : ℚ
  callback : ChaosCallback
deriving DecidableEq

/-- The calls out of the middleware. -/
inductive ChaosReport where
  | rawSend (queued : QueuedSend)
  | onDeliver (pid : ParticipantId) (queued : QueuedSend) (deliveredAt : ℚ)
  | onDrop (pid : ParticipantId) (queued : QueuedSend)
  | onDuplicate (pid : ParticipantId) (queued : QueuedSend)
deriving DecidableEq

/-- `random` gives the draws in order, and `rounded` is how the language rounds
the result of an operation. -/
structure ChaosMiddlewareDeps where
  random : Nat → ℚ
  rounded : ℚ → ℚ

/-- `drawn` counts the draws and `sent` the calls of `send`; `timers` are those
that have not fired and `reports` every call out so far. -/
structure ChaosMiddleware where
  config : ChaosConfig := defaultChaosConfig
  partitionEndsAt : Option ℚ := none
  reorderBuffers : JsMap ParticipantId (List QueuedSend) := JsMap.empty
  drawn : Nat := 0
  sent : Nat := 0
  timers : List ChaosTimer := []
  reports : List ChaosReport := []

namespace ChaosMiddleware

variable (deps : ChaosMiddlewareDeps) (now : ℚ)

def configure (changes : PartialChaosConfig) (chaos : ChaosMiddleware) : ChaosMiddleware :=
  let config := chaos.config
  let reorderWindow :=
    clamp (changes.reorderWindow.getD (.finite config.reorderWindow)) 0 maxReorderWindow
  { chaos with
    config :=
      { dropRate := clamp (changes.dropRate.getD (.finite config.dropRate)) 0 maxDropRate
        duplicateRate :=
          clamp (changes.duplicateRate.getD (.finite config.duplicateRate)) 0 maxDuplicateRate
        latencyMs := clamp (changes.latencyMs.getD (.finite config.latencyMs)) 0 maxLatencyMs
        jitterMs := clamp (changes.jitterMs.getD (.finite config.jitterMs)) 0 maxJitterMs
        -- `Math.round` takes a half up
        reorderWindow := ⌊reorderWindow + 1 / 2⌋.toNat } }

def startPartition (durationMs : JsNumber) (chaos : ChaosMiddleware) : ChaosMiddleware :=
  { chaos with partitionEndsAt := some (deps.rounded (now + clamp durationMs 0 maxPartitionMs)) }

def isPartitioned (chaos : ChaosMiddleware) : Bool :=
  match chaos.partitionEndsAt with
  | none => false
  | some endsAt => now < endsAt

def report (call : ChaosReport) (chaos : ChaosMiddleware) : ChaosMiddleware :=
  { chaos with reports := chaos.reports ++ [call] }

def setTimeout (callback : ChaosCallback) (ms : ℚ) (chaos : ChaosMiddleware) : ChaosMiddleware :=
  { chaos with timers := chaos.timers ++ [{ dueAt := now + ms, callback }] }

def random (chaos : ChaosMiddleware) : ℚ × ChaosMiddleware :=
  (deps.random chaos.drawn, { chaos with drawn := chaos.drawn + 1 })

/-- The write to the socket and the callback after it. -/
def write (pid : ParticipantId) (queued : QueuedSend) (chaos : ChaosMiddleware) :
    ChaosMiddleware :=
  (chaos.report (.rawSend queued)).report (.onDeliver pid queued now)

def deliver (pid : ParticipantId) (queued : QueuedSend) (chaos : ChaosMiddleware) :
    ChaosMiddleware :=
  let (jitter, chaos) :=
    if 0 < chaos.config.jitterMs then
      let (drawn, chaos) := chaos.random deps
      (deps.rounded (deps.rounded (deps.rounded (drawn * 2) - 1) * chaos.config.jitterMs), chaos)
    else (0, chaos)
  let delay := max 0 (deps.rounded (chaos.config.latencyMs + jitter))
  if delay ≤ 0 then chaos.write now pid queued
  else chaos.setTimeout now (.deliver pid queued) delay

def dispatch (pid : ParticipantId) (queued : QueuedSend) (chaos : ChaosMiddleware) :
    ChaosMiddleware :=
  let (drawn, chaos) := chaos.random deps
  if drawn < chaos.config.dropRate then chaos.report (.onDrop pid queued)
  else
    let chaos := chaos.deliver deps now pid queued
    let (drawn, chaos) := chaos.random deps
    if drawn < chaos.config.duplicateRate then
      (chaos.report (.onDuplicate pid queued)).deliver deps now pid queued
    else chaos

/-- Where `splice` starts: a negative index counts from the end. -/
def spliceStart (index : Int) (length : Nat) : Nat :=
  if index < 0 then (length + index).toNat else index.toNat

/-- The buffer is the one stored for `pid`. -/
def releaseRandomFrom (pid : ParticipantId) (buffer : List QueuedSend) (chaos : ChaosMiddleware) :
    ChaosMiddleware :=
  let (drawn, chaos) := chaos.random deps
  let index := spliceStart ⌊deps.rounded (drawn * buffer.length)⌋ buffer.length
  match buffer[index]? with
  | none => chaos
  | some picked =>
    { chaos with reorderBuffers := chaos.reorderBuffers.set pid (buffer.eraseIdx index) }.dispatch
      deps now pid picked

def send (pid : ParticipantId) (message : OutboundMessage) (chaos : ChaosMiddleware) :
    ChaosMiddleware :=
  let queued : QueuedSend := { message, rawSend := chaos.sent }
  let chaos := { chaos with sent := chaos.sent + 1 }
  if chaos.isPartitioned now then chaos.report (.onDrop pid queued)
  else if chaos.config.reorderWindow ≤ 0 then chaos.dispatch deps now pid queued
  else
    let buffer := (chaos.reorderBuffers.get? pid).getD [] ++ [queued]
    let chaos := { chaos with reorderBuffers := chaos.reorderBuffers.set pid buffer }
    let chaos :=
      if chaos.config.reorderWindow < buffer.length then
        chaos.releaseRandomFrom deps now pid buffer
      else chaos
    chaos.setTimeout now (.releaseIfStillBuffered pid queued) reorderMaxHoldMs

def releaseIfStillBuffered (pid : ParticipantId) (entry : QueuedSend) (chaos : ChaosMiddleware) :
    ChaosMiddleware :=
  match chaos.reorderBuffers.get? pid with
  | none => chaos
  | some buffer =>
    match buffer.idxOf? entry with
    | none => chaos
    | some index =>
      { chaos with reorderBuffers := chaos.reorderBuffers.set pid (buffer.eraseIdx index) }.dispatch
        deps now pid entry

def flushTarget (chaos : ChaosMiddleware) (target : ParticipantId) : ChaosMiddleware :=
  match chaos.reorderBuffers.get? target with
  | none => chaos
  | some buffer =>
    buffer.foldl (fun chaos queued => chaos.dispatch deps now target queued)
      { chaos with reorderBuffers := chaos.reorderBuffers.delete target }

def flush (pid : Option ParticipantId) (chaos : ChaosMiddleware) : ChaosMiddleware :=
  let targets :=
    match pid with
    | some pid => [pid]
    | none => chaos.reorderBuffers.keys
  targets.foldl (flushTarget deps now) chaos

def call (callback : ChaosCallback) (chaos : ChaosMiddleware) : ChaosMiddleware :=
  match callback with
  | .releaseIfStillBuffered pid entry => chaos.releaseIfStillBuffered deps now pid entry
  | .deliver pid queued => chaos.write now pid queued

/-- One of the pending timers fires. -/
def fire (index : Nat) (chaos : ChaosMiddleware) : ChaosMiddleware :=
  match chaos.timers[index]? with
  | none => chaos
  | some timer =>
    { chaos with timers := chaos.timers.eraseIdx index }.call deps now timer.callback

end ChaosMiddleware

inductive ChaosEvent where
  | send (pid : ParticipantId) (message : OutboundMessage)
  | configure (changes : PartialChaosConfig)
  | startPartition (durationMs : JsNumber)
  | flush (pid : Option ParticipantId)
  | timer (index : Nat)
deriving DecidableEq

/-- An event and the clock when it happens. -/
structure TimedChaosEvent where
  now : ℚ
  event : ChaosEvent
deriving DecidableEq

namespace ChaosMiddleware

def step (deps : ChaosMiddlewareDeps) (chaos : ChaosMiddleware) (timed : TimedChaosEvent) :
    ChaosMiddleware :=
  match timed.event with
  | .send pid message => chaos.send deps timed.now pid message
  | .configure changes => chaos.configure changes
  | .startPartition durationMs => chaos.startPartition deps timed.now durationMs
  | .flush pid => chaos.flush deps timed.now pid
  | .timer index => chaos.fire deps timed.now index

end ChaosMiddleware

end Copresence
