import Copresence.Models.DoubleGuard
import Copresence.Protocol.Messages
import Mathlib.Data.List.Sort

/-! Global counters and a bounded buffer of latency samples. Numbers measured
outside are numbers of 64 bits, counts are natural numbers. -/
namespace Copresence

open Floating

/-- A number of the language that is finite. -/
abbrev FiniteDouble := binary64.Finite

structure ClassCounts where
  lossy : Nat := 0
  lossless : Nat := 0
  control : Nat := 0
  audit : Nat := 0
deriving DecidableEq

def ClassCounts.increment (counts : ClassCounts) : MessageClass → ClassCounts
  | .lossy => { counts with lossy := counts.lossy + 1 }
  | .lossless => { counts with lossless := counts.lossless + 1 }
  | .control => { counts with control := counts.control + 1 }
  | .audit => { counts with audit := counts.audit + 1 }

/-- A reading past the end of the samples would be `undefined`. -/
structure LatencyPercentiles where
  p50 : Option FiniteDouble
  p95 : Option FiniteDouble
  p99 : Option FiniteDouble
deriving DecidableEq

def maxLatencySamples : Nat := 1000

structure MetricsCollector where
  inboundMessages : Nat := 0
  inboundBytes : Nat := 0
  outboundMessages : Nat := 0
  outboundBytes : Nat := 0
  eventsReceived : Nat := 0
  patchesEmitted : Nat := 0
  droppedByClass : ClassCounts := {}
  duplicatesSent : Nat := 0
  duplicatesRejected : Nat := 0
  outOfOrderRejected : Nat := 0
  resyncsTriggered : Nat := 0
  latencySamples : List FiniteDouble := []
  latencyWriteIndex : Nat := 0
deriving DecidableEq

structure MetricsSnapshot where
  inboundMessages : Nat
  inboundBytes : Nat
  outboundMessages : Nat
  outboundBytes : Nat
  eventsReceived : Nat
  patchesEmitted : Nat
  droppedByClass : ClassCounts
  duplicatesSent : Nat
  duplicatesRejected : Nat
  outOfOrderRejected : Nat
  resyncsTriggered : Nat
  coalescingRatio : Option Double
  latencyMs : Option LatencyPercentiles
deriving DecidableEq

/-- The number a rational literal of the source stands for. -/
def literal (x : ℚ) : ℚ := binary64.nearest x

/-- The comparator `(a, b) => a - b`: the first may stay before the second. -/
def notAfter (first second : FiniteDouble) : Bool :=
  Number.le (Number.finite first - Number.finite second) (Number.ofRat 0)

/-- The place `Math.min(length - 1, Math.floor(p * length))`, the product rounded. -/
def pickIndex (length : Nat) (p : ℚ) : Nat :=
  (min ((length : Int) - 1) ⌊binary64.nearest (literal p * length)⌋).toNat

def pick (sorted : List FiniteDouble) (p : ℚ) : Option FiniteDouble :=
  sorted[pickIndex sorted.length p]?

def percentilesOf (samples : List FiniteDouble) : Option LatencyPercentiles :=
  if samples.length = 0 then none
  else
    let sorted := samples.insertionSort fun first second => notAfter first second
    some { p50 := pick sorted (1 / 2), p95 := pick sorted (19 / 20), p99 := pick sorted (99 / 100) }

namespace MetricsCollector

def recordInbound (metrics : MetricsCollector) (type : String) (bytes : Nat) : MetricsCollector :=
  { metrics with
    inboundMessages := metrics.inboundMessages + 1
    inboundBytes := metrics.inboundBytes + bytes
    eventsReceived :=
      if type = "cursor" ∨ type = "scroll" then metrics.eventsReceived + 1
      else metrics.eventsReceived }

def recordOutbound (metrics : MetricsCollector) (bytes : Nat) : MetricsCollector :=
  { metrics with
    outboundMessages := metrics.outboundMessages + 1
    outboundBytes := metrics.outboundBytes + bytes }

def recordPatchEmitted (metrics : MetricsCollector) : MetricsCollector :=
  { metrics with patchesEmitted := metrics.patchesEmitted + 1 }

def recordDrop (metrics : MetricsCollector) (messageClass : MessageClass) : MetricsCollector :=
  { metrics with droppedByClass := metrics.droppedByClass.increment messageClass }

def recordDuplicateSent (metrics : MetricsCollector) : MetricsCollector :=
  { metrics with duplicatesSent := metrics.duplicatesSent + 1 }

def recordDuplicateRejected (metrics : MetricsCollector) : MetricsCollector :=
  { metrics with duplicatesRejected := metrics.duplicatesRejected + 1 }

def recordOutOfOrderRejected (metrics : MetricsCollector) : MetricsCollector :=
  { metrics with outOfOrderRejected := metrics.outOfOrderRejected + 1 }

def recordResync (metrics : MetricsCollector) : MetricsCollector :=
  { metrics with resyncsTriggered := metrics.resyncsTriggered + 1 }

/-- Infinite, missing and negative samples are ignored. -/
def recordLatencySample (metrics : MetricsCollector) : Double → MetricsCollector
  | .finite ms =>
    if Number.lt (.finite ms) (Number.ofRat 0) then metrics
    else if metrics.latencySamples.length < maxLatencySamples then
      { metrics with latencySamples := metrics.latencySamples ++ [ms] }
    else
      { metrics with
        latencySamples := metrics.latencySamples.set metrics.latencyWriteIndex ms
        latencyWriteIndex := (metrics.latencyWriteIndex + 1) % maxLatencySamples }
  | .infinity _ => metrics
  | .nan => metrics

def snapshot (metrics : MetricsCollector) : MetricsSnapshot where
  inboundMessages := metrics.inboundMessages
  inboundBytes := metrics.inboundBytes
  outboundMessages := metrics.outboundMessages
  outboundBytes := metrics.outboundBytes
  eventsReceived := metrics.eventsReceived
  patchesEmitted := metrics.patchesEmitted
  droppedByClass := metrics.droppedByClass
  duplicatesSent := metrics.duplicatesSent
  duplicatesRejected := metrics.duplicatesRejected
  outOfOrderRejected := metrics.outOfOrderRejected
  resyncsTriggered := metrics.resyncsTriggered
  coalescingRatio :=
    if metrics.patchesEmitted > 0 then
      some (Number.ofRat (metrics.eventsReceived / metrics.patchesEmitted))
    else none
  latencyMs := percentilesOf metrics.latencySamples

end MetricsCollector

/-- One call on a collector, all but `reset`. -/
inductive MetricsCall where
  | inbound (type : String) (bytes : Nat)
  | outbound (bytes : Nat)
  | patchEmitted
  | drop (messageClass : MessageClass)
  | duplicateSent
  | duplicateRejected
  | outOfOrderRejected
  | resync
  | latencySample (ms : Double)
deriving DecidableEq

def MetricsCollector.call (metrics : MetricsCollector) : MetricsCall → MetricsCollector
  | .inbound type bytes => metrics.recordInbound type bytes
  | .outbound bytes => metrics.recordOutbound bytes
  | .patchEmitted => metrics.recordPatchEmitted
  | .drop messageClass => metrics.recordDrop messageClass
  | .duplicateSent => metrics.recordDuplicateSent
  | .duplicateRejected => metrics.recordDuplicateRejected
  | .outOfOrderRejected => metrics.recordOutOfOrderRejected
  | .resync => metrics.recordResync
  | .latencySample ms => metrics.recordLatencySample ms

end Copresence
