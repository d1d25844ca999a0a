import Clickstream.Binary64
import Clickstream.Delivery
import Clickstream.Kind
import Clickstream.Storage.Call

/-!
# Measurements

What the tracker, its stores, the worker and the gateway count while they work. A
`Measurement` says what happened; a log is the list of them in order. Each one
adds to counters, sets a gauge or is observed by a histogram
(`Measurement.samples`), and a log is summed up by `counter`, `gauge?` and
`observations`.

Gauges and histograms keep 53 bits of a number.
-/

namespace Clickstream

/-- The name in labels. -/
def TrackingError.label : TrackingError → String
  | badRequest _ => "bad_request"
  | configuration _ => "configuration"
  | internal _ => "internal"

/-- Something that happened and is counted. -/
inductive Measurement
  /-- An event was created. -/
  | enqueued (k : Kind)
  /-- An operation ended well, with this many events accepted. -/
  | completed (count : Nat)
  /-- An operation failed. -/
  | failed (e : TrackingError)
  /-- Events were created and then dropped. -/
  | dropped (count : Nat)
  /-- A batch was accepted after so many milliseconds. -/
  | delivered (elapsed : Nat)
  /-- A batch was not accepted. -/
  | undelivered (k : FailureKind)
  /-- A call of a storage failed. -/
  | storageFailed (call : StorageCall)
  /-- This many requests wait for a response. -/
  | inFlight (count : Nat)
  deriving DecidableEq

/-- The measured quantities. -/
inductive Metric
  | enqueued
  | completed
  | batchSize
  | failed
  | dropped
  | delivered
  | undelivered
  | duration
  | storageFailures
  | inFlight
  deriving DecidableEq, Repr

/-- How a quantity is summed up. -/
inductive Metric.Form
  | counter
  | gauge
  | histogram
  deriving DecidableEq, Repr

namespace Metric

/-- The name in descriptions. -/
def Form.name : Form → String
  | .counter => "counter"
  | .gauge => "gauge"
  | .histogram => "histogram"

def name : Metric → String
  | enqueued => "salus.events.enqueued"
  | completed => "salus.flush.completed"
  | batchSize => "salus.flush.batch_size"
  | failed => "salus.flush.failed"
  | dropped => "salus.flush.dropped_events"
  | delivered => "salus.publish.succeeded"
  | undelivered => "salus.publish.failed"
  | duration => "salus.publish.duration_seconds"
  | storageFailures => "salus.storage.failures"
  | inFlight => "salus.gateway.in_flight"

def form : Metric → Form
  | batchSize | duration => .histogram
  | inFlight => .gauge
  | _ => .counter

/-- What a quantity means, for those that have a description. -/
def description? : Metric → Option String
  | enqueued => some "Events appended to the pending queue"
  | completed => some "Flushes that committed state and published"
  | batchSize => some "Events published per successful flush"
  | failed => some "Flushes that resolved to an error"
  | dropped => some "Events discarded because site state could not be loaded or committed"
  | delivered => some "Batches accepted by the transport"
  | undelivered => some "Batches rejected by the transport or the worker"
  | duration => some "Time taken by the transport per batch"
  | inFlight => some "Publish requests awaiting a worker response"
  | storageFailures => none

def all : List Metric :=
  [enqueued, completed, batchSize, failed, dropped, delivered, undelivered, duration,
    storageFailures, inFlight]

end Metric

/-- What a measurement does to one quantity: the label it goes under, if any, and
    the amount. Times are in milliseconds. -/
structure Sample where
  metric : Metric
  label : Option (String × String) := none
  amount : Nat
  deriving DecidableEq

/-- The samples of a measurement. No events dropped is nothing to count. -/
def Measurement.samples : Measurement → List Sample
  | enqueued k => [{ metric := .enqueued, label := some ("event_type", k.name), amount := 1 }]
  | completed n => [{ metric := .completed, amount := 1 }, { metric := .batchSize, amount := n }]
  | failed e => [{ metric := .failed, label := some ("error", e.label), amount := 1 }]
  | dropped n => if n = 0 then [] else [{ metric := .dropped, amount := n }]
  | delivered ms => [{ metric := .delivered, amount := 1 }, { metric := .duration, amount := ms }]
  | undelivered k => [{ metric := .undelivered, label := some ("error_type", k.name), amount := 1 }]
  | storageFailed c =>
    [{ metric := .storageFailures, label := some ("operation", c.name), amount := 1 }]
  | inFlight n => [{ metric := .inFlight, amount := n }]

/-- Measurements in the order in which they were made. -/
abbrev Log := List Measurement

namespace Log

/-- The samples of a log. -/
def samples (log : Log) : List Sample := log.flatMap Measurement.samples

/-- The sum of amounts. -/
def total (amounts : List Nat) : Nat := amounts.foldl Nat.add 0

/-- The sum of a counter over all its labels. -/
def counter (log : Log) (m : Metric) : Nat :=
  total ((log.samples.filter (·.metric = m)).map (·.amount))

/-- The labels under which a quantity was measured, each once, in the order of
    their first appearance. -/
def labels (log : Log) (m : Metric) : List (Option (String × String)) :=
  ((log.samples.filter (·.metric = m)).map (·.label)).eraseDups

/-- The quantities of a form that were measured. -/
def measured (log : Log) (form : Metric.Form) : List Metric :=
  Metric.all.filter fun m => m.form = form ∧ log.labels m ≠ []

/-- The amounts measured under a label. -/
def amounts (log : Log) (m : Metric) (label : Option (String × String)) : List Nat :=
  (log.samples.filter fun s => s.metric = m ∧ s.label = label).map (·.amount)

/-- The last value of a gauge. -/
def gauge? (log : Log) (m : Metric) : Option Nat :=
  ((log.samples.filter (·.metric = m)).map fun s => Binary64.nearest s.amount).getLast?

/-- The values that a histogram has observed. -/
def observations (log : Log) (m : Metric) : List Nat :=
  (log.samples.filter (·.metric = m)).map fun s => Binary64.nearest s.amount

end Log

end Clickstream
