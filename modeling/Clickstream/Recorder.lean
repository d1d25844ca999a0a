import Clickstream.Delivery
import Clickstream.Event
import Clickstream.Worker.Service

/-!
# A transport that records

A transport that keeps the batches it is given and delivers them nowhere. What it
answers is scripted: first a list of results, each of them used once, then a
result that is used ever after. Without a script every batch is accepted whole.
-/

namespace Clickstream

/-- A transport that keeps the batches it is given. -/
structure Recorder where
  batches : List (List WireEvent) := []
  /-- The next results, each for one batch. -/
  scripted : List DeliveryResult := []
  /-- The result when those are used up. -/
  fallback : Option DeliveryResult := none

namespace Recorder

/-- Takes a batch. -/
def deliver (batch : List WireEvent) (r : Recorder) : DeliveryResult × Recorder :=
  let r := { r with batches := r.batches ++ [batch] }
  match r.scripted with
  | result :: rest => (result, { r with scripted := rest })
  | [] => (r.fallback.getD (.ok batch.length), r)

/-- The recorder as a transport of a worker: it answers at once. -/
def transport : Transport Unit Recorder := fun _ batch r =>
  let (result, r) := r.deliver batch
  (some result, r)

/-- A transport that keeps the batches and waits to be told what to answer. -/
def gated : Transport Unit Recorder := fun _ batch r =>
  (none, { r with batches := r.batches ++ [batch] })

/-- Scripts the result of one batch. -/
def respondOnce (result : DeliveryResult) (r : Recorder) : Recorder :=
  { r with scripted := r.scripted ++ [result] }

/-- Scripts the result of every batch that has none of its own. -/
def respondWith (result : DeliveryResult) (r : Recorder) : Recorder :=
  { r with fallback := some result }

end Recorder

end Clickstream
