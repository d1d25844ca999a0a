import Clickstream.Message
import Clickstream.Metrics

/-!
# The worker

The worker delivers batches in the background. It has no transport until a
request to configure it brings a destination for which one can be built; after
that it keeps the transport, and further destinations are turned down. Every
request is answered by exactly one response: at once, or when the transport has
answered (`Worker.finish`). Batches may be on their way at the same time, and may
be answered in any order.

A transport is of any type `τ`; the worker only decides when it is used.
-/

namespace Clickstream

/-- A batch that the transport was given and has not answered. -/
structure Delivery where
  /-- How many batches the transport was given before. -/
  number : Nat
  /-- The request that asked for it. -/
  id : Id
  batch : List WireEvent
  deriving DecidableEq

/-- The background worker. -/
structure Worker (τ : Type) where
  transport : Option τ := none
  /-- The deliveries on their way. -/
  running : List Delivery := []
  /-- The batches that the transport was given, the first one first. -/
  given : List (List WireEvent) := []

namespace Worker

variable {τ : Type}

/-- The answer to a batch that comes before there is a transport. -/
def notConfigured : DeliveryError :=
  ⟨.configuration, "Publish event request received prior to configuration"⟩

/-- The answer to a batch with nothing in it. -/
def emptyBatch : DeliveryError := ⟨.badRequest, "Request to publish empty set of events"⟩

/-- Measures how a delivery ended, which took so many milliseconds. -/
def measured (result : DeliveryResult) (elapsed : Nat) : Measurement :=
  match result with
  | .ok _ => .delivered elapsed
  | .error e => .undelivered e.kind

/-- Takes a destination, if there is no transport yet and one can be built. -/
def configure (build : Destination → Except Verdict τ) (d : Destination) (w : Worker τ) :
    Verdict × Worker τ :=
  match w.transport with
  | some _ => (.invalid, w)
  | none =>
    match build d with
    | .ok t => (.accepted, { w with transport := some t })
    | .error v => (v, w)

/-- Gives a batch to the transport, or says why not. -/
def publish (id : Id) (batch : List WireEvent) (w : Worker τ) :
    Except DeliveryError (Worker τ) :=
  if w.transport.isNone then .error notConfigured
  else if batch.isEmpty then .error emptyBatch
  else .ok { w with
    running := w.running ++ [⟨w.given.length, id, batch⟩]
    given := w.given ++ [batch] }

/-- Takes a request: the response, if there is one at once, what was measured, and
    the worker after it. -/
def handle (build : Destination → Except Verdict τ) (request : Request) (w : Worker τ) :
    List Response × Log × Worker τ :=
  match request with
  | .configure id d =>
    let (verdict, w) := w.configure build d
    ([.configured id verdict], [], w)
  | .publish id batch =>
    match w.publish id batch with
    | .ok w => ([], [], w)
    | .error e => ([.ofResult id (.error e)], [.undelivered e.kind], w)

/-- The delivery with a number, if it is on its way. -/
def delivery? (n : Nat) (w : Worker τ) : Option Delivery := w.running.find? (·.number = n)

/-- The worker without the delivery with a number. -/
def without (n : Nat) (w : Worker τ) : Worker τ :=
  { w with running := w.running.filter (·.number ≠ n) }

/-- Takes the transport's answer to a delivery. -/
def finish (n : Nat) (result : DeliveryResult) (elapsed : Nat) (w : Worker τ) :
    Option (Response × Log × Worker τ) := do
  let d ← w.delivery? n
  return (.ofResult d.id result, [measured result elapsed], w.without n)

/-- Loses a delivery whose transport broke down: it is never answered. -/
def lose (n : Nat) (w : Worker τ) : Option (Worker τ) := do
  let _ ← w.delivery? n
  return w.without n

end Worker

end Clickstream
