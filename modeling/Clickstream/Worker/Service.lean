import Clickstream.Link
import Clickstream.Worker

/-!
# A worker at work

A worker serves a link: it takes the requests one by one, and posts each response
as soon as it has it. When no more requests can come it waits for the deliveries
on their way, and then lets go of the link.

Everything that happens is a step: a request is served, a delivery is answered or
lost, the worker stops. `Service.settle` takes all the steps that are possible
with a transport that answers at once; where the transport does not answer yet
the delivery stays on its way.
-/

namespace Clickstream

/-- A worker that serves a link. -/
structure Service (τ : Type) where
  worker : Worker τ := {}
  link : Link := {}
  /-- Whether the worker is still there. -/
  isServing : Bool := true
  log : Log := []

/-- What a transport does with a batch, in a world of its own: it answers, or not
    yet. -/
abbrev Transport (τ π : Type) := τ → List WireEvent → π → Option DeliveryResult × π

namespace Service

variable {τ π : Type}

/-- Handles a request and posts the response to it, if there is one at once. -/
def handle (build : Destination → Except Verdict τ) (request : Request) (s : Service τ) :
    Service τ :=
  let (responses, log, worker) := s.worker.handle build request
  { s with worker, link := s.link.answerAll responses, log := s.log ++ log }

/-- Takes the next request and handles it. -/
def serve? (build : Destination → Except Verdict τ) (s : Service τ) : Option (Service τ) := do
  guard s.isServing
  let (request, link) ← s.link.take?
  return Service.handle build request { s with link }

/-- Takes the transport's answer to a delivery and posts the response. -/
def finish? (n : Nat) (result : DeliveryResult) (elapsed : Nat) (s : Service τ) :
    Option (Service τ) := do
  let (response, log, worker) ← s.worker.finish n result elapsed
  return { s with worker, link := s.link.answerAll [response], log := s.log ++ log }

/-- Loses a delivery whose transport broke down. -/
def lose? (n : Nat) (s : Service τ) : Option (Service τ) := do
  return { s with worker := ← s.worker.lose n }

/-- Stops when no more requests can come and no delivery is on its way. -/
def stop? (s : Service τ) : Option (Service τ) :=
  if s.isServing ∧ s.link.requests.isFinished ∧ s.worker.running.isEmpty then
    some { s with isServing := false, link := s.link.dropRequests.closeResponses }
  else none

/-- The worker is stopped from outside: deliveries on their way are given up. -/
def cancel (s : Service τ) : Service τ :=
  { s with
    worker := { s.worker with running := [] }
    isServing := false
    link := s.link.dropRequests.closeResponses }

/-- A step of the worker or its transport. -/
inductive Step
  | serve
  | finish (number : Nat) (result : DeliveryResult) (elapsed : Nat)
  | lose (number : Nat)
  | stop

/-- One step, if it is possible. -/
def step? (build : Destination → Except Verdict τ) (s : Service τ) : Step → Option (Service τ)
  | .serve => s.serve? build
  | .finish n result elapsed => s.finish? n result elapsed
  | .lose n => s.lose? n
  | .stop => s.stop?

/-- Serves every request that is there. -/
def serveAll (build : Destination → Except Verdict τ) (s : Service τ) : Service τ :=
  s.link.requests.queue.foldl (fun s _ => (s.serve? build).getD s) s

/-- Asks the transport about a delivery, which takes no time. -/
def ask (transport : Transport τ π) (s : Service τ × π) (d : Delivery) : Service τ × π :=
  match s.1.worker.transport with
  | none => s
  | some t =>
    match transport t d.batch s.2 with
    | (some r, p) => ((s.1.finish? d.number r 0).getD s.1, p)
    | (none, p) => (s.1, p)

/-- Asks the transport about the deliveries from a number on, in their order. -/
def askFrom (transport : Transport τ π) (first : Nat) (s : Service τ × π) : Service τ × π :=
  (s.1.worker.running.filter (first ≤ ·.number)).foldl (ask transport) s

/-- Handles one request, and asks the transport about the delivery it starts. -/
def handleNow (build : Destination → Except Verdict τ) (transport : Transport τ π)
    (request : Request) (s : Service τ × π) : Service τ × π :=
  askFrom transport s.1.worker.given.length (s.1.handle build request, s.2)

/-- Takes every step that is possible. -/
def settle (build : Destination → Except Verdict τ) (transport : Transport τ π)
    (s : Service τ × π) : Service τ × π :=
  let (t, p) := askFrom transport s.1.worker.given.length (s.1.serveAll build, s.2)
  (t.stop?.getD t, p)

end Service

end Clickstream
