import Clickstream.Gateway
import Clickstream.Supply
import Clickstream.Worker.Service

/-!
# The pipeline

A gateway and a worker on the two sides of one link. The gateway asks the worker
to configure itself before any call can be made, so every batch comes after that
request. A step is one of the gateway's side or one of the worker's side; the
link carries what one side posts to the other.

`Pipeline.publish` is what a caller sees who waits for its result while
everything that can happen in the background does.
-/

namespace Clickstream

/-- A gateway and a worker on one link. -/
structure Pipeline (τ : Type) where
  gateway : Gateway
  /-- The ids for requests. -/
  ids : Supply
  worker : Worker τ := {}
  /-- Whether the worker is still there. -/
  isServing : Bool := true
  /-- What the worker measured. -/
  log : Log := []

namespace Pipeline

variable {τ π : Type}

/-- The worker's side. -/
def service (p : Pipeline τ) : Service τ :=
  { worker := p.worker, link := p.gateway.link, isServing := p.isServing, log := p.log }

/-- The pipeline with another worker's side. -/
def withService (s : Service τ) (p : Pipeline τ) : Pipeline τ :=
  { p with
    gateway := { p.gateway with link := s.link }
    worker := s.worker
    isServing := s.isServing
    log := s.log }

/-- A pipeline for a destination that is accepted. The first id is for the request
    to configure the worker. -/
def start (ids : Supply) (d : Destination) : Except GatewayError (Pipeline τ) := do
  let (id, ids) := ids.take
  return { gateway := ← Gateway.connect id.id d {}, ids }

/-- A step on one of the two sides. -/
inductive Step
  | gateway (s : Gateway.Step)
  | worker (s : Service.Step)

/-- One step, if it is possible. What the worker does is only done by the worker. -/
def step? (build : Destination → Except Verdict τ) (p : Pipeline τ) : Step → Option (Pipeline τ)
  | .gateway s => if s.isOwn then (p.gateway.step? s).map fun g => { p with gateway := g } else none
  | .worker s => (p.service.step? build s).map p.withService

/-- A run of steps, all of which are possible. -/
def run? (build : Destination → Except Verdict τ) (p : Pipeline τ) (steps : List Step) :
    Option (Pipeline τ) :=
  steps.foldlM (step? build) p

/-- Takes every step that is possible on either side, with a transport that
    answers at once or not yet. -/
def settle (build : Destination → Except Verdict τ) (transport : Transport τ π)
    (s : Pipeline τ × π) : Pipeline τ × π :=
  let (service, x) := Service.settle build transport (s.1.service, s.2)
  let p := s.1.withService service
  ({ p with gateway := p.gateway.settle }, x)

/-- The owner throws the pipeline away: router and worker are stopped. -/
def discard (p : Pipeline τ) : Pipeline τ :=
  let p := p.withService p.service.cancel
  { p with gateway := p.gateway.discard }

/-- The owner shuts the pipeline down and waits until everything has come to its
    end. -/
def shutDown (build : Destination → Except Verdict τ) (transport : Transport τ π)
    (s : Pipeline τ × π) : Pipeline τ × π :=
  settle build transport ({ s.1 with gateway := s.1.gateway.leave }, s.2)

/-- A call is made: it takes an id, enters and posts. -/
def call (batch : List WireEvent) (p : Pipeline τ) : Pipeline τ :=
  let (id, ids) := p.ids.take
  { p with gateway := p.gateway.publish id.id batch, ids }

/-- A whole call by a caller that waits for its result. A result
    that never comes is unavailable. -/
def publish (build : Destination → Except Verdict τ) (transport : Transport τ π)
    (batch : List WireEvent) (s : Pipeline τ × π) : DeliveryResult × Pipeline τ × π :=
  let n := s.1.gateway.calls.length
  let (p, x) := settle build transport (s.1.call batch, s.2)
  (((p.gateway.calls[n]?).bind PublishCall.result?).getD (.error unavailable), p, x)

/-- Everything that was measured on either side. -/
def wholeLog (p : Pipeline τ) : Log := p.gateway.log ++ p.log

end Pipeline

end Clickstream
