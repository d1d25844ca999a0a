import Clickstream.Bench.Fixture

/-!
# A bench for workers

A worker is tried on its own: the gateway's side of the link is played by hand.
The worker is either at work, and takes what is posted, or held still, and handed
one request after the other. After each move everything happens that can.
-/

namespace Clickstream.Bench

/-- A worker on the bench. -/
structure WorkerBench where
  fixture : Fixture
  /-- Whether the worker is at work. -/
  isAtWork : Bool
  service : Service Unit := {}
  recorder : Recorder := {}
  gate : Gate := {}

namespace WorkerBench

/-- What can be done on the bench. -/
inductive Move
  | request (r : Request)
  | closeRequests
  | closeResponses
  /-- The transport answers, or breaks down. -/
  | release (call : Nat) (result : Option DeliveryResult)
  | respondOnce (result : DeliveryResult)
  | respondWith (result : DeliveryResult)

/-- What comes of it. -/
inductive Answer
  | done
  | posted (wasHeard : Bool)
  | released (wasAwaited : Bool)
  | noSuchCall

/-- The bench with another link. -/
def withLink (l : Link) (b : WorkerBench) : WorkerBench :=
  { b with service := { b.service with link := l } }

/-- Everything happens that can, if the worker is at work. -/
def settle (b : WorkerBench) : WorkerBench :=
  if b.isAtWork then
    let (service, recorder) :=
      Service.settle b.fixture.build b.fixture.transport (b.service, b.recorder)
    { b with service, recorder }
  else b

/-- A request is posted to a worker at work, or handed to one that is held still. -/
def request (r : Request) (b : WorkerBench) : Answer × WorkerBench :=
  if b.isAtWork then
    match b.service.link.post? r with
    | some l => (.posted true, b.withLink l)
    | none => (.posted false, b)
  else
    let (service, recorder) :=
      Service.handleNow b.fixture.build b.fixture.transport r (b.service, b.recorder)
    (.done, { b with service, recorder })

/-- A move alone. -/
def move (m : Move) (b : WorkerBench) : Answer × WorkerBench :=
  match m with
  | .request r => b.request r
  | .closeRequests =>
    (.done, if b.isAtWork then b.withLink b.service.link.closeRequests else b)
  | .closeResponses => (.done, b.withLink b.service.link.dropResponses)
  | .release n result =>
    match b.gate.release? n result b.service with
    | some (wasAwaited, gate, service) => (.released wasAwaited, { b with gate, service })
    | none => (.noSuchCall, b)
  | .respondOnce r => (.done, { b with recorder := b.recorder.respondOnce r })
  | .respondWith r => (.done, { b with recorder := b.recorder.respondWith r })

/-- The responses that have arrived, and the bench without them. -/
def collect (b : WorkerBench) : List Response × WorkerBench :=
  let responses := b.service.link.responses
  (responses.queue,
    b.withLink { b.service.link with responses := { responses with queue := [] } })

/-- A move and all that comes of it. -/
def perform (m : Move) (b : WorkerBench) : Answer × List Response × WorkerBench :=
  let (answer, b) := b.move m
  let (responses, b) := b.settle.collect
  (answer, responses, b)

end WorkerBench

end Clickstream.Bench
