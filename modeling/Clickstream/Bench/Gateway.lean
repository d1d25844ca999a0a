import Clickstream.Bench.Fixture
import Clickstream.Pipeline

/-!
# A bench for gateways

A gateway is tried on its own, or with a worker. On its own, the worker's side of
the link is played by hand: requests are taken and numbered, and responses may
name a request by its number. After each move everything happens that can.

The gateway can be thrown away or shut down only while no call waits, and then
nothing can be asked of it any more.
-/

namespace Clickstream.Bench

/-- What has become of the gateway. -/
inductive Ownership
  | held
  | thrownAway
  | shutDown
  deriving DecidableEq, Repr

/-- A gateway on the bench. -/
structure GatewayBench where
  fixture : Fixture
  /-- Whether there is a worker; if not, it is played by hand. -/
  hasWorker : Bool
  pipeline : Pipeline Unit
  recorder : Recorder := {}
  gate : Gate := {}
  ownership : Ownership := .held
  /-- The requests that were taken by hand. -/
  taken : List Request := []

namespace GatewayBench

/-- What can be done on the bench. -/
inductive Move
  | publish (batch : List WireEvent)
  | configured
  | take
  /-- A response is posted, if the request that it names was taken. -/
  | send (r : Option Response)
  | dropRequests
  | closeResponses
  | dropWorker
  | abandon (call : Nat)
  | throwAway
  | shutDown
  /-- The transport answers, or breaks down. -/
  | release (call : Nat) (result : Option DeliveryResult)
  | respondOnce (result : DeliveryResult)
  | respondWith (result : DeliveryResult)

/-- Why nothing comes of a move. -/
inductive Problem
  | noGateway
  | noWorker
  | callsInFlight
  | noSuchCall
  | noSuchRequest
  /-- No request is there. -/
  | empty
  /-- No request will ever be there. -/
  | closed
  deriving DecidableEq, Repr

/-- The wording of a problem. -/
def Problem.message : Problem → String
  | noGateway => "no gateway"
  | noWorker => "no worker"
  | callsInFlight => "calls in flight"
  | noSuchCall => "no such call"
  | noSuchRequest => "no such request"
  | empty => "empty"
  | closed => "closed"

/-- What comes of a move. -/
inductive Answer
  | done
  | called (number : Nat)
  | verdict (v : Option Verdict)
  | took (number : Nat) (r : Request)
  | sent (wasHeard : Bool)
  | released (wasAwaited : Bool)

/-- The gateway. -/
def gateway (b : GatewayBench) : Gateway := b.pipeline.gateway

/-- The bench with another gateway. -/
def withGateway (g : Gateway) (b : GatewayBench) : GatewayBench :=
  { b with pipeline := { b.pipeline with gateway := g } }

/-- Everything happens that can. -/
def settle (b : GatewayBench) : GatewayBench :=
  if b.hasWorker then
    let (pipeline, recorder) :=
      Pipeline.settle b.fixture.build b.fixture.transport (b.pipeline, b.recorder)
    { b with pipeline, recorder }
  else b.withGateway b.gateway.settle

/-- A bench with a new gateway. The worker's end of the requests may be gone from
    the start, if the worker is played by hand. -/
def start (fixture : Fixture) (hasWorker isWorkerGone : Bool) (ids : Supply) (d : Destination) :
    Except GatewayError GatewayBench := do
  let b : GatewayBench := { fixture, hasWorker, pipeline := ← Pipeline.start ids d }
  if isWorkerGone && !hasWorker then return (b.withGateway b.gateway.dropRequests).settle
  else return b.settle

/-- The next request, for whoever plays the worker. -/
def take (b : GatewayBench) : Except Problem (Answer × GatewayBench) :=
  if b.hasWorker || !b.gateway.link.requests.hasReceiver then .error .noWorker
  else match b.gateway.take? with
    | some (r, g) =>
      .ok (.took b.taken.length r, { b.withGateway g with taken := b.taken ++ [r] })
    | none => .error (if b.gateway.link.requests.hasSender then .empty else .closed)

/-- A response of whoever plays the worker. -/
def send (r : Option Response) (b : GatewayBench) : Except Problem (Answer × GatewayBench) :=
  if b.hasWorker || !b.gateway.link.responses.hasSender then .error .noWorker
  else match r with
    | none => .error .noSuchRequest
    | some r =>
      match b.gateway.answer? r with
      | some g => .ok (.sent true, b.withGateway g)
      | none => .ok (.sent false, b)

/-- What is done to the gateway as a whole while it is held and no call waits. -/
def part (ownership : Ownership) (change : GatewayBench → GatewayBench) (b : GatewayBench) :
    Except Problem (Answer × GatewayBench) :=
  if b.ownership ≠ .held then .error .noGateway
  else if b.gateway.hasPendingCalls then .error .callsInFlight
  else .ok (.done, { change b with ownership })

/-- A move alone. -/
def move (m : Move) (b : GatewayBench) : Except Problem (Answer × GatewayBench) :=
  let byHand (g : Gateway) := if b.hasWorker then b else b.withGateway g
  match m with
  | .publish batch =>
    if b.ownership = .held then
      .ok (.called b.gateway.calls.length, { b with pipeline := b.pipeline.call batch })
    else .error .noGateway
  | .configured =>
    if b.ownership = .held then .ok (.verdict b.gateway.configured?, b) else .error .noGateway
  | .take => b.take
  | .send r => b.send r
  | .dropRequests => .ok (.done, byHand b.gateway.dropRequests)
  | .closeResponses => .ok (.done, byHand b.gateway.closeResponses)
  | .dropWorker => .ok (.done, byHand b.gateway.dropRequests.closeResponses)
  | .abandon n =>
    if n < b.gateway.calls.length then
      .ok (.done, b.withGateway ((b.gateway.abandon? n).getD b.gateway))
    else .error .noSuchCall
  | .throwAway =>
    b.part .thrownAway fun b =>
      if b.hasWorker then { b with pipeline := b.pipeline.discard }
      else b.withGateway b.gateway.discard
  | .shutDown => b.part .shutDown fun b => b.withGateway b.gateway.leave
  | .release n result =>
    match b.gate.release? n result b.pipeline.service with
    | some (wasAwaited, gate, s) =>
      .ok (.released wasAwaited, { b with gate, pipeline := b.pipeline.withService s })
    | none => .error .noSuchCall
  | .respondOnce r => .ok (.done, { b with recorder := b.recorder.respondOnce r })
  | .respondWith r => .ok (.done, { b with recorder := b.recorder.respondWith r })

/-- A move and all that comes of it. -/
def perform (m : Move) (b : GatewayBench) : Except Problem Answer × GatewayBench :=
  match b.move m with
  | .ok (answer, b) => (.ok answer, b.settle)
  | .error p => (.error p, b.settle)

/-- Whether the gateway is held and can be asked. -/
def isHeld (b : GatewayBench) : Bool := b.ownership = .held

/-- Whether a shutdown has come to its end, if there is one. -/
def shutdown? (b : GatewayBench) : Option Bool :=
  if b.ownership = .shutDown then some !b.gateway.isRouting else none

end GatewayBench

end Clickstream.Bench
