import Clickstream.Link
import Clickstream.Metrics

/-!
# The gateway

Callers hand their batches to the gateway, which posts them to a worker and
brings each caller the worker's answer. It has a link to the worker and a table of
the requests that wait for an answer.

A call takes three steps on its own: it *enters* the table under a fresh id,
unless the gateway is closed; it *posts* its request; and if nobody receives
requests any more, it *withdraws* from the table and fails. The router takes
responses one at a time (*route*). A response with the id of an entry completes
that call and removes the entry; any other is reported. When no more responses
can come, the router *closes* the gateway and completes what is left in the table
as unavailable.

All these steps may interleave with one another, with callers that go away
(*abandon*), and with the worker, which takes requests, answers, and lets go of
its ends of the channels whenever it likes. `Gateway.step?` is one step,
`Gateway.run?` a whole run.
-/

namespace Clickstream

/-- What goes wrong in the background and is reported to whoever cares. -/
inductive Report
  /-- The destination was not accepted; there is no gateway. -/
  | invalidConfiguration
  /-- The worker did not accept the destination. -/
  | configurationFailed
  /-- A response answers no request that waits. -/
  | unmatchedResponse
  /-- The worker went away while requests waited. -/
  | stoppedInFlight
  deriving DecidableEq, Repr

/-- The wording of a report. -/
def Report.message : Report → String
  | invalidConfiguration => "Error constructing publisher gateway: invalid configuration"
  | configurationFailed => "Worker event publisher failed"
  | unmatchedResponse => "Event publish result had no matching request"
  | stoppedInFlight => "Worker publisher stopped with publishes in flight"

/-- How far a call has come. -/
inductive CallStage
  /-- It is in the table, and its request is not posted yet. -/
  | entered
  /-- Its request could not be posted, and it is still in the table. -/
  | refused
  /-- Its request is posted. -/
  | waiting
  /-- It returned without waiting, as unavailable. -/
  | failed
  /-- Its caller went away. -/
  | abandoned
  deriving DecidableEq, Repr

/-- A call of the gateway. -/
structure PublishCall where
  id : Id
  batch : List WireEvent
  stage : CallStage
  /-- What the router has put here for the caller. -/
  slot : Option DeliveryResult := none

/-- Why there is no gateway. -/
structure GatewayError where
  verdict : Verdict
  deriving DecidableEq

/-- The wording of an error. -/
def GatewayError.message (e : GatewayError) : String :=
  "Invalid event publisher configuration: " ++ e.verdict.name

/-- The gateway with its link to the worker and all calls ever made. -/
structure Gateway where
  link : Link := {}
  /-- The requests that wait for an answer, with the numbers of their calls. -/
  table : List (Id × Nat) := []
  /-- Whether no more answers can come. -/
  isClosed : Bool := false
  /-- What the worker said of its configuration, the last time it did. -/
  verdict : Option Verdict := none
  /-- The calls in the order in which they were made. -/
  calls : List PublishCall := []
  reports : List Report := []
  log : Log := []

/-- The answer to a caller when the worker is gone. -/
def unavailable : DeliveryError := ⟨.fetch, "Worker publisher is unavailable"⟩

namespace PublishCall

/-- What the caller has got, if it has returned. -/
def result? (c : PublishCall) : Option DeliveryResult :=
  match c.stage with
  | .waiting => c.slot
  | .failed => some (.error unavailable)
  | .entered | .refused | .abandoned => none

/-- Whether the caller neither has its result nor went away. -/
def isPending (c : PublishCall) : Bool :=
  c.result?.isNone && c.stage ≠ .abandoned

end PublishCall

namespace Gateway

/-- How many requests wait for an answer. -/
def inFlight (g : Gateway) : Nat := g.table.length

/-- The gateway after its table has changed, which is measured. -/
def withTable (table : List (Id × Nat)) (g : Gateway) : Gateway :=
  { g with table, log := g.log ++ [.inFlight table.length] }

/-- The gateway after a report. -/
def withReport (r : Report) (g : Gateway) : Gateway := { g with reports := g.reports ++ [r] }

/-- The gateway in which a call has come to a stage. -/
def withStage (n : Nat) (stage : CallStage) (g : Gateway) : Gateway :=
  { g with calls := g.calls.modify n fun c => { c with stage } }

/-- The gateway in which a call has got a result. -/
def complete (result : DeliveryResult) (g : Gateway) (n : Nat) : Gateway :=
  { g with calls := g.calls.modify n fun c => { c with slot := some result } }

/-! ## Beginning -/

/-- A gateway whose first request, under the given id, configures the worker. If
    there is no worker, the request is lost. -/
def start (id : Id) (d : Destination) (link : Link) : Gateway :=
  { link := (link.post? (.configure id d)).getD link }

/-- A gateway for a destination that is accepted. -/
def connect (id : Id) (d : Destination) (link : Link) : Except GatewayError Gateway :=
  match d.check with
  | .accepted => .ok (start id d link)
  | verdict => .error ⟨verdict⟩

/-! ## Calls -/

/-- The gateway with another call. -/
def withNewCall (c : PublishCall) (g : Gateway) : Gateway := { g with calls := g.calls ++ [c] }

/-- A call begins: it enters the table, unless the gateway is closed. -/
def enter (id : Id) (batch : List WireEvent) (g : Gateway) : Gateway :=
  if g.isClosed then g.withNewCall { id, batch, stage := .failed }
  else
    (g.withNewCall { id, batch, stage := .entered }).withTable
      (g.table ++ [(id, g.calls.length)])

/-- A call that has entered posts its request. -/
def post? (n : Nat) (g : Gateway) : Option Gateway := do
  let c ← g.calls[n]?
  guard (c.stage = .entered)
  match g.link.post? (.publish c.id c.batch) with
  | some link =>
    let g := { g with link }
    return g.withStage n .waiting
  | none => return g.withStage n .refused

/-- A call whose request could not be posted leaves the table and fails. -/
def withdraw? (n : Nat) (g : Gateway) : Option Gateway := do
  let c ← g.calls[n]?
  guard (c.stage = .refused)
  let g := g.withTable (g.table.filter (·.1 ≠ c.id))
  return g.withStage n .failed

/-- The caller of a posted request goes away before it has the result. -/
def abandon? (n : Nat) (g : Gateway) : Option Gateway := do
  let c ← g.calls[n]?
  guard (c.stage = .waiting ∧ c.slot.isNone)
  return g.withStage n .abandoned

/-! ## The router -/

/-- Whether the router is there. -/
def isRouting (g : Gateway) : Bool := g.link.responses.hasReceiver

/-- Brings an answer to the call that waits for it. -/
def resolve (id : Id) (result : DeliveryResult) (g : Gateway) : Gateway :=
  let entry := g.table.lookup id
  let g := g.withTable (g.table.filter (·.1 ≠ id))
  match entry with
  | some n => g.complete result n
  | none => g.withReport .unmatchedResponse

/-- Takes a response. -/
def deliver (r : Response) (g : Gateway) : Gateway :=
  match r with
  | .configured _ verdict =>
    let g := if verdict.isAccepted then g else g.withReport .configurationFailed
    { g with verdict := some verdict }
  | .published id a => g.resolve id (.ok a.count)
  | .failed id e => g.resolve id (.error e)

/-- The router takes the next response. -/
def route? (g : Gateway) : Option Gateway := do
  let (r, link) ← g.link.collect?
  return Gateway.deliver r { g with link }

/-- No more responses can come: the router completes what is left as unavailable,
    and goes away. -/
def close? (g : Gateway) : Option Gateway :=
  if g.isRouting ∧ g.link.responses.isFinished then
    let orphans := g.table.map (·.2)
    let g := { g with isClosed := true, link := g.link.dropResponses }
    let g := g.withTable []
    let g := if orphans.isEmpty then g else g.withReport .stoppedInFlight
    some (orphans.foldl (complete (.error unavailable)) g)
  else none

/-! ## The owner and the worker -/

/-- Whether a caller waits for its result. -/
def hasPendingCalls (g : Gateway) : Bool := g.calls.any (·.isPending)

/-- The calls that came to their end since an earlier time. -/
def endedSince (before g : Gateway) : List (Nat × PublishCall) :=
  ((List.range g.calls.length).zip g.calls).filter fun c =>
    (before.calls[c.1]?).all (·.isPending) && !c.2.isPending

/-- Whether no call is between entering and posting. -/
def isQuiet (g : Gateway) : Bool :=
  g.calls.all fun c => c.stage ≠ .entered && c.stage ≠ .refused

/-- The owner lets no more requests in. -/
def leave (g : Gateway) : Gateway := { g with link := g.link.closeRequests }

/-- The owner throws the gateway away, and the router with it. -/
def discard (g : Gateway) : Gateway := { g with link := g.link.closeRequests.dropResponses }

/-- The worker takes the next request. -/
def take? (g : Gateway) : Option (Request × Gateway) := do
  let (r, link) ← g.link.take?
  return (r, { g with link })

/-- The worker answers. -/
def answer? (r : Response) (g : Gateway) : Option Gateway := do
  return { g with link := ← g.link.answer? r }

/-- The worker takes no more requests. -/
def dropRequests (g : Gateway) : Gateway := { g with link := g.link.dropRequests }

/-- The worker posts no more responses. -/
def closeResponses (g : Gateway) : Gateway := { g with link := g.link.closeResponses }

/-- What the worker has said of its configuration. When nothing can be said any
    more, that counts as invalid; until then there may be nothing. -/
def configured? (g : Gateway) : Option Verdict :=
  match g.verdict with
  | some v => some v
  | none => if g.isRouting then none else some .invalid

/-! ## Runs -/

/-- A step of whoever takes part. -/
inductive Step
  | enter (id : Id) (batch : List WireEvent)
  | post (call : Nat)
  | withdraw (call : Nat)
  | abandon (call : Nat)
  | route
  | close
  | take
  | answer (r : Response)
  | dropRequests
  | closeResponses
  | leave
  deriving DecidableEq

/-- Whether the step is taken on the gateway's side of the link. -/
def Step.isOwn : Step → Bool
  | .take | .answer _ | .dropRequests | .closeResponses => false
  | _ => true

/-- One step, if it is possible. Calls are made and posted as long as the owner is
    there. -/
def step? (g : Gateway) : Step → Option Gateway
  | .enter id batch => if g.link.requests.hasSender then some (g.enter id batch) else none
  | .post n => g.post? n
  | .withdraw n => g.withdraw? n
  | .abandon n => g.abandon? n
  | .route => g.route?
  | .close => g.close?
  | .take => g.take?.map (·.2)
  | .answer r => g.answer? r
  | .dropRequests => some g.dropRequests
  | .closeResponses => some g.closeResponses
  | .leave => if g.isQuiet then some g.leave else none

/-- A run of steps, all of which are possible. -/
def run? (g : Gateway) (steps : List Step) : Option Gateway := steps.foldlM step? g

/-- A whole call without anything in between: it enters, posts, and withdraws if
    it has to. -/
def publish (id : Id) (batch : List WireEvent) (g : Gateway) : Gateway :=
  let n := g.calls.length
  let g := g.enter id batch
  let g := (g.post? n).getD g
  (g.withdraw? n).getD g

/-- Routes every response that is there, and closes if no more can come. -/
def settle (g : Gateway) : Gateway :=
  let g := g.link.responses.queue.foldl (fun g _ => g.route?.getD g) g
  g.close?.getD g

end Gateway

end Clickstream
