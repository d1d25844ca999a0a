import Clickstream.Channel
import Clickstream.Message

/-!
# Links

A link joins a gateway and a worker: one channel carries requests to the worker,
another carries responses back.
-/

namespace Clickstream

/-- The two channels between a gateway and a worker. -/
structure Link where
  requests : Channel Request := {}
  responses : Channel Response := {}
  deriving DecidableEq

namespace Link

/-- The gateway posts a request, if it still can and the worker still listens. -/
def post? (r : Request) (l : Link) : Option Link := do
  return { l with requests := ← l.requests.send? r }

/-- The worker takes the next request. -/
def take? (l : Link) : Option (Request × Link) := do
  let (r, requests) ← l.requests.receive?
  return (r, { l with requests })

/-- The worker posts a response, if it still can and the gateway still listens. -/
def answer? (r : Response) (l : Link) : Option Link := do
  return { l with responses := ← l.responses.send? r }

/-- The gateway takes the next response. -/
def collect? (l : Link) : Option (Response × Link) := do
  let (r, responses) ← l.responses.receive?
  return (r, { l with responses })

/-- The worker posts responses; what the gateway does not listen to is lost. -/
def answerAll (rs : List Response) (l : Link) : Link :=
  rs.foldl (fun l r => (l.answer? r).getD l) l

/-- The gateway posts no more requests. -/
def closeRequests (l : Link) : Link := { l with requests := l.requests.dropSender }

/-- The worker takes no more requests. -/
def dropRequests (l : Link) : Link := { l with requests := l.requests.dropReceiver }

/-- The worker posts no more responses. -/
def closeResponses (l : Link) : Link := { l with responses := l.responses.dropSender }

/-- The gateway takes no more responses. -/
def dropResponses (l : Link) : Link := { l with responses := l.responses.dropReceiver }

end Link

end Clickstream
