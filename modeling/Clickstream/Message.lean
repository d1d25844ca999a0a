import Clickstream.Delivery
import Clickstream.Destination
import Clickstream.Wire

/-!
# Messages between gateway and worker

The gateway asks the worker to configure itself or to publish a batch; the worker
answers each request with a response that carries the request's id. Nothing else
ties an answer to its question, so answers may come in any order.

In JSON a message is a tagged record. Since a reader has to find the tag first,
everything in a message is kept for a second look.
-/

namespace Clickstream

/-- What the gateway asks the worker for. -/
inductive Request
  | configure (id : Id) (destination : Destination)
  | publish (id : Id) (batch : List WireEvent)
  deriving DecidableEq

/-- What the worker answers. -/
inductive Response
  | configured (id : Id) (verdict : Verdict)
  | published (id : Id) (accepted : Accepted)
  | failed (id : Id) (error : DeliveryError)
  deriving DecidableEq

/-- The id of a request. -/
def Request.id : Request → Id
  | configure id _ => id
  | publish id _ => id

namespace Response

/-- The id of the request that is answered. -/
def id : Response → Id
  | configured id _ => id
  | published id _ => id
  | failed id _ => id

/-- The answer to a request to publish. -/
def ofResult (id : Id) : DeliveryResult → Response
  | .ok count => published id ⟨count⟩
  | .error e => failed id e

/-- What an answer to a request to publish says. -/
def result? : Response → Option DeliveryResult
  | configured _ _ => none
  | published _ a => some (.ok a.count)
  | failed _ e => some (.error e)

@[simp] theorem id_ofResult (id : Id) (r : DeliveryResult) : (ofResult id r).id = id := by
  cases r <;> rfl

@[simp] theorem result?_ofResult (id : Id) (r : DeliveryResult) :
    (ofResult id r).result? = some r := by
  cases r <;> rfl

end Response

instance : Codec Request where
  toJson
    | .configure id d =>
      .withTag "ConfigureRequest" [("id", Codec.toJson id), ("config", Codec.toJson d)]
    | .publish id batch =>
      .withTag "PublishRequest" [("id", Codec.toJson id), ("events", Codec.toJson batch)]
  ofJson? v := do
    let (tag, body) ← v.tagged?
    match tag with
    | "ConfigureRequest" =>
      let fields ← body.knownFields? ["id", "config"]
      return .configure (← Json.required? Codec.ofJson? fields "id")
        (← Json.required? Codec.ofJson? fields "config")
    | "PublishRequest" =>
      let fields ← body.knownFields? ["id", "events"]
      return .publish (← Json.required? Codec.ofJson? fields "id")
        (← Json.required? Codec.ofJson? fields "events")
    | _ => none

instance : Codec Response where
  toJson
    | .configured id v =>
      .withTag "ConfigureResult" [("id", Codec.toJson id), ("configurationState", Codec.toJson v)]
    | .published id a =>
      .withTag "PublishResult" [("id", Codec.toJson id), ("result", Codec.toJson a)]
    | .failed id e =>
      .withTag "PublishError" [("id", Codec.toJson id), ("errorType", Codec.toJson e.kind),
        ("errorMessage", .text e.detail)]
  ofJson? v := do
    let (tag, body) ← v.tagged?
    match tag with
    | "ConfigureResult" =>
      let fields ← body.knownFields? ["id", "configurationState"]
      return .configured (← Json.required? Codec.ofJson? fields "id")
        (← Json.required? (fun w => w.name? true >>= Verdict.ofName?) fields "configurationState")
    | "PublishResult" =>
      let fields ← body.knownFields? ["id", "result"]
      return .published (← Json.required? Codec.ofJson? fields "id")
        (← Json.required? Codec.ofJson? fields "result")
    | "PublishError" =>
      let fields ← body.knownFields? ["id", "errorType", "errorMessage"]
      return .failed (← Json.required? Codec.ofJson? fields "id")
        { kind := ← Json.required? (fun w => w.name? true >>= FailureKind.ofName?) fields
            "errorType"
          detail := ← Json.required? Json.text? fields "errorMessage" }
    | _ => none

end Clickstream
