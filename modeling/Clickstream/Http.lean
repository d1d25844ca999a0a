import Clickstream.Destination
import Clickstream.Http.Status
import Clickstream.Text.Utf8
import Clickstream.Wire

/-!
# Delivery over HTTP

A batch is posted to the endpoint of a destination, as a JSON list of its events,
with the API key in a header. The status of the reply decides how the delivery
ended; the text of a reply that rejects the batch becomes part of the error.

What carries requests and brings replies is a `Network`. It follows redirections
by itself, and the reply is the last one.
-/

namespace Clickstream.Http

/-- A request to post a batch. -/
structure Post where
  endpoint : String
  headers : List (String × String)
  body : String
  /-- How many milliseconds the reply may take. -/
  timeout : Option Nat
  deriving DecidableEq

/-- A reply. -/
structure Reply where
  status : Status
  /-- The bytes after the headers, if they could be read to their end. -/
  body : Option (List UInt8)
  deriving DecidableEq

/-- Why there is no reply. -/
inductive NetworkError
  | timeout (detail : String)
  | unreachable (detail : String)
  deriving DecidableEq

/-- What carries requests. -/
abbrev Network := Post → Except NetworkError Reply

/-- Why no sender can be made. -/
inductive SetupError
  /-- The destination is not accepted. -/
  | rejected (v : Verdict)
  /-- There is no access to the network. -/
  | client (detail : String)
  deriving DecidableEq

namespace SetupError

/-- The wording of an error. -/
def message : SetupError → String
  | rejected v => "Invalid publisher configuration: " ++ v.name
  | client detail => "Failed to build HTTP client: " ++ detail

/-- What a worker says of its configuration when it meets the error. -/
def verdict : SetupError → Verdict
  | rejected v => v
  | client _ => .invalid

end SetupError

/-- What sends batches to one destination. -/
structure Sender where
  apiKey : String
  endpoint : String
  timeout : Option Nat
  deriving DecidableEq

/-- The header that carries the API key. -/
def keyHeader : String := "api-key"

namespace Sender

/-- A sender to a destination that is accepted. -/
def new (d : Destination) : Except SetupError Sender :=
  match d.check with
  | .accepted => .ok { apiKey := d.apiKey, endpoint := d.endpoint, timeout := d.timeout }
  | verdict => .error (.rejected verdict)

/-- A sender as the transport of a worker. -/
def build (d : Destination) : Except Verdict Sender := (new d).mapError SetupError.verdict

/-- The request for a batch. -/
def post (s : Sender) (batch : List WireEvent) : Post where
  endpoint := s.endpoint
  headers := [(keyHeader, s.apiKey), ("content-type", "application/json")]
  body := encode batch
  timeout := s.timeout

/-- Whether a text can stand in a header: no controls but tabs. -/
def isHeaderText (s : String) : Bool :=
  s.toList.all fun c => c = '\t' || (' ' ≤ c && c ≠ '\x7f')

/-- The text of a reply that rejects a batch. What cannot be read is empty. -/
def rejection (r : Reply) : String :=
  "HTTP " ++ String.ofList (Decimal.chars r.status.code) ++ ": " ++
    String.ofList (trimChars (Utf8.lossy (r.body.getD [])))

/-- How a delivery ended. -/
def outcome (batch : List WireEvent) : Except NetworkError Reply → DeliveryResult
  | .ok r =>
    match r.status.failure? with
    | none => .ok batch.length
    | some kind => .error ⟨kind, rejection r⟩
  | .error (.timeout detail) => .error ⟨.timeout, detail⟩
  | .error (.unreachable detail) => .error ⟨.fetch, detail⟩

/-- Sends a batch. What cannot be sent never reaches the network. -/
def send (network : Network) (s : Sender) (batch : List WireEvent) : DeliveryResult :=
  if (Url.parse? s.endpoint).isSome ∧ isHeaderText s.apiKey then
    outcome batch (network (s.post batch))
  else .error ⟨.fetch, "builder error"⟩

end Sender

end Clickstream.Http
