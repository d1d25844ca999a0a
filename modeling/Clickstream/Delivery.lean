import Clickstream.Json.Codec

/-!
# Delivery

A batch of events is delivered as a whole: either all of it is accepted, and the
result is a count, or it fails with one error. What a caller of the tracker sees
of a failed delivery is a `TrackingError`, which keeps apart what the caller can
mend (a bad request, a bad configuration) from the rest.

* `DeliveryError.toTrackingError`: how the kinds of failure collapse.
-/

namespace Clickstream

/-- What kind of failure a delivery met. -/
inductive FailureKind
  /-- The batch was refused. -/
  | badRequest
  /-- The sender is not configured, or not accepted. -/
  | configuration
  /-- The receiver failed. -/
  | server
  /-- No answer in time, or none that can be classified. -/
  | timeout
  /-- There was no answer. -/
  | fetch
  deriving DecidableEq, Repr

namespace FailureKind

/-- The name in messages and labels. -/
def name : FailureKind → String
  | badRequest => "BadRequest"
  | configuration => "ConfigurationError"
  | server => "InternalServerError"
  | timeout => "Timeout"
  | fetch => "FetchError"

def all : List FailureKind := [badRequest, configuration, server, timeout, fetch]

/-- The kind with the given name. -/
def ofName? (s : String) : Option FailureKind := all.find? (·.name = s)

theorem ofName?_name (k : FailureKind) : ofName? k.name = some k := by cases k <;> rfl

end FailureKind

/-- A failed delivery. -/
structure DeliveryError where
  kind : FailureKind
  detail : String
  deriving DecidableEq

/-- The wording of a failure. -/
def DeliveryError.message (e : DeliveryError) : String := e.kind.name ++ ": " ++ e.detail

/-- The outcome of a delivery: how many events were accepted, or why none was. -/
abbrev DeliveryResult := Except DeliveryError Nat

/-- What a caller of the tracker sees of a failure. -/
inductive TrackingError
  | badRequest (detail : String)
  | configuration (detail : String)
  | internal (detail : String)
  deriving DecidableEq

/-- The wording of an error. -/
def TrackingError.message : TrackingError → String
  | badRequest detail => "Bad request: " ++ detail
  | configuration detail => "Configuration error: " ++ detail
  | internal detail => "Internal error: " ++ detail

/-- The outcome of an operation of the tracker. -/
abbrev TrackingResult := Except TrackingError Nat

/-- A failed delivery as a caller sees it: what the caller cannot mend is an
    internal error that says what kind of failure it was. -/
def DeliveryError.toTrackingError (e : DeliveryError) : TrackingError :=
  match e.kind with
  | .badRequest => .badRequest e.detail
  | .configuration => .configuration e.detail
  | .server | .timeout | .fetch => .internal e.message

/-- The counts that a delivery may report. -/
def countBound : Nat := Nat.pow 2 64

/-- The count of an accepted batch, as it is sent. -/
structure Accepted where
  count : Nat
  deriving DecidableEq

instance : Codec Accepted where
  toJson a := .record [("count", .nat a.count)]
  ofJson? v := do
    let fields ← v.knownFields? ["count"]
    return { count := ← Json.required? (Json.natBelow? countBound) fields "count" }

instance : Codec FailureKind where
  toJson k := .text k.name
  ofJson? v := do FailureKind.ofName? (← v.name? false)

instance : Codec DeliveryError where
  toJson e := .record [("kind", Codec.toJson e.kind), ("message", .text e.detail)]
  ofJson? v := do
    let fields ← v.knownFields? ["kind", "message"]
    return { kind := ← Json.required? Codec.ofJson? fields "kind"
             detail := ← Json.required? Json.text? fields "message" }

end Clickstream
