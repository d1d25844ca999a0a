import Clickstream.Http
import Clickstream.Recorder

/-!
# Fixtures

What stands behind a worker on a bench: what it gets when it asks for a transport,
and what that transport does. A delivery of a gated transport is answered by hand,
and only once (`Gate`).
-/

namespace Clickstream.Bench

/-- What builds transports, and what transports do. -/
structure Fixture where
  build : Destination → Except Verdict Unit
  transport : Transport Unit Recorder

namespace Fixture

/-- Every destination is accepted, and every batch answered at once. -/
def recording : Fixture := ⟨fun _ => .ok (), Recorder.transport⟩

/-- Every destination is accepted, and batches are answered by hand. -/
def gated : Fixture := ⟨fun _ => .ok (), Recorder.gated⟩

/-- Every destination is turned down. -/
def refusing (v : Verdict) : Fixture := ⟨fun _ => .error v, Recorder.transport⟩

/-- Destinations are judged as for delivery over HTTP, and nothing ever arrives. -/
def unplugged : Fixture where
  build d := (Http.Sender.build d).map fun _ => ()
  transport _ _ r := (some (.error ⟨.fetch, "network is unreachable"⟩), r)

/-- The fixture with the given name. -/
def ofName? : String → Option Fixture
  | "recording" => some recording
  | "gated" => some gated
  | "http" => some unplugged
  | name => (Verdict.ofName? name).map refusing

end Fixture

/-- The numbers of the deliveries that were answered by hand. -/
structure Gate where
  opened : List Nat := []
  deriving DecidableEq

/-- Answers a delivery by hand, or breaks the transport down if there is no answer:
    whether the worker was still waiting for it. A delivery that was never begun,
    or was answered before, cannot be answered. -/
def Gate.release? (n : Nat) (result : Option DeliveryResult) (g : Gate) (s : Service Unit) :
    Option (Bool × Gate × Service Unit) :=
  if s.worker.given.length ≤ n ∨ n ∈ g.opened then none
  else
    let next := match result with
      | some r => s.finish? n r 0
      | none => s.lose? n
    some (next.isSome, ⟨n :: g.opened⟩, next.getD s)

end Clickstream.Bench
