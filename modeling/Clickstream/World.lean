import Clickstream.Store
import Clickstream.Supply
import Clickstream.Tracker

/-!
# A world for the tracker

A store, something that publishes batches, a supply of fresh ids for events, and
a log.
-/

namespace Clickstream

/-- What publishes batches, on a state of its own. -/
abbrev Publisher (π : Type) := List WireEvent → π → DeliveryResult × π

/-- What surrounds the tracker. -/
structure World (σ π : Type) where
  store : σ
  publisher : π
  supply : Supply
  /-- What the tracker and its store measured. -/
  log : Log := []

namespace World

variable {σ π : Type}

/-- A call of the store. -/
def callStore (call : σ → Outcome SiteStateError SiteState σ) (w : World σ π) :
    Except SiteStateError SiteState × World σ π :=
  let outcome := call w.store
  (outcome.result, { w with store := outcome.state, log := w.log ++ outcome.log })

/-- A call of the publisher. -/
def callPublisher (publish : Publisher π) (batch : List WireEvent) (w : World σ π) :
    DeliveryResult × World σ π :=
  let (result, publisher) := publish batch w.publisher
  (result, { w with publisher })

/-- Takes an id. -/
def mint (w : World σ π) : FreshId × World σ π :=
  let (id, supply) := w.supply.take
  (id, { w with supply })

/-- Takes note of a measurement. -/
def measure (m : Measurement) (w : World σ π) : World σ π := { w with log := w.log ++ [m] }

/-- The world as the tracker sees it. -/
def surroundings (store : Store σ) (publish : Publisher π) : Surroundings (World σ π) where
  get := callStore store.get
  set state := callStore (store.set state)
  clear := callStore store.clear
  publish := callPublisher publish
  mint := mint
  measure := measure

end World

namespace Tracker

variable {σ π : Type}

/-- Runs an operation of a tracker that is at rest before and after it. -/
def operate (store : Store σ) (publish : Publisher π) (op : Operation) (w : World σ π) :
    TrackingResult × World σ π :=
  let (result, scene) := perform (World.surroundings store publish) op { world := w }
  (result, scene.world)

/-- The site state as the tracker sees it between operations. -/
def currentState (store : Store σ) (publish : Publisher π) (w : World σ π) :
    Except SiteStateError SiteState × World σ π :=
  match siteState (World.surroundings store publish) { world := w } with
  | .ok state scene => (.ok state, scene.world)
  | .error e scene => (.error e, scene.world)

end Tracker

end Clickstream
