import Clickstream.Event
import Clickstream.Metrics
import Clickstream.SiteState

/-!
# The tracker

The tracker turns what a site reports ("a section was shown", "something was
clicked") into events with an unbroken line of ancestors. Each operation has
three phases:

* *staging*: the site state is read, at the first moment it is needed, into a
  draft; missing ancestors and then the event itself are created, each of them
  queued and put into the draft;
* *committing*: the draft is written to the store, or the store is cleared if
  there is nothing in it;
* *publishing*: the queue is handed over as one batch.

A failure before the end of the commit drops the queue, and nothing is
published; a failure to publish does not undo the commit. In every case draft
and queue are gone when the operation ends (`Tracker.perform`).

What an operation finds around it (the store, a publisher, a source of fresh ids,
a log) is abstract: `Surroundings ω` are its calls on a state `ω` of the world.
-/

namespace Clickstream

/-- The calls that an operation makes, on a state of the world. -/
structure Surroundings (ω : Type) where
  get : ω → Except SiteStateError SiteState × ω
  set : SiteState → ω → Except SiteStateError SiteState × ω
  clear : ω → Except SiteStateError SiteState × ω
  publish : List WireEvent → ω → DeliveryResult × ω
  mint : ω → FreshId × ω
  measure : Measurement → ω → ω

/-- What the tracker holds while an operation runs. -/
structure Tracker where
  /-- The site state as it will be committed, once it has been read. -/
  draft : Option SiteState := none
  /-- The events created so far, the first one first. -/
  queue : List Event := []
  deriving DecidableEq

/-- The tracker in its world. -/
structure Scene (ω : Type) where
  tracker : Tracker := {}
  world : ω

/-- What can be asked of the tracker. -/
inductive Operation
  | registerVisitor
  | deregisterVisitor
  | registerSession
  | deregisterSession
  | registerArea
  | deregisterArea
  | registerClick
  deriving DecidableEq, Repr

namespace Operation

/-- Whether the operation creates an event. -/
def emits : Operation → Bool
  | registerVisitor | registerSession | registerArea | registerClick => true
  | _ => false

/-- The name in logs. -/
def label : Operation → String
  | registerVisitor => "register_visitor"
  | deregisterVisitor => "deregister_visitor"
  | registerSession => "register_session"
  | deregisterSession => "deregister_session"
  | registerArea => "register_section"
  | deregisterArea => "deregister_section"
  | registerClick => "register_click"

/-- The name as callers write it. -/
def name : Operation → String
  | registerVisitor => "RegisterVisitor"
  | deregisterVisitor => "DeregisterVisitor"
  | registerSession => "RegisterSession"
  | deregisterSession => "DeregisterSession"
  | registerArea => "RegisterSection"
  | deregisterArea => "DeregisterSection"
  | registerClick => "RegisterClick"

def all : List Operation :=
  [registerVisitor, deregisterVisitor, registerSession, deregisterSession, registerArea,
    deregisterArea, registerClick]

end Operation

namespace Tracker

variable {ω : Type} (env : Surroundings ω)

/-- A part of staging: it may fail, and changes the scene in either case. -/
abbrev Staging (ω α : Type) := EStateM SiteStateError (Scene ω) α

/-! ## Staging -/

/-- The committed state. Nothing stored is the empty state, and what has no
    ancestors is dropped. -/
def siteState : Staging ω SiteState := fun s =>
  match env.get s.world with
  | (.ok state, w) => .ok state.normalized { s with world := w }
  | (.error .absent, w) => .ok .empty { s with world := w }
  | (.error e, w) => .error e { s with world := w }

/-- Sets the draft. -/
def setDraft (state : SiteState) : Staging ω Unit := fun s =>
  .ok () { s with tracker := { s.tracker with draft := some state } }

/-- The draft, which is read from the store when it is first asked for. -/
def loadDraft : Staging ω SiteState := do
  match (← get).tracker.draft with
  | some state => return state
  | none =>
    let state ← siteState env
    setDraft state
    return state

/-- Creates an event with a fresh id and puts it into the queue. -/
def create (event : FreshId → Event) : Staging ω FreshId := fun s =>
  let (id, w) := env.mint s.world
  let e := event id
  .ok id {
    tracker := { s.tracker with queue := s.tracker.queue ++ [e] }
    world := env.measure (.enqueued e.kind) w }

/-- Creates a visitor and makes it the current one. The whole state is replaced,
    so it need not be read. -/
def openVisitor : Staging ω (Reference .visitor) := do
  let v := Reference.ofFresh (← create env fun id => .visitor (.ofFresh id))
  setDraft (SiteState.empty.withVisitor (some v))
  return v

/-- The current visitor, or a new one. -/
def obtainVisitor : Staging ω (Reference .visitor) := do
  match (← loadDraft env).visitor with
  | some v => return v
  | none => openVisitor env

/-- Creates a session under the current or a new visitor and makes it the current
    one. -/
def openSession : Staging ω (Reference .session) := do
  let v ← obtainVisitor env
  let r := Reference.ofFresh (← create env fun id => .session (.ofFresh id) v)
  setDraft ((← loadDraft env).withSession (some r))
  return r

/-- The current session, or a new one. -/
def obtainSession : Staging ω (Reference .session) := do
  match (← loadDraft env).session with
  | some r => return r
  | none => openSession env

/-- Creates an area under the current or a new session and makes it the current
    one. -/
def openArea : Staging ω (Reference .area) := do
  let r ← obtainSession env
  let a := Reference.ofFresh (← create env fun id => .area (.ofFresh id) r)
  setDraft ((← loadDraft env).withArea (some a))
  return a

/-- The current area, or a new one. -/
def obtainArea : Staging ω (Reference .area) := do
  match (← loadDraft env).area with
  | some a => return a
  | none => openArea env

/-- Creates a click in the current or a new area. Clicks are not part of the state. -/
def click : Staging ω Unit := do
  let a ← obtainArea env
  let _ ← create env fun id => .click (.ofFresh id) a

/-- The staging of an operation. -/
def stage : Operation → Staging ω Unit
  | .registerVisitor => do let _ ← openVisitor env
  | .deregisterVisitor => setDraft .empty
  | .registerSession => do let _ ← openSession env
  | .deregisterSession => do setDraft ((← loadDraft env).withSession none)
  | .registerArea => do let _ ← openArea env
  | .deregisterArea => do setDraft ((← loadDraft env).withArea none)
  | .registerClick => click env

/-! ## Committing and publishing -/

/-- Writes the draft to the store. It is gone from then on. -/
def commit (s : Scene ω) : Except SiteStateError SiteState × Scene ω :=
  let tracker := { s.tracker with draft := none }
  let (result, w) := match s.tracker.draft with
    | some state => if state.isEmpty then env.clear s.world else env.set state s.world
    | none => env.clear s.world
  (result, { tracker, world := w })

/-- Drops queue and draft after a failure of the store. -/
def abort (e : SiteStateError) (s : Scene ω) : TrackingError × Scene ω :=
  (.internal e.message,
    { tracker := {}, world := env.measure (.dropped s.tracker.queue.length) s.world })

/-- Where an operation stands after the commit. -/
inductive Progress
  | finished (result : TrackingResult)
  | publishing (batch : List Event)

/-- Everything up to the moment at which the operation hands over its batch. -/
def prepare (op : Operation) (s : Scene ω) : Progress × Scene ω :=
  match stage env op s with
  | .error e s =>
    let (e, s) := abort env e s
    (.finished (.error e), s)
  | .ok () s =>
    match commit env s with
    | (.error e, s) =>
      let (e, s) := abort env e s
      (.finished (.error e), s)
    | (.ok _, s) =>
      let batch := s.tracker.queue
      let s := { s with tracker := { s.tracker with queue := [] } }
      if batch.isEmpty then (.finished (.ok 0), s) else (.publishing batch, s)

/-- Hands over a batch. -/
def publish (batch : List Event) (s : Scene ω) : TrackingResult × Scene ω :=
  let (result, w) := env.publish (batch.map Event.toWire) s.world
  (result.mapError DeliveryError.toTrackingError, { s with world := w })

/-- Measures how an operation ended. -/
def conclude (result : TrackingResult) (s : Scene ω) : Scene ω :=
  let m := match result with
    | .ok count => Measurement.completed count
    | .error e => Measurement.failed e
  { s with world := env.measure m s.world }

/-- A whole operation. -/
def perform (op : Operation) (s : Scene ω) : TrackingResult × Scene ω :=
  let (result, s) := match prepare env op s with
    | (.finished result, s) => (result, s)
    | (.publishing batch, s) => publish env batch s
  (result, conclude env result s)

end Tracker

end Clickstream
