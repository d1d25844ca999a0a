import Clickstream.Reference
import Clickstream.Text.Map

/-!
# Events

An event is one tracked activity: a fresh identity and the identity it hangs on.
The type of the parent is fixed by the kind, so a session hangs on a visitor, an
area on a session and a click on an area, and a click is nobody's parent.

A `WireEvent` is an event as it is sent: rank, id, and a map of attributes that
holds the parent's id under `parent`. Every event projects to one
(`Event.toWire`), from which kind, id and parent can be read back
(`parentId?_toWire`); but a wire event that was received may hold anything.
-/

namespace Clickstream

/-- A tracked activity: its identity and what it hangs on. -/
inductive Event
  | visitor (self : Reference .visitor)
  | session (self : Reference .session) (parent : Reference .visitor)
  | area (self : Reference .area) (parent : Reference .session)
  | click (self : Reference .click) (parent : Reference .area)
  deriving DecidableEq

/-- An event as it is sent: kind, id and, if there are any, attributes. -/
structure WireEvent where
  kind : Kind
  id : Id
  attributes : Option TextMap := none
  deriving DecidableEq

/-- The attribute that holds the id of the parent. -/
def parentAttribute : String := "parent"

/-- The id of the parent, if the attributes hold one that is well formed. -/
def WireEvent.parentId? (e : WireEvent) : Option Id := do
  Id.parse (← (← e.attributes).get? parentAttribute)

namespace Event

def kind : Event → Kind
  | visitor _ => .visitor
  | session _ _ => .session
  | area _ _ => .area
  | click _ _ => .click

def id : Event → Id
  | visitor r => r.id
  | session r _ => r.id
  | area r _ => r.id
  | click r _ => r.id

/-- The id of what the event hangs on. -/
def parentId? : Event → Option Id
  | visitor _ => none
  | session _ p => some p.id
  | area _ p => some p.id
  | click _ p => some p.id

/-- The identity of an event. -/
def reference (e : Event) : AnyReference := ⟨e.kind, e.id⟩

/-- The event as it is sent. -/
def toWire (e : Event) : WireEvent where
  kind := e.kind
  id := e.id
  attributes := e.parentId?.map fun p => TextMap.empty.insert parentAttribute p.render

/-- A new event of kind `k` with the given identity, under the parent that a text
    names. What stands where a visitor would name a parent is not looked at. -/
def underText (k : Kind) (self : FreshId) (parent : String) : Except ReferenceError Event :=
  match k with
  | .visitor => .ok (visitor (.ofFresh self))
  | .session => (Reference.parse parent).map (session (.ofFresh self))
  | .area => (Reference.parse parent).map (area (.ofFresh self))
  | .click => (Reference.parse parent).map (click (.ofFresh self))

theorem isV7 (e : Event) : e.id.version = 7 := by
  cases e <;> exact Reference.isV7 _

theorem parentId?_toWire (e : Event) : e.toWire.parentId? = e.parentId? := by
  cases e <;> simp [toWire, WireEvent.parentId?, parentId?, TextMap.get?_insert, Id.parse_render]

end Event

/-! ## Lineage -/

/-- Why a batch is not a line of descent. -/
inductive LineageError
  /-- An event does not name the one before it as its parent. -/
  | notAChild (child parent : WireEvent)
  /-- An event is not one rank above its parent. -/
  | rankSkipped
  deriving DecidableEq

/-- The wording of an error. -/
def LineageError.message : LineageError → String
  | notAChild child parent =>
    child.kind.name ++ " " ++ child.id.render ++ " is not a child of " ++ parent.kind.name ++ " " ++
      parent.id.render
  | rankSkipped => "rank must increase by one"

/-- Checks that every event but the first is the child of the one before it, and
    reports the first that is not. -/
def checkLineage : List WireEvent → Except LineageError Unit
  | parent :: child :: rest =>
    if child.parentId? ≠ some parent.id then .error (.notAChild child parent)
    else if child.kind.rank ≠ parent.kind.rank + 1 then .error .rankSkipped
    else checkLineage (child :: rest)
  | _ => .ok ()

/-! ## Growing trees of events -/

/-- One visitor, under it `width` sessions, under each as many areas, under each
    as many clicks: listed with every event before those under it, and minted in
    that order from the stream `mint`. -/
def family (width : Nat) (mint : Nat → FreshId) : List Event :=
  let perArea := 1 + width
  let perSession := 1 + width * perArea
  let v : Reference .visitor := .ofFresh (mint 0)
  .visitor v :: (List.range width).flatMap fun i =>
    let atSession := 1 + i * perSession
    let s : Reference .session := .ofFresh (mint atSession)
    .session s v :: (List.range width).flatMap fun j =>
      let atArea := atSession + 1 + j * perArea
      let a : Reference .area := .ofFresh (mint atArea)
      .area a s :: (List.range width).map fun k =>
        .click (.ofFresh (mint (atArea + 1 + k))) a

end Clickstream
