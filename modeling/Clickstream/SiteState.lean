import Clickstream.Reference

/-!
# Site state

Where the tracker stands: the visitor, session and area that new events hang on.
A state is *consistent* if everything in it has its ancestors in it too;
`normalized` drops what has not.

* `isConsistent_normalized`, `normalized_eq_self_iff`: the normalized states are
  the consistent ones.
-/

namespace Clickstream

/-- The current visitor, session and area. -/
structure SiteState where
  visitor : Option (Reference .visitor) := none
  session : Option (Reference .session) := none
  area : Option (Reference .area) := none
  deriving DecidableEq

/-- Why no state can be had from a store, or none put into it. -/
inductive SiteStateError
  /-- What holds the state failed. -/
  | storage (detail : String)
  /-- Something is stored that is no reference. -/
  | malformed (detail : String)
  /-- Nothing is stored. -/
  | absent
  deriving DecidableEq

/-- The name of the cause. -/
def SiteStateError.name : SiteStateError → String
  | storage _ => "Internal"
  | malformed _ => "MalformedData"
  | absent => "NotFound"

/-- The wording of an error. -/
def SiteStateError.message : SiteStateError → String
  | storage detail => "Site state storage failed: " ++ detail
  | malformed detail => "Malformed site state: " ++ detail
  | absent => "No site state stored"

/-- A stored value that is no reference makes the state malformed. -/
def ReferenceError.toSiteStateError (e : ReferenceError) : SiteStateError :=
  .malformed e.message

namespace SiteState

/-- The state with nothing in it. -/
def empty : SiteState := {}

def isEmpty (s : SiteState) : Bool :=
  s.visitor.isNone && s.session.isNone && s.area.isNone

/-- Whether everything in the state has its ancestors in it. -/
def isConsistent (s : SiteState) : Bool :=
  (s.area.isNone || s.session.isSome) && (s.session.isNone || s.visitor.isSome)

/-- The state without what lacks an ancestor. -/
def normalized (s : SiteState) : SiteState :=
  let session := if s.visitor.isSome then s.session else none
  { s with session, area := if session.isSome then s.area else none }

/-- The state in which the visitor is replaced: session and area go with it. -/
def withVisitor (_ : SiteState) (v : Option (Reference .visitor)) : SiteState :=
  { visitor := v }

/-- The state in which the session is replaced: the area goes with it. -/
def withSession (s : SiteState) (r : Option (Reference .session)) : SiteState :=
  { s with session := r, area := none }

/-- The state in which the area is replaced. -/
def withArea (s : SiteState) (r : Option (Reference .area)) : SiteState :=
  { s with area := r }

theorem isConsistent_normalized (s : SiteState) : s.normalized.isConsistent := by
  rcases s with ⟨_ | v, _ | r, _ | a⟩ <;> rfl

theorem normalized_eq_self_iff (s : SiteState) : s.normalized = s ↔ s.isConsistent := by
  rcases s with ⟨_ | v, _ | r, _ | a⟩ <;> simp [normalized, isConsistent]

end SiteState

end Clickstream
