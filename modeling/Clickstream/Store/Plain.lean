import Clickstream.Store

/-!
# A store in one variable

The simplest store holds the site state as it was given. Its calls can be made to
fail, and are counted, also when they fail.
-/

namespace Clickstream

/-- A store that holds a site state as it was given. -/
structure PlainStore where
  state : SiteState := .empty
  getFault : Option SiteStateError := none
  setFault : Option SiteStateError := none
  clearFault : Option SiteStateError := none
  gets : Nat := 0
  sets : Nat := 0
  clears : Nat := 0
  deriving DecidableEq

namespace PlainStore

/-- Reads the state. A state with nothing in it is absent. -/
def get (s : PlainStore) : Outcome SiteStateError SiteState PlainStore where
  result := match s.getFault with
    | some e => .error e
    | none => if s.state.isEmpty then .error .absent else .ok s.state
  state := { s with gets := s.gets + 1 }

/-- Writes the state. -/
def set (state : SiteState) (s : PlainStore) : Outcome SiteStateError SiteState PlainStore :=
  let s := { s with sets := s.sets + 1 }
  match s.setFault with
  | some e => { result := .error e, state := s }
  | none => { result := .ok state, state := { s with state } }

/-- Clears the state. -/
def clear (s : PlainStore) : Outcome SiteStateError SiteState PlainStore :=
  let s := { s with clears := s.clears + 1 }
  match s.clearFault with
  | some e => { result := .error e, state := s }
  | none => { result := .ok .empty, state := { s with state := .empty } }

/-- The store without its faults. -/
def heal (s : PlainStore) : PlainStore :=
  { s with getFault := none, setFault := none, clearFault := none }

/-- The calls of the store. -/
def store : Store PlainStore := ⟨get, set, clear⟩

end PlainStore

end Clickstream
