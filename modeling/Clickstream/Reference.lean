import Clickstream.Id
import Clickstream.Kind

/-!
# References

A reference is the identity of a tracked activity: its kind and its id. A
`Reference k` is known to be of kind `k` and to have an id of version 7; an
`AnyReference` is a pair as it was read, before either is checked.

There are three ways to a `Reference k`, and they agree: from an id
(`Reference.ofId`), from text (`Reference.parse`), and from an `AnyReference`
(`Reference.ofAny`), which looks at the kind before the version.
-/

namespace Clickstream

/-- Why something that is there is not a reference. -/
inductive ReferenceError
  /-- The text spells no id. -/
  | notAnId (text : String)
  /-- The id does not have version 7. -/
  | wrongVersion (id : Id)
  /-- The reference is of another kind. -/
  | wrongKind (expected found : Kind)
  /-- No kind has this rank. -/
  | unknownRank (rank : Nat)
  deriving DecidableEq

/-- The wording of an error. -/
def ReferenceError.message : ReferenceError → String
  | notAnId text => s!"Invalid reference id '{text}'"
  | wrongVersion id =>
    "Reference id " ++ id.render ++ " is UUID version " ++ toString id.version ++ ", expected 7"
  | wrongKind expected found =>
    "Expected a " ++ expected.name ++ " reference, found " ++ found.name
  | unknownRank rank => s!"Unknown event type {rank}"

/-- The kind with the given rank, or the error that there is none. -/
def Kind.ofRank (n : Nat) : Except ReferenceError Kind :=
  match Kind.ofRank? n with
  | some k => .ok k
  | none => .error (.unknownRank n)

/-- An id of version 7, as they are minted. -/
structure FreshId where
  id : Id
  isV7 : id.version = 7
  deriving DecidableEq

/-- The identity of an activity of kind `k`. -/
structure Reference (k : Kind) where
  id : Id
  isV7 : id.version = 7
  deriving DecidableEq

/-- A kind and an id, as they were read. -/
structure AnyReference where
  kind : Kind
  id : Id
  deriving DecidableEq

/-- Reads the id of a reference whose kind is known. -/
def AnyReference.parse (k : Kind) (text : String) : Except ReferenceError AnyReference :=
  match Id.parse text with
  | none => .error (.notAnId text)
  | some id => if id.version = 7 then .ok ⟨k, id⟩ else .error (.wrongVersion id)

namespace Reference

variable {k : Kind}

@[ext]
theorem ext {r s : Reference k} (h : r.id = s.id) : r = s := by
  cases r; cases s; simp_all

/-- The reference with a freshly minted id. -/
def ofFresh (f : FreshId) : Reference k := ⟨f.id, f.isV7⟩

/-- The reference with a given id, if that has version 7. -/
def ofId (id : Id) : Except ReferenceError (Reference k) :=
  if h : id.version = 7 then .ok ⟨id, h⟩ else .error (.wrongVersion id)

/-- Reads a reference of kind `k`. -/
def parse (text : String) : Except ReferenceError (Reference k) :=
  match Id.parse text with
  | none => .error (.notAnId text)
  | some id => ofId id

/-- The reference with its kind beside the id. -/
def erase (r : Reference k) : AnyReference := ⟨k, r.id⟩

/-- An untyped reference as one of kind `k`: its kind is checked first, its id
    second. -/
def ofAny (r : AnyReference) : Except ReferenceError (Reference k) :=
  if r.kind = k then ofId r.id else .error (.wrongKind k r.kind)

/-- A reference as logs show it. -/
def describe (r : Reference k) : String :=
  "Reference<" ++ k.name ++ ">(" ++ r.id.render ++ ")"

@[simp] theorem ofId_id (r : Reference k) : ofId (k := k) r.id = .ok r := by
  rw [ofId, dif_pos r.isV7]

@[simp] theorem ofAny_erase (r : Reference k) : ofAny (k := k) r.erase = .ok r := by
  simp [ofAny, erase]

theorem parse_render (r : Reference k) : parse (k := k) r.id.render = .ok r := by
  rw [parse, Id.parse_render]
  exact ofId_id r

end Reference

end Clickstream
