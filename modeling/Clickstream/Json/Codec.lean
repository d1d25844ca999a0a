import Clickstream.Json.Printer
import Clickstream.Json.Reader

/-!
# Records in JSON

How values of the domain stand in a document. A type with a `Codec` is written
by `encode` and read by `decode`.

A *record* is an object in which every known field stands at most once and every
other field is passed over; it may also be written as the array of its fields in
their order, of which optional ones at the end may be left out (`knownFields?`).
A *name* out of a fixed list is a string, or an object with that one field and
nothing in it (`name?`). A *tagged* record (`tagged?`) says with a field of its
own, which may stand anywhere, what kind of record it is; as an array it starts
with it. To find that field the whole document is kept, so it must be retainable
and not too deep.
-/

namespace Clickstream

/-- A type with a form in JSON. -/
class Codec (α : Type) where
  toJson : α → Json
  ofJson? : Json → Option α

/-- A value as a document with no blanks. -/
def encode {α : Type} [Codec α] (a : α) : String := (Codec.toJson a).render

/-- The value that a document holds. -/
def decode {α : Type} [Codec α] (s : String) : Option α := do
  Codec.ofJson? (← Json.parse s)

namespace Json

/-- A text. -/
def text? : Json → Option String
  | .string q => q
  | _ => none

/-- A whole number below `bound`, written without fraction, exponent or sign. -/
def natBelow? (bound : Nat) : Json → Option Nat
  | .number n => n.nat?.filter (· < bound)
  | _ => none

/-- The items of an array. -/
def items? : Json → Option (List Json)
  | .array items => some items
  | _ => none

/-- Fields whose names are all texts. -/
def namedFields? (fields : List (Quote × Json)) : Option (List (String × Json)) :=
  fields.mapM fun (q, v) => q.map fun name => (name, v)

/-- The fields of a record that have one of the given names, each at most once. -/
def knownFields? (names : List String) : Json → Option (List (String × Json))
  | .object fields => do
    let known := (← namedFields? fields).filter fun f => names.contains f.1
    guard (known.map (·.1)).Nodup
    return known
  | .array items => if items.length ≤ names.length then some (names.zip items) else none
  | _ => none

/-- The value of a field that must be there. -/
def required? {α : Type} (read : Json → Option α) (fields : List (String × Json)) (name : String) :
    Option α := do
  read (← fields.lookup name)

/-- The value of a field that may be missing or `null`. -/
def optional? {α : Type} (read : Json → Option α) (fields : List (String × Json)) (name : String) :
    Option (Option α) :=
  match fields.lookup name with
  | none | some .null => some none
  | some v => (read v).map some

/-- A name out of a fixed list. In a value that was kept for a later look, an
    empty object may stand for `null`. -/
def name? (kept : Bool) : Json → Option String
  | .string q => q
  | .object [(q, .null)] => q
  | .object [(q, .object [])] => if kept then q else none
  | _ => none

/-- The field that says what kind of record a tagged record is. -/
def tagName : String := "messageType"

/-- The largest depth of a tagged record. -/
def maxDepth : Nat := 127

/-- The kind of a tagged record, and the record without it. -/
def tagged? (v : Json) : Option (String × Json) :=
  if v.isRetainable ∧ v.depth ≤ maxDepth then
    match v with
    | .object fields =>
      match fields.filter (·.1 = some tagName) with
      | [(_, .string (some tag))] => some (tag, .object (fields.filter (·.1 ≠ some tagName)))
      | _ => none
    | .array (.string (some tag) :: items) => some (tag, .array items)
    | _ => none
  else none

/-- A tagged record of the given kind. -/
def withTag (tag : String) (fields : List (String × Json)) : Json :=
  .record ((tagName, .text tag) :: fields)

end Json

instance : Codec Json := ⟨fun v => v, fun v => v⟩

instance {α : Type} [Codec α] : Codec (List α) where
  toJson xs := .array (xs.map Codec.toJson)
  ofJson? v := do (← v.items?).mapM Codec.ofJson?

end Clickstream
