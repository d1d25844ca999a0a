import Clickstream.Binary64
import Clickstream.Text.Decimal

/-!
# JSON values

A document as it was written: the fields of an object in their order and as
often as they stand there, a number with its sign, fraction and exponent. What a
string denotes is a `Quote`: a text, or nothing when an escape stands for half
of a surrogate pair. Such a string may be passed over, but not read.

`Json.isRetainable` says which values can be kept for a later look: every string
in them is a text and every number has a finite size.
-/

namespace Clickstream

/-- A number as it was written. -/
structure Number where
  negative : Bool := false
  whole : Nat
  /-- The digits after the point; none if there is no point. -/
  fraction : List Nat := []
  exponent : Option Int := none
  deriving DecidableEq, Repr

/-- What a quoted string denotes: a text, or nothing. -/
abbrev Quote := Option String

/-- A JSON value. -/
inductive Json
  | null
  | bool (b : Bool)
  | number (n : Number)
  | string (q : Quote)
  | array (items : List Json)
  | object (fields : List (Quote × Json))
  deriving Repr, BEq

namespace Number

/-- A whole number that is not negative. -/
def ofNat (n : Nat) : Number := { whole := n }

/-- The value of a number that is written as digits alone. -/
def nat? (n : Number) : Option Nat :=
  if n.negative = false ∧ n.fraction = [] ∧ n.exponent = none then some n.whole else none

@[simp] theorem nat?_ofNat (n : Nat) : (ofNat n).nat? = some n := rfl

/-- Appends digits to a number as long as it stays below `2 ^ 64`; the number, and
    how many digits were left over. -/
def keep (s : Nat) : List Nat → Nat × Nat
  | [] => (s, 0)
  | d :: ds => if 10 * s + d < Nat.pow 2 64 then keep (10 * s + d) ds else (s, ds.length + 1)

/-- Whether a number is too large for the double-precision format. It is first cut
    to the leading digits that 64 bits hold, times a power of ten. -/
def overflows (n : Number) : Bool :=
  let (w, dropped) := keep 0 (Decimal.digits n.whole)
  let (s, unread) := keep w n.fraction
  let used := n.fraction.length - unread
  let e := n.exponent.getD 0 + dropped - used
  if s = 0 ∨ e < 0 then false
  else if e ≤ 308 then
    Binary64.isInfinite (Binary64.nearest s * Binary64.nearest (Nat.pow 10 e.toNat))
  else true

end Number

namespace Json

/-- A text as a value. -/
def text (s : String) : Json := .string (some s)

/-- A whole number as a value. -/
def nat (n : Nat) : Json := .number (.ofNat n)

/-- An object with the given fields. -/
def record (fields : List (String × Json)) : Json :=
  .object (fields.map fun f => (some f.1, f.2))

mutual
/-- How deep arrays and objects stand inside one another. -/
def depth : Json → Nat
  | .array items => itemsDepth items + 1
  | .object fields => fieldsDepth fields + 1
  | _ => 0

def itemsDepth : List Json → Nat
  | [] => 0
  | v :: rest => max v.depth (itemsDepth rest)

def fieldsDepth : List (Quote × Json) → Nat
  | [] => 0
  | (_, v) :: rest => max v.depth (fieldsDepth rest)
end

mutual
/-- Whether every string in a value is a text and every number has a finite size. -/
def isRetainable : Json → Bool
  | .number n => !n.overflows
  | .string q => q.isSome
  | .array items => itemsRetainable items
  | .object fields => fieldsRetainable fields
  | _ => true

def itemsRetainable : List Json → Bool
  | [] => true
  | v :: rest => v.isRetainable && itemsRetainable rest

def fieldsRetainable : List (Quote × Json) → Bool
  | [] => true
  | (name, v) :: rest => name.isSome && v.isRetainable && fieldsRetainable rest
end

end Json

end Clickstream
