import Clickstream.Text.Hex
import Clickstream.Text.Split

/-!
# Tables of characters

A table says something about some characters, and lists them by their numbers in
hexadecimal. An entry is a number or a range, of which every `n`-th is meant after
`/n`, and after a colon a value of one or more numbers: `df:73.73`, `100-12e/2:101`.
The value belongs to the first character of a range, and grows with the others.
-/

namespace Clickstream.Unicode

/-- A line of a table. -/
structure Entry where
  first : Nat
  last : Nat
  stride : Nat := 1
  value : List Nat := []
  deriving DecidableEq, Repr

/-- A table of characters. -/
structure Table where
  entries : List Entry

namespace Entry

/-- Whether an entry is about the character with the given number. -/
def covers (e : Entry) (n : Nat) : Bool :=
  decide (e.first ≤ n) && decide (n ≤ e.last) && (n - e.first) % e.stride == 0

/-- A hexadecimal number. -/
def number? (cs : List Char) : Option Nat := if cs.isEmpty then none else Hex.valueIn? 16 cs

/-- Reads an entry. -/
def parse? (cs : List Char) : Option Entry := do
  let (range, value) ← match splitAt (· = ':') cs with
    | [range] => some (range, [])
    | [range, value] => (splitAt (· = '.') value).mapM number? |>.map fun v => (range, v)
    | _ => none
  let (range, stride) ← match splitAt (· = '/') range with
    | [range] => some (range, 1)
    | [range, stride] => (number? stride).map fun s => (range, s)
    | _ => none
  match ← (splitAt (· = '-') range).mapM number? with
  | [n] => return { first := n, last := n, stride, value }
  | [first, last] => return { first, last, stride, value }
  | _ => none

end Entry

namespace Table

/-- The table with the entries in the given rows, between blanks. -/
def ofRows (rows : List String) : Table :=
  ⟨rows.flatMap fun row => (splitAt (· = ' ') row.toList).filterMap Entry.parse?⟩

/-- Whether a table lists a character. -/
def contains (t : Table) (c : Char) : Bool := t.entries.any (·.covers c.toNat)

/-- The value of a character, if the table lists it, as it stands in the table. -/
def value? (t : Table) (c : Char) : Option (List Nat) :=
  (t.entries.find? (·.covers c.toNat)).map (·.value)

/-- The value of a character, if the table lists it, grown by its distance from the
    first of its range. -/
def image? (t : Table) (c : Char) : Option (List Nat) :=
  (t.entries.find? (·.covers c.toNat)).map fun e => e.value.map (· + (c.toNat - e.first))

end Table

end Clickstream.Unicode
