import Clickstream.Json.Token

/-!
# Reading JSON

A document is read token by token. The reader remembers what it stands inside of
(`Frame`), innermost first, and what may come next (`Reader`). One document is
one value and nothing else.

The reader takes any nesting; a limit on the depth is for whoever reads the
value.
-/

namespace Clickstream.Json

/-- An array or object that is not closed yet, with the items or fields before the
    current one, the latest first. -/
inductive Frame
  | items (before : List Json)
  | fields (before : List (Quote × Json)) (name : Quote)

/-- What the reader stands inside of, and what may come next. -/
inductive Reader
  /-- A value. -/
  | value (inside : List Frame)
  /-- The first item of an array, or its end. -/
  | firstItem (inside : List Frame)
  /-- The first name of an object, or its end. -/
  | firstName (inside : List Frame)
  /-- A name, after the fields before it. -/
  | name (before : List (Quote × Json)) (inside : List Frame)
  /-- The colon after a name. -/
  | colon (before : List (Quote × Json)) (name : Quote) (inside : List Frame)
  /-- Whatever follows a complete value. -/
  | after (v : Json) (inside : List Frame)

/-- Takes the token that starts a value. -/
def Reader.start (inside : List Frame) : Token → Option Reader
  | .null => some (.after .null inside)
  | .bool b => some (.after (.bool b) inside)
  | .number n => some (.after (.number n) inside)
  | .string q => some (.after (.string q) inside)
  | .openArray => some (.firstItem inside)
  | .openObject => some (.firstName inside)
  | _ => none

/-- Takes one token. -/
def Reader.step : Reader → Token → Option Reader
  | .value inside, t => start inside t
  | .firstItem inside, .closeArray => some (.after (.array []) inside)
  | .firstItem inside, t => start (.items [] :: inside) t
  | .firstName inside, .closeObject => some (.after (.object []) inside)
  | .firstName inside, .string q => some (.colon [] q inside)
  | .name before inside, .string q => some (.colon before q inside)
  | .colon before key inside, .colon => some (.value (.fields before key :: inside))
  | .after v (.items before :: inside), .comma => some (.value (.items (v :: before) :: inside))
  | .after v (.items before :: inside), .closeArray =>
    some (.after (.array (v :: before).reverse) inside)
  | .after v (.fields before key :: inside), .comma => some (.name ((key, v) :: before) inside)
  | .after v (.fields before key :: inside), .closeObject =>
    some (.after (.object ((key, v) :: before).reverse) inside)
  | _, _ => none

/-- The value that a complete document holds. -/
def Reader.result? : Reader → Option Json
  | .after v [] => some v
  | _ => none

/-- The value that tokens spell. -/
def ofTokens? (ts : List Token) : Option Json := do
  (← ts.foldlM Reader.step (.value [])).result?

/-- Reads a document. -/
def parse (s : String) : Option Json := do
  ofTokens? (← tokenize s.toList)

end Clickstream.Json
