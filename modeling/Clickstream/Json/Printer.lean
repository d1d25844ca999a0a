import Clickstream.Json.Token

/-!
# Writing JSON

A value has one sequence of tokens (`tokens`). It is written either with nothing
between them (`render`) or, for files that people look at, with every item and
field on a line of its own, two spaces deeper than what holds it (`renderLines`).
-/

namespace Clickstream.Json

mutual
/-- The tokens of a value. -/
def tokens : Json → List Token
  | .null => [.null]
  | .bool b => [.bool b]
  | .number n => [.number n]
  | .string q => [.string q]
  | .array items => .openArray :: itemTokens items ++ [.closeArray]
  | .object fields => .openObject :: fieldTokens fields ++ [.closeObject]

/-- The tokens of items with commas between them. -/
def itemTokens : List Json → List Token
  | [] => []
  | [v] => v.tokens
  | v :: w :: rest => v.tokens ++ .comma :: itemTokens (w :: rest)

/-- The tokens of fields with commas between them. -/
def fieldTokens : List (Quote × Json) → List Token
  | [] => []
  | [(name, v)] => .string name :: .colon :: v.tokens
  | (name, v) :: w :: rest =>
    .string name :: .colon :: v.tokens ++ .comma :: fieldTokens (w :: rest)
end

/-- A value with nothing between its tokens. -/
def render (v : Json) : String :=
  String.ofList (v.tokens.flatMap Token.chars)

/-- A new line with the given indentation. -/
def newLine (indent : Nat) : List Char := '\n' :: List.replicate indent ' '

mutual
/-- A value with each item and field on a line of its own. -/
def lines (indent : Nat) : Json → List Char
  | .array [] => "[]".toList
  | .object [] => ['\x7b', '\x7d']
  | .array items => '[' :: itemLines (indent + 2) items ++ newLine indent ++ [']']
  | .object fields => '\x7b' :: fieldLines (indent + 2) fields ++ newLine indent ++ ['\x7d']
  | v => v.tokens.flatMap Token.chars

/-- Items, each on a line of its own. -/
def itemLines (indent : Nat) : List Json → List Char
  | [] => []
  | [v] => newLine indent ++ v.lines indent
  | v :: w :: rest => newLine indent ++ v.lines indent ++ ',' :: itemLines indent (w :: rest)

/-- Fields, each on a line of its own. -/
def fieldLines (indent : Nat) : List (Quote × Json) → List Char
  | [] => []
  | [(name, v)] =>
    newLine indent ++ (Token.string name).chars ++ ':' :: ' ' :: v.lines indent
  | (name, v) :: w :: rest =>
    newLine indent ++ (Token.string name).chars ++ ':' :: ' ' :: v.lines indent ++
      ',' :: fieldLines indent (w :: rest)
end

/-- A value with each item and field on a line of its own. -/
def renderLines (v : Json) : String := String.ofList (v.lines 0)

end Clickstream.Json
