import Clickstream.Json.Basic
import Clickstream.Text.Hex

/-!
# JSON tokens

The words of a document: punctuation, the three names, numbers and strings.
`Token.chars` writes a token and `tokenize` cuts a text into tokens, passing over
the four blanks that may stand between them.

A number or a name ends where no further character could belong to one, so the
longest run of such characters is taken and must be one token as a whole. In a
string, an escape `\u` stands for a 16-bit unit; two units that make a surrogate
pair stand for one character (`joinUnits`), and a unit that should be half of a
pair, but is not, leaves the string without a text.
-/

namespace Clickstream.Json

/-- A word of a document. -/
inductive Token
  | openArray
  | closeArray
  | openObject
  | closeObject
  | colon
  | comma
  | null
  | bool (b : Bool)
  | number (n : Number)
  | string (q : Quote)
  deriving DecidableEq, Repr

/-! ## Writing -/

/-- The escapes with a letter of their own. -/
def shortEscapes : List (Char × Char) :=
  [('"', '"'), ('\\', '\\'), ('b', '\x08'), ('f', '\x0c'), ('n', '\n'), ('r', '\r'), ('t', '\t')]

/-- A character inside quotes: quotes, backslashes and control characters are
    escaped, by a letter if they have one. -/
def escapeChar (c : Char) : List Char :=
  match shortEscapes.find? (·.2 = c) with
  | some (letter, _) => ['\\', letter]
  | none =>
    if c.toNat < 0x20 then
      ['\\', 'u', '0', '0', Hex.digitChar (c.toNat / 16), Hex.digitChar (c.toNat % 16)]
    else [c]

/-- A text in quotes. -/
def quoted (s : String) : List Char :=
  '"' :: s.toList.flatMap escapeChar ++ ['"']

/-- A number as it is written. -/
def numberChars (n : Number) : List Char :=
  (if n.negative then ['-'] else []) ++ Decimal.chars n.whole ++
    (if n.fraction.isEmpty then [] else '.' :: n.fraction.map Decimal.digitChar) ++
    match n.exponent with
    | none => []
    | some e => 'e' :: (if e < 0 then ['-'] else []) ++ Decimal.chars e.natAbs

/-- A token as it is written. A string without a text is written as a lone half of
    a surrogate pair. -/
def Token.chars : Token → List Char
  | openArray => ['[']
  | closeArray => [']']
  | openObject => ['\x7b']
  | closeObject => ['\x7d']
  | colon => [':']
  | comma => [',']
  | null => "null".toList
  | bool true => "true".toList
  | bool false => "false".toList
  | number n => numberChars n
  | string (some s) => quoted s
  | string none => "\"\\ud800\"".toList

/-! ## Strings -/

/-- A piece of a quoted string: a character, or an escaped 16-bit unit. -/
inductive Piece
  | char (c : Char)
  | unit (n : Nat)
  deriving DecidableEq, Repr

/-- The unit that four hexadecimal digits spell. -/
def unit? (a b c d : Char) : Option Nat := do
  return 4096 * (← Hex.digitOf? a) + 256 * (← Hex.digitOf? b) + 16 * (← Hex.digitOf? c) +
    (← Hex.digitOf? d)

/-- The character that a letter after a backslash stands for. -/
def escaped? (letter : Char) : Option Char :=
  if letter = '/' then some '/' else (shortEscapes.find? (·.1 = letter)).map (·.2)

/-- Reads the pieces of a string up to the closing quote, after the pieces `before`
    (the latest first). -/
def scanQuoted (before : List Piece) : List Char → Option (List Piece × List Char)
  | [] => none
  | '"' :: rest => some (before.reverse, rest)
  | '\\' :: 'u' :: a :: b :: c :: d :: rest =>
    match unit? a b c d with
    | none => none
    | some n => scanQuoted (.unit n :: before) rest
  | '\\' :: letter :: rest =>
    match escaped? letter with
    | none => none
    | some c => scanQuoted (.char c :: before) rest
  | c :: rest => if c.toNat < 0x20 then none else scanQuoted (.char c :: before) rest

/-- Whether a unit is the first half of a surrogate pair. -/
def isHighHalf (n : Nat) : Bool := 0xD800 ≤ n && n ≤ 0xDBFF

/-- Whether a unit is the second half of a surrogate pair. -/
def isLowHalf (n : Nat) : Bool := 0xDC00 ≤ n && n ≤ 0xDFFF

/-- The characters that pieces stand for, after the characters `before` (the latest
    first); nothing if a unit is an unpaired half. -/
def joinUnits (before : List Char) : List Piece → Option (List Char)
  | [] => some before.reverse
  | .char c :: rest => joinUnits (c :: before) rest
  | .unit n :: .unit m :: rest =>
    if isHighHalf n then
      if isLowHalf m then
        joinUnits (Char.ofNat (0x10000 + (n - 0xD800) * 0x400 + (m - 0xDC00)) :: before) rest
      else none
    else if isLowHalf n then none
    else joinUnits (Char.ofNat n :: before) (.unit m :: rest)
  | .unit n :: rest =>
    if isHighHalf n || isLowHalf n then none else joinUnits (Char.ofNat n :: before) rest

/-! ## Numbers and names -/

/-- Reads a run of digits: one or more, and what follows. -/
def scanDigits (cs : List Char) : Option (List Nat × List Char) :=
  match cs.takeWhile Decimal.isDigit with
  | [] => none
  | ds => some (ds.filterMap Decimal.digitOf?, cs.dropWhile Decimal.isDigit)

/-- The exponent that ends a number: nothing, or a mark, a sign and digits. -/
def exponent? : List Char → Option (Option Int)
  | [] => some none
  | mark :: rest =>
    if mark = 'e' ∨ mark = 'E' then
      match rest with
      | '-' :: ds => (Decimal.nat? ds).map fun n => some (-(n : Int))
      | '+' :: ds => (Decimal.nat? ds).map fun n => some (n : Int)
      | ds => (Decimal.nat? ds).map fun n => some (n : Int)
    else none

/-- A number that a whole run of characters spells. Only a lone zero starts with a
    zero, and a point has digits on both sides. -/
def number? (cs : List Char) : Option Number := do
  let (negative, cs) := match cs with
    | '-' :: rest => (true, rest)
    | cs => (false, cs)
  let (ds, rest) ← scanDigits cs
  guard (ds.length = 1 ∨ ds.head? ≠ some 0)
  let (fraction, rest) ← match rest with
    | '.' :: rest => scanDigits rest
    | rest => some ([], rest)
  return { negative, whole := Decimal.value ds, fraction, exponent := ← exponent? rest }

/-- Whether a character can belong to a number or a name. -/
def isWordChar (c : Char) : Bool :=
  c.isAlphanum || c = '+' || c = '-' || c = '.'

/-- The token that a run of such characters spells. -/
def word? (cs : List Char) : Option Token :=
  if cs = "null".toList then some .null
  else if cs = "true".toList then some (.bool true)
  else if cs = "false".toList then some (.bool false)
  else (number? cs).map .number

/-! ## Reading -/

/-- The blanks that may stand between tokens. -/
def isGap (c : Char) : Bool := c = ' ' || c = '\t' || c = '\n' || c = '\r'

/-- The token that a character is by itself. -/
def punctuation? : Char → Option Token
  | '[' => some .openArray
  | ']' => some .closeArray
  | '\x7b' => some .openObject
  | '\x7d' => some .closeObject
  | ':' => some .colon
  | ',' => some .comma
  | _ => none

theorem length_scanQuoted {before ps : List Piece} {cs rest : List Char}
    (h : scanQuoted before cs = some (ps, rest)) : rest.length < cs.length := by
  fun_induction scanQuoted before cs <;> simp_all
  all_goals omega

theorem length_dropWhile_le {α : Type} (p : α → Bool) (xs : List α) :
    (xs.dropWhile p).length ≤ xs.length := by
  induction xs with
  | nil => simp
  | cons x xs ih => by_cases h : p x <;> simp [h]; omega

/-- Cuts a text into tokens, after the tokens `before` (the latest first). -/
def scan (before : List Token) (cs : List Char) : Option (List Token) :=
  match cs with
  | [] => some before.reverse
  | c :: rest =>
    if isGap c then scan before rest
    else if c = '"' then
      match h : scanQuoted [] rest with
      | none => none
      | some (ps, rest') =>
        have := length_scanQuoted h
        scan (.string ((joinUnits [] ps).map String.ofList) :: before) rest'
    else
      match punctuation? c with
      | some t => scan (t :: before) rest
      | none =>
        if isWordChar c then
          match word? (c :: rest.takeWhile isWordChar) with
          | none => none
          | some t =>
            have := length_dropWhile_le isWordChar rest
            scan (t :: before) (rest.dropWhile isWordChar)
        else none
termination_by cs.length
decreasing_by all_goals (simp only [List.length_cons]; omega)

/-- Cuts a text into tokens; nothing if some of it is no token. -/
def tokenize (cs : List Char) : Option (List Token) := scan [] cs

end Clickstream.Json
