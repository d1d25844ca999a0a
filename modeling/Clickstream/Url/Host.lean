import Clickstream.Text.Decimal
import Clickstream.Text.Hex
import Clickstream.Text.Split
import Clickstream.Text.Utf8
import Clickstream.Url.Idna

/-!
# Hosts

The host of a URL is a name, an IPv4 address or an IPv6 address. What is between
brackets must be an IPv6 address. All else is a name: percent escapes are
decoded, the name is brought into its ASCII form, and if its last part looks like
a number, the whole must be an IPv4 address. Those may be written with one to four
parts, each in decimal, octal or hexadecimal, of which the last fills the bytes
that are left.
-/

namespace Clickstream

/-- The host of a URL. -/
inductive Host
  | name (labels : List Char)
  | ipv4 (address : Nat)
  | ipv6 (pieces : List Nat)
  deriving DecidableEq, Repr

namespace Host

/-- The bytes of a text in which `%` and two hexadecimal digits stand for a byte.
    A `%` without them stands for itself. -/
def percentDecode : List Char → List UInt8
  | '%' :: a :: b :: rest =>
    match Hex.digitOf? a, Hex.digitOf? b with
    | some x, some y => UInt8.ofNat (16 * x + y) :: percentDecode rest
    | _, _ => 0x25 :: percentDecode (a :: b :: rest)
  | c :: rest => String.utf8EncodeChar c ++ percentDecode rest
  | [] => []

/-! ## IPv4 -/

/-- What a part of an IPv4 address is. -/
inductive Part
  | number (n : Nat)
  | tooLarge
  | notANumber
  deriving DecidableEq, Repr

/-- Reads a part: hexadecimal after `0x`, octal after a leading zero, and decimal
    otherwise. No digits after `0x` spell zero. -/
def part (cs : List Char) : Part :=
  let (base, digits) := match cs with
    | '0' :: 'x' :: rest => (16, rest)
    | '0' :: 'X' :: rest => (16, rest)
    | '0' :: c :: rest => (8, c :: rest)
    | cs => (10, cs)
  if cs.isEmpty then .notANumber
  else match Hex.valueIn? base digits with
    | none => .notANumber
    | some n => if n < Nat.pow 2 32 then .number n else .tooLarge

/-- The parts of a name between its dots, without an empty last one. -/
def dotted (cs : List Char) : List (List Char) :=
  let parts := splitAt (· = '.') cs
  if 1 < parts.length ∧ parts.getLast? = some [] then parts.dropLast else parts

/-- Whether the last part of a name is a number, however large. -/
def endsInNumber (cs : List Char) : Bool :=
  match (dotted cs).getLast? with
  | none => false
  | some last => (!last.isEmpty && last.all Decimal.isDigit) || part last ≠ .notANumber

/-- Reads an IPv4 address. -/
def ipv4? (cs : List Char) : Option Nat := do
  let parts := dotted cs
  guard (parts.length ≤ 4)
  let numbers ← parts.mapM fun p => match part p with
    | .number n => some n
    | _ => none
  let last ← numbers.getLast?
  let leading := numbers.dropLast
  guard (leading.all (· < 256))
  guard (last < Nat.pow 256 (4 - leading.length))
  return leading.foldr (fun n (sum, weight) => (sum + n * weight, weight * 256))
    (last, Nat.pow 256 (4 - leading.length)) |>.1

/-! ## IPv6 -/

/-- The number that one to four hexadecimal digits spell. -/
def piece? (cs : List Char) : Option Nat :=
  if cs.isEmpty ∨ 4 < cs.length then none else Hex.valueIn? 16 cs

/-- The two pieces that a dotted IPv4 address at the end of an IPv6 address makes:
    four decimal numbers below 256 without leading zeros. -/
def embedded? (cs : List Char) : Option (List Nat) :=
  match (splitAt (· = '.') cs).mapM (fun p =>
      if p.length = 1 ∨ p.head? ≠ some '0' then (Decimal.nat? p).filter (· < 256) else none) with
  | some [a, b, c, d] => some [256 * a + b, 256 * c + d]
  | _ => none

/-- The pieces between single colons; the last may be an IPv4 address. -/
def pieces? : List (List Char) → Option (List Nat)
  | [] => some []
  | [last] => if last.contains '.' then embedded? last else (piece? last).map ([·])
  | p :: rest => do return (← piece? p) :: (← pieces? rest)

/-- The text before the first double colon and the text after it. -/
def atDoubleColon : List Char → Option (List Char × List Char)
  | ':' :: ':' :: rest => some ([], rest)
  | c :: rest => (atDoubleColon rest).map fun (before, after) => (c :: before, after)
  | [] => none

/-- The pieces of one side of a double colon; an empty side has none. -/
def side? (cs : List Char) : Option (List Nat) :=
  if cs.isEmpty then some [] else pieces? (splitAt (· = ':') cs)

/-- Reads an IPv6 address: eight pieces, of which one run of zeros, at least one
    long, may be left out at a double colon. -/
def ipv6? (cs : List Char) : Option (List Nat) := do
  match atDoubleColon cs with
  | none =>
    let pieces ← pieces? (splitAt (· = ':') cs)
    guard (pieces.length = 8)
    return pieces
  | some (before, after) =>
    guard (!before.contains '.')
    let front ← side? before
    let back ← side? after
    guard (front.length + back.length ≤ 7)
    return front ++ List.replicate (8 - front.length - back.length) 0 ++ back

/-! ## Any host -/

/-- Reads a host. -/
def parse? (cs : List Char) : Option Host :=
  match cs with
  | '[' :: rest =>
    if rest.getLast? = some ']' then (ipv6? rest.dropLast).map .ipv6 else none
  | _ => do
    let name ← Idna.toAscii? (← Utf8.decode? (percentDecode cs))
    guard (!name.isEmpty)
    if endsInNumber name then (ipv4? name).map .ipv4 else some (.name name)

end Host

end Clickstream
