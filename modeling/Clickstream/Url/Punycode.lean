/-!
# Punycode

A label of a host name with characters outside ASCII can be written in ASCII. The
ASCII characters come first, and after a hyphen the others follow, in the order of
their numbers: for each the number of steps from the one before it to its place,
where a step passes one position of the text or, at its end, goes on to the next
higher number. Numbers are written with 36 digits, the lowest first; the digits that
may end a number depend on a threshold, which adapts to the numbers before.

* `threshold_pos`: a threshold is at least 1, so writing a number ends.
-/

namespace Clickstream.Punycode

/-- The lowest number of a character outside ASCII. -/
def firstNumber : Nat := 128

/-- Where the threshold stands at first. -/
def firstBias : Nat := 72

/-- The digits: letters, then figures. -/
def digitChar (d : Nat) : Char := if d < 26 then Char.ofNat (97 + d) else Char.ofNat (22 + d)

/-- The value of a digit, in either case. -/
def digitOf? (c : Char) : Option Nat :=
  let n := c.toNat
  if 97 ≤ n ∧ n ≤ 122 then some (n - 97)
  else if 65 ≤ n ∧ n ≤ 90 then some (n - 65)
  else if 48 ≤ n ∧ n ≤ 57 then some (n - 22)
  else none

/-- The threshold for the digit at a position, which is a multiple of 36. -/
def threshold (position bias : Nat) : Nat :=
  if position ≤ bias then 1 else min 26 (position - bias)

theorem threshold_pos (position bias : Nat) : 0 < threshold position bias := by
  unfold threshold
  split <;> omega

/-- Divides by 35 until the rest is small, and counts 36 for each time. -/
def scale (delta position : Nat) : Nat × Nat :=
  if delta ≤ 455 then (delta, position) else scale (delta / 35) (position + 36)
termination_by delta
decreasing_by omega

/-- The bias after a number of steps that placed the `count`-th character. -/
def adapt (delta count : Nat) (isFirst : Bool) : Nat :=
  let delta := if isFirst then delta / 700 else delta / 2
  let (delta, position) := scale (delta + delta / count) 0
  position + 36 * delta / (delta + 38)

/-! ## Writing -/

/-- A number, from the digit at a position on. -/
def writeNumber (bias position n : Nat) : List Char :=
  let t := threshold position bias
  if n < t then [digitChar n]
  else digitChar (t + (n - t) % (36 - t)) :: writeNumber bias (position + 36) ((n - t) / (36 - t))
termination_by n
decreasing_by
  have := threshold_pos position bias
  exact Nat.lt_of_le_of_lt (Nat.div_le_self _ _) (by omega)

/-- What the writer knows between two characters. -/
structure Writer where
  /-- The text so far, the last character first. -/
  written : List Char
  /-- The steps since the last character that was placed. -/
  delta : Nat
  bias : Nat
  /-- How many characters are placed. -/
  placed : Nat

/-- Passes a character of the text while those with number `m` are placed; `basic`
    characters were placed to begin with. -/
def Writer.pass (basic m : Nat) (w : Writer) (c : Char) : Writer :=
  if c.toNat < m then { w with delta := w.delta + 1 }
  else if c.toNat = m then {
    written := (writeNumber w.bias 36 w.delta).reverse ++ w.written
    delta := 0
    bias := adapt w.delta (w.placed + 1) (w.placed == basic)
    placed := w.placed + 1 }
  else w

/-- Places the characters with the given numbers, which ascend; `reached` is the number
    that the steps have come to. -/
def Writer.place (cs : List Char) (basic : Nat) : List Nat → Nat → Writer → Writer
  | [], _, w => w
  | m :: rest, reached, w =>
    let w := { w with delta := w.delta + (m - reached) * (w.placed + 1) }
    let w := cs.foldl (Writer.pass basic m) w
    Writer.place cs basic rest (m + 1) { w with delta := w.delta + 1 }

/-- A text in ASCII. -/
def encode (cs : List Char) : List Char :=
  let basic := cs.filter (·.toNat < firstNumber)
  let others := ((cs.filter (firstNumber ≤ ·.toNat)).map Char.toNat).mergeSort.eraseDups
  let opening := if basic.isEmpty then [] else basic ++ ['-']
  let w := Writer.place cs basic.length others firstNumber
    { written := opening.reverse, delta := 0, bias := firstBias, placed := basic.length }
  w.written.reverse

/-! ## Reading -/

/-- Numbers do not exceed this. -/
def bound : Nat := Nat.pow 2 32

/-- What the reader knows between two digits: the characters in their places, and
    the number that is being read. -/
structure Reader where
  text : List Char
  /-- The number and place that the last character had. -/
  number : Nat := firstNumber
  place : Nat := 0
  bias : Nat := firstBias
  /-- The steps so far of the number that is being read. -/
  sum : Nat := 0
  weight : Nat := 1
  position : Nat := 36

/-- Puts a character in its place after the last digit of a number. -/
def Reader.put? (r : Reader) : Option Reader := do
  let count := r.text.length + 1
  let steps := r.place + r.sum
  let number := r.number + steps / count
  let place := steps % count
  guard (steps < bound ∧ Nat.isValidChar number)
  return {
    text := r.text.insertIdx place (Char.ofNat number)
    number
    place := place + 1
    bias := adapt r.sum count (r.place == 0) }

/-- Takes a digit. -/
def Reader.step? (r : Reader) (c : Char) : Option Reader := do
  let d ← digitOf? c
  let sum := r.sum + d * r.weight
  guard (sum < bound)
  let t := threshold r.position r.bias
  if d < t then Reader.put? { r with sum }
  else
    let weight := r.weight * (36 - t)
    guard (weight < bound)
    return { r with sum, weight, position := r.position + 36 }

/-- The text before the last hyphen and the text after it; with nothing before a
    hyphen, all is after it. -/
def atLastHyphen (cs : List Char) : List Char × List Char :=
  let digits := (cs.reverse.takeWhile (· ≠ '-')).reverse
  let basic := cs.take (cs.length - digits.length - 1)
  if basic.isEmpty then ([], cs) else (basic, digits)

/-- The text that stands for another one. -/
def decode? (cs : List Char) : Option (List Char) := do
  let (basic, digits) := atLastHyphen cs
  let r ← digits.foldlM Reader.step? { text := basic }
  guard (r.position = 36)
  return r.text

end Clickstream.Punycode
