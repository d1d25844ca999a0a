/-!
# Numbers that keep 53 bits

Measurements and numbers with a fraction pass through the double-precision
format, which keeps 53 significant bits. `nearest` is the number that a whole
number becomes there: the nearer neighbour, and of two equally near ones the one
whose last kept bit is zero. `isInfinite` says which products are too large for
the format.

* `nearest_of_lt`: below `2 ^ 53` nothing changes.
-/

namespace Clickstream.Binary64

/-- The quotient by `2 ^ s`, rounded to the nearest number, ties to even. -/
def roundShift (n s : Nat) : Nat :=
  let q := n / Nat.pow 2 s
  let r := n % Nat.pow 2 s
  let half := Nat.pow 2 s / 2
  if r > half then q + 1
  else if r = half ∧ s ≠ 0 ∧ q % 2 = 1 then q + 1
  else q

/-- The number with 53 significant bits that is nearest to `n`. -/
def nearest (n : Nat) : Nat :=
  if n < Nat.pow 2 53 then n
  else
    let s := n.log2 - 52
    roundShift n s * Nat.pow 2 s

/-- Whether a number that is to be rounded lies beyond the largest finite one. -/
def isInfinite (n : Nat) : Bool := Nat.pow 2 1024 - Nat.pow 2 970 ≤ n

theorem nearest_of_lt {n : Nat} (h : n < Nat.pow 2 53) : nearest n = n := if_pos h

end Clickstream.Binary64
