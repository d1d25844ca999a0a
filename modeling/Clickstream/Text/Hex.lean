/-!
# Hexadecimal digits

Digits are written in lowercase and read in either case.
-/

namespace Clickstream.Hex

/-- The lowercase hexadecimal digit of a number below 16. -/
def digitChar (d : Nat) : Char :=
  if d < 10 then Char.ofNat (48 + d) else Char.ofNat (87 + d)

/-- The number that a hexadecimal digit of either case stands for. -/
def digitOf? (c : Char) : Option Nat :=
  let n := c.toNat
  if 48 ≤ n ∧ n ≤ 57 then some (n - 48)
  else if 97 ≤ n ∧ n ≤ 102 then some (n - 87)
  else if 65 ≤ n ∧ n ≤ 70 then some (n - 55)
  else none

theorem digitOf?_digitChar : ∀ d : Fin 16, digitOf? (digitChar d.val) = some d.val := by decide

/-- The number that digits of a base up to 16 spell; no digits spell zero. -/
def valueIn? (base : Nat) (cs : List Char) : Option Nat :=
  cs.foldlM (fun n c => (digitOf? c).bind fun d => if d < base then some (base * n + d) else none) 0

end Clickstream.Hex
