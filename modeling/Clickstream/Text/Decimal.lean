/-!
# Decimal digits

Whole numbers are written in decimal with no leading zeros.

* `value_digits`: the digits of a number spell that number;
* `nat?_chars`: what is written reads back.
-/

namespace Clickstream.Decimal

/-- The decimal digits of a number, the highest first. -/
def digits (n : Nat) : List Nat :=
  if n < 10 then [n] else digits (n / 10) ++ [n % 10]

/-- The number that a list of decimal digits spells. -/
def value (ds : List Nat) : Nat := ds.foldl (fun n d => 10 * n + d) 0

/-- The character of a digit. -/
def digitChar (d : Nat) : Char := Char.ofNat (48 + d)

/-- The digit that a character stands for. -/
def digitOf? (c : Char) : Option Nat :=
  if 48 ≤ c.toNat ∧ c.toNat ≤ 57 then some (c.toNat - 48) else none

/-- Whether a character is a decimal digit. -/
def isDigit (c : Char) : Bool := (digitOf? c).isSome

/-- A number as it is written. -/
def chars (n : Nat) : List Char := (digits n).map digitChar

/-- Reads a number: one digit or more, and nothing else. -/
def nat? (cs : List Char) : Option Nat :=
  if cs.isEmpty then none else (cs.mapM digitOf?).map value

theorem value_digits (n : Nat) : value (digits n) = n := by
  induction n using digits.induct with
  | case1 n h => rw [digits, if_pos h]; simp [value]
  | case2 n h ih =>
    rw [digits, if_neg h]
    simp only [value, List.foldl_append, List.foldl_cons, List.foldl_nil] at ih ⊢
    rw [ih]
    omega

theorem lt_of_mem_digits {n d : Nat} (h : d ∈ digits n) : d < 10 := by
  induction n using digits.induct with
  | case1 n hn => rw [digits, if_pos hn, List.mem_singleton] at h; omega
  | case2 n hn ih =>
    rw [digits, if_neg hn] at h
    rcases List.mem_append.1 h with h | h
    · exact ih h
    · rw [List.mem_singleton.1 h]; exact Nat.mod_lt _ (by decide)

theorem digits_ne_nil (n : Nat) : digits n ≠ [] := by
  rw [digits]; split <;> simp

theorem digitOf?_digitChar : ∀ d : Fin 10, digitOf? (digitChar d.val) = some d.val := by decide

theorem mapM_digitOf? {ds : List Nat} (h : ∀ d ∈ ds, d < 10) :
    (ds.map digitChar).mapM digitOf? = some ds := by
  induction ds with
  | nil => rfl
  | cons d ds ih =>
    have hd := digitOf?_digitChar ⟨d, h d List.mem_cons_self⟩
    simp only at hd
    rw [List.map_cons, List.mapM_cons, hd, ih fun e he => h e (List.mem_cons_of_mem _ he)]
    rfl

theorem nat?_chars (n : Nat) : nat? (chars n) = some n := by
  have hne : (chars n).isEmpty = false := by simp [chars, digits_ne_nil]
  rw [nat?, hne, chars, mapM_digitOf? fun _ => lt_of_mem_digits]
  simp [value_digits]

end Clickstream.Decimal
