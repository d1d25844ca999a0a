import Clickstream.Unicode.Invisible

/-!
# Quoted texts

How a log shows a text that stands inside a larger value: in quotes, with
backslashes before quotes and backslashes, the usual letters for line ends and
tabs, and every other character that does not show by itself by its number.
-/

namespace Clickstream.Quoted

/-- The lowercase hexadecimal digits of a number. -/
def hex (n : Nat) : List Char := Nat.toDigits 16 n

/-- A character as it stands between quotes. -/
def escaped (c : Char) : List Char :=
  match c with
  | '"' => ['\\', '"']
  | '\\' => ['\\', '\\']
  | '\n' => ['\\', 'n']
  | '\r' => ['\\', 'r']
  | '\t' => ['\\', 't']
  | '\x00' => ['\\', '0']
  | c =>
    if Unicode.isInvisible c then "\\u\x7b".toList ++ hex c.toNat ++ ['\x7d']
    else [c]

/-- A text in quotes. -/
def render (s : String) : String :=
  String.ofList ('"' :: s.toList.flatMap escaped ++ ['"'])

end Clickstream.Quoted
