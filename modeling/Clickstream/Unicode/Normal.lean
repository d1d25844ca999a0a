import Clickstream.Unicode.Composition

/-!
# The composed form of a text

Texts that look the same may be written in several ways. The composed form is one
of them: every character is taken apart, marks are put in the order of their
classes, and then everything is put together again that can be.
-/

namespace Clickstream.Unicode

/-- How often a character can be taken apart one after the other. -/
def maxDecompositions : Nat := 4

/-- The characters that make up one, at most so many times over. -/
def decomposeChar : Nat → Char → List Char
  | 0, c => [c]
  | n + 1, c =>
    match decompose? c with
    | some (a, b) => decomposeChar n a ++ [b]
    | none => [c]

/-- Puts a mark behind the marks before it that have no higher class. -/
def insertMark (c : Char) : List Char → List Char
  | [] => [c]
  | d :: rest =>
    if combiningClass c < combiningClass d then d :: insertMark c rest else c :: d :: rest

/-- Puts marks in the order of their classes. What is before the marks comes last in
    `before`. -/
def sortMarks (before : List Char) : List Char → List Char
  | [] => before.reverse
  | c :: rest =>
    if combiningClass c = 0 then sortMarks (c :: before) rest
    else
      let marks := before.takeWhile (combiningClass · ≠ 0)
      sortMarks (insertMark c marks ++ before.dropWhile (combiningClass · ≠ 0)) rest

/-- Puts together what can be: `starter` is the last character that is no mark,
    `between` what stands between it and the rest, the latest first. -/
def composeFrom (starter : Char) (between : List Char) : List Char → List Char
  | [] => starter :: between.reverse
  | c :: rest =>
    let rank := combiningClass c
    let isBlocked := match between with
      | [] => false
      | d :: _ => rank ≤ combiningClass d
    match if isBlocked then none else compose? starter c with
    | some joined => composeFrom joined between rest
    | none =>
      if rank = 0 then starter :: between.reverse ++ composeFrom c [] rest
      else composeFrom starter (c :: between) rest

/-- Puts together what can be, from the first character that is no mark. -/
def composeAll : List Char → List Char
  | [] => []
  | c :: rest => if combiningClass c = 0 then composeFrom c [] rest else c :: composeAll rest

/-- The composed form of a text. -/
def composed (cs : List Char) : List Char :=
  composeAll (sortMarks [] (cs.flatMap (decomposeChar maxDecompositions)))

end Clickstream.Unicode
