import Clickstream.Text.Split
import Clickstream.Unicode.Direction
import Clickstream.Unicode.Joining
import Clickstream.Unicode.Mark
import Clickstream.Unicode.Normal
import Clickstream.Url.Idna.Mapping
import Clickstream.Url.Punycode

/-!
# Host names in ASCII

A host name may be written in any script; on the wire it is in ASCII. Its
characters are mapped (`mapped?`) and composed, and it is cut into labels at its
dots. A label that says that it is already in ASCII form is read back. Every label
must then be valid (`isValidLabel`), and if one of them has a letter that is written
from right to left, all of them must be readable in one direction (`isOneWay`).
Labels outside ASCII are put into ASCII form.

Labels may be of any length and may have hyphens anywhere.
-/

namespace Clickstream.Idna

open Unicode

/-- What the ASCII form of a label begins with. -/
def asciiOpening : List Char := "xn--".toList

/-- Longer labels are not put into ASCII form. -/
def maxLabel : Nat := 1000

/-- Longer labels are not read back from their ASCII form. -/
def maxAsciiForm : Nat := 2000

/-- The ASCII characters that a host name must not have. -/
def forbidden : List Char := " %#/:<>?@[\\]^|".toList

/-- Whether a character is in ASCII. -/
def isAscii (c : Char) : Bool := c.toNat < 128

/-- Whether a character may stand in a host name as it is. -/
def isAllowed (c : Char) : Bool :=
  if isAscii c then 32 < c.toNat && c.toNat ≠ 127 && !forbidden.contains c
  else fate c = .kept

/-- A name in which every character is replaced by what becomes of it. -/
def mapped? (cs : List Char) : Option (List Char) := do
  let parts ← cs.mapM fun c => match fate c with
    | .kept => some [c]
    | .dropped => some []
    | .replaced others => some others
    | .disallowed => none
  return parts.flatten

/-! ## Labels -/

/-- The marks that hide a vowel have this class. -/
def vowelKiller : Nat := 9

/-- Whether a character hides the vowel of the letter before it. -/
def killsVowel (c : Char) : Bool := combiningClass c = vowelKiller

/-- Whether letters on both sides of a place would be joined there. -/
def joinsAcross (before after : List Char) : Bool :=
  (before.dropWhile isTransparent).head?.any isJoinedAfter &&
    (after.dropWhile isTransparent).head?.any isJoinedBefore

/-- Whether characters that only join or part their neighbours stand where that
    makes a difference; `before` is what comes before, the last character first. -/
def joinersInPlace (before : List Char) : List Char → Bool
  | [] => true
  | c :: rest =>
    let inPlace :=
      if c = '\u200d' then before.head?.any killsVowel
      else if c = '\u200c' then before.head?.any killsVowel || joinsAcross before rest
      else true
    inPlace && joinersInPlace (c :: before) rest

/-- Whether a label is valid. -/
def isValidLabel (cs : List Char) : Bool :=
  cs.all isAllowed && !cs.head?.any isMark && joinersInPlace [] cs

/-- Whether a label begins like an ASCII form. -/
def hasAsciiOpening (cs : List Char) : Bool := cs.take 4 = asciiOpening

/-- The label that an ASCII form stands for. It must be in the form in which labels
    are put into ASCII, and not all in ASCII; but it may begin like an ASCII form
    itself. -/
def readBack? (cs : List Char) : Option (List Char) := do
  let digits := cs.drop 4
  guard (digits.length ≤ maxAsciiForm ∧ digits.all isAscii ∧ digits.getLast? ≠ some '-')
  let label ← Punycode.decode? digits
  guard (label.all isAllowed ∧ composed label = label ∧ !label.all isAscii)
  return label

/-- A label, read back if it is in ASCII form. -/
def label? (cs : List Char) : Option (List Char) := do
  let label ← if hasAsciiOpening cs then readBack? cs else some cs
  guard (isValidLabel label)
  return label

/-- The ASCII form of a label. -/
def asciiForm? (cs : List Char) : Option (List Char) :=
  if cs.all isAscii then some cs
  else if cs.length ≤ maxLabel then some (asciiOpening ++ Punycode.encode cs)
  else none

/-! ## Directions -/

/-- Whether a character makes a name one that is read from right to left in part. -/
def isFromRight (c : Char) : Bool :=
  match direction c with
  | .rightToLeft | .arabicLetter | .arabicNumber => true
  | _ => false

/-- What may stand in labels of both directions. -/
def isCommon : Direction → Bool
  | .europeanNumber | .europeanSeparator | .europeanTerminator | .commonSeparator | .mark
  | .boundary | .neutral => true
  | _ => false

/-- Whether a label can be read in one direction. -/
def isOneWay (cs : List Char) : Bool :=
  let ds := cs.map direction
  let last := (ds.reverse.dropWhile (· = .mark)).head?
  match ds.head? with
  | none => true
  | some .leftToRight =>
    ds.all (fun d => d = .leftToRight || isCommon d) &&
      last.any fun d => d = .leftToRight || d = .europeanNumber
  | some .rightToLeft | some .arabicLetter =>
    let fromRight (d : Direction) := d = .rightToLeft || d = .arabicLetter || d = .arabicNumber
    ds.all (fun d => fromRight d || isCommon d) &&
      last.any (fun d => fromRight d || d = .europeanNumber) &&
      !(ds.contains .europeanNumber && ds.contains .arabicNumber)
  | some _ => false

/-! ## Names -/

/-- Labels with dots between them. -/
def joinLabels : List (List Char) → List Char
  | [] => []
  | [label] => label
  | label :: rest => label ++ '.' :: joinLabels rest

/-- The ASCII form of a name. -/
def toAscii? (cs : List Char) : Option (List Char) := do
  let labels ← (splitAt (· = '.') (composed (← mapped? cs))).mapM label?
  guard (!labels.any (·.any isFromRight) || labels.all isOneWay)
  return joinLabels (← labels.mapM asciiForm?)

end Clickstream.Idna
