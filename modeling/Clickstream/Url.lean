import Clickstream.Url.Host

/-!
# URLs

Addresses with the scheme `http` or `https`, read the way browsers read them:

* control characters and blanks at the two ends, and tabs and line ends anywhere,
  are passed over; a backslash counts as a slash;
* after the scheme and its colon any number of slashes may stand;
* up to the next slash, `?` or `#` stands the authority: after the last `@` the
  host and a port, before it the user and a password;
* the path is cut at its slashes; a segment `.` is dropped and a segment `..`
  drops the one before it, also where the dots are written `%2e`; but the name of a
  drive, a letter with a colon or bar, is never dropped.

`Url.parse?` gives nothing for any other scheme and for a text that is no URL.
-/

namespace Clickstream

/-- The schemes that can be posted to. -/
inductive Scheme
  | http
  | https
  deriving DecidableEq, Repr

/-- The port that a scheme stands for by itself. -/
def Scheme.defaultPort : Scheme → Nat
  | http => 80
  | https => 443

/-- An address in its parts. -/
structure Url where
  scheme : Scheme
  user : List Char
  password : List Char
  host : Host
  /-- The port, if it is not the scheme's own. -/
  port : Option Nat
  path : List (List Char)
  query : Option (List Char)
  fragment : Option (List Char)
  deriving DecidableEq, Repr

namespace Url

/-- Control characters and the blank. -/
def isEdge (c : Char) : Bool := c.toNat ≤ 0x20

/-- Characters that are passed over wherever they stand. -/
def isIgnored (c : Char) : Bool := c = '\t' || c = '\n' || c = '\r'

/-- The text that is read. -/
def clean (cs : List Char) : List Char :=
  (((cs.dropWhile isEdge).reverse.dropWhile isEdge).reverse).filter fun c => !isIgnored c

/-- Whether a character separates the parts of a path. -/
def isSlash (c : Char) : Bool := c = '/' || c = '\\'

/-- Whether a character ends the authority. -/
def endsAuthority (c : Char) : Bool := isSlash c || c = '?' || c = '#'

/-- The scheme that a text starts with, and what follows its colon. -/
def scheme? (cs : List Char) : Option (Scheme × List Char) :=
  match cs.dropWhile (· ≠ ':') with
  | [] => none
  | _ :: rest =>
    match String.ofList ((cs.takeWhile (· ≠ ':')).map Char.toLower) with
    | "http" => some (.http, rest)
    | "https" => some (.https, rest)
    | _ => none

/-- The text before the last character `c`, if there is one, and the text after it. -/
def atLast (c : Char) (cs : List Char) : Option (List Char) × List Char :=
  let tail := (cs.reverse.takeWhile (· ≠ c)).reverse
  if tail.length = cs.length then (none, cs)
  else (some (cs.take (cs.length - tail.length - 1)), tail)

/-- The host in an authority, up to a colon that is not in brackets, and what
    follows that colon. -/
def atPort (inBrackets : Bool) : List Char → List Char × Option (List Char)
  | [] => ([], none)
  | c :: rest =>
    if c = ':' ∧ !inBrackets then ([], some rest)
    else
      let (host, port) :=
        atPort (if c = '[' then true else if c = ']' then false else inBrackets) rest
      (c :: host, port)

/-- Reads a port. An empty one, and the scheme's own, are none. -/
def port? (scheme : Scheme) : Option (List Char) → Option (Option Nat)
  | none | some [] => some none
  | some ds => do
    let n ← Decimal.nat? ds
    guard (n < Nat.pow 2 16)
    return if n = scheme.defaultPort then none else some n

/-! ## Paths -/

/-- A segment in lowercase with dots for their escapes. -/
def plainDots : List Char → List Char
  | '%' :: '2' :: 'e' :: rest => '.' :: plainDots rest
  | '%' :: '2' :: 'E' :: rest => '.' :: plainDots rest
  | c :: rest => c :: plainDots rest
  | [] => []

/-- Whether a segment is the name of a drive. -/
def isDrive : List Char → Bool
  | [letter, mark] => letter.isAlpha && (mark = ':' || mark = '|')
  | _ => false

/-- The path so far without its latest segment. -/
def shorten (before : List (List Char)) : List (List Char) :=
  if before.head?.any isDrive then before else before.tail

/-- The path so far (the latest segment first) after one more segment. At the end
    of a path the dot segments leave an empty one. -/
def addSegment (before : List (List Char)) (segment : List Char) (isLast : Bool) :
    List (List Char) :=
  let dots := plainDots segment
  if dots = ['.', '.'] then if isLast then [] :: shorten before else shorten before
  else if dots = ['.'] then if isLast then [] :: before else before
  else segment :: before

/-- The path that segments make, after the path so far. -/
def resolve (before : List (List Char)) : List (List Char) → List (List Char)
  | [] => before.reverse
  | [last] => (addSegment before last true).reverse
  | s :: rest => resolve (addSegment before s false) rest

/-- Reads a path. There always is one. -/
def readPath (cs : List Char) : List (List Char) :=
  match cs with
  | [] => [[]]
  | c :: rest => resolve [] (splitAt isSlash (if isSlash c then rest else c :: rest))

/-! ## The whole -/

/-- The text up to a character, and the text after it if it is there. -/
def upTo (c : Char) (cs : List Char) : List Char × Option (List Char) :=
  match cs.dropWhile (· ≠ c) with
  | [] => (cs, none)
  | _ :: rest => (cs.takeWhile (· ≠ c), some rest)

/-- Reads an address from characters. -/
def ofChars? (cs : List Char) : Option Url := do
  let (scheme, rest) ← scheme? (clean cs)
  let rest := rest.dropWhile isSlash
  let (userinfo, authority) := atLast '@' (rest.takeWhile fun c => !endsAuthority c)
  let (host, portText) := atPort false authority
  guard (!host.isEmpty)
  let (user, password) := upTo ':' (userinfo.getD [])
  let (beforeFragment, fragment) := upTo '#' (rest.dropWhile fun c => !endsAuthority c)
  let (pathText, query) := upTo '?' beforeFragment
  return {
    scheme
    user
    password := password.getD []
    host := ← Host.parse? host
    port := ← port? scheme portText
    path := readPath pathText
    query
    fragment }

/-- Reads an address. -/
def parse? (s : String) : Option Url := ofChars? s.toList

/-- Whether an address names a site and nothing on it: the path is `/`, and there
    is no query and no fragment. -/
def isOrigin (u : Url) : Bool := u.path = [[]] && u.query.isNone && u.fragment.isNone

end Url

end Clickstream
