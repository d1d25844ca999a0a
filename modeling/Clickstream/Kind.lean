/-!
# Kinds of activity

Everything that is tracked is of one of four kinds, ranked from 1 to 4: a
*visitor* (a browser that is known again), a *session* of that visitor, an
*area* of a page that the session looked at, and a *click* inside that area.
The rank is what is sent; the name is what people read. An area is called a
`section` in everything that is written.

Each kind but the first hangs on the kind one rank below it
(`rank_of_parent?`), so the kinds form one chain.
-/

namespace Clickstream

/-- The four kinds of tracked activity. -/
inductive Kind
  | visitor
  | session
  | area
  | click
  deriving DecidableEq, Repr

namespace Kind

/-- The position in the chain, from 1 for a visitor to 4 for a click. -/
def rank : Kind → Nat
  | visitor => 1
  | session => 2
  | area => 3
  | click => 4

/-- The kind with the given rank. -/
def ofRank? : Nat → Option Kind
  | 1 => some visitor
  | 2 => some session
  | 3 => some area
  | 4 => some click
  | _ => none

/-- The name in messages, labels and logs. -/
def name : Kind → String
  | visitor => "visitor"
  | session => "session"
  | area => "section"
  | click => "click"

/-- The kind that activity of this kind hangs on. -/
def parent? : Kind → Option Kind
  | visitor => none
  | session => some visitor
  | area => some session
  | click => some area

/-- Whether the kind starts a chain. -/
def isRoot : Kind → Bool
  | visitor => true
  | _ => false

/-- Whether nothing can hang on the kind. -/
def isLeaf : Kind → Bool
  | click => true
  | _ => false

/-- All kinds, in the order of their ranks. -/
def all : List Kind := [visitor, session, area, click]

theorem ofRank?_rank (k : Kind) : ofRank? k.rank = some k := by cases k <;> rfl

theorem rank_of_parent? {k p : Kind} (h : k.parent? = some p) : k.rank = p.rank + 1 := by
  cases k <;> cases h <;> rfl

end Kind

end Clickstream
