import Clickstream.Reference

/-!
# Fresh ids

Ids are minted from an infinite sequence, of which the first so many have been
taken.
-/

namespace Clickstream

/-- A sequence of fresh ids, and how many of them were taken. -/
structure Supply where
  ids : Nat → FreshId
  taken : Nat := 0

/-- The next id. -/
def Supply.take (s : Supply) : FreshId × Supply := (s.ids s.taken, { s with taken := s.taken + 1 })

end Clickstream
