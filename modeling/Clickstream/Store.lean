import Clickstream.Metrics
import Clickstream.SiteState

/-!
# Stores

A store keeps the site state between operations of the tracker. What it holds
may be anything; a `Store σ` is how to read, write and clear it, on a state `σ`
of its own. Each call also says what it measured.

A store need not be atomic: after a call that failed, some of the state may be
written.
-/

namespace Clickstream

/-- What a call gave, what it measured, and the state after it. -/
structure Outcome (ε α σ : Type) where
  result : Except ε α
  log : Log := []
  state : σ

/-- The calls of a store. -/
structure Store (σ : Type) where
  get : σ → Outcome SiteStateError SiteState σ
  set : SiteState → σ → Outcome SiteStateError SiteState σ
  clear : σ → Outcome SiteStateError SiteState σ

end Clickstream
