/-!
# Channels

A channel carries values one way, from whoever holds its sending end to whoever
holds its receiving end, in the order in which they were sent. Either end can be
let go at any time: what was sent before the sending end was let go can still be
received, but what was not received when the receiving end is let go is lost.

* `exists_of_receive?`: what is received is the oldest value that is still in the channel.
-/

namespace Clickstream

/-- A one-way channel. -/
structure Channel (α : Type) where
  /-- What was sent and not received yet, the oldest first. -/
  queue : List α := []
  /-- Whether the sending end is held. -/
  hasSender : Bool := true
  /-- Whether the receiving end is held. -/
  hasReceiver : Bool := true
  deriving DecidableEq

namespace Channel

variable {α : Type}

/-- Sends a value, if both ends are held. -/
def send? (a : α) (c : Channel α) : Option (Channel α) :=
  if c.hasSender ∧ c.hasReceiver then some { c with queue := c.queue ++ [a] } else none

/-- Receives the oldest value, if there is one. -/
def receive? (c : Channel α) : Option (α × Channel α) :=
  match c.queue with
  | [] => none
  | a :: rest => if c.hasReceiver then some (a, { c with queue := rest }) else none

/-- Whether nothing will ever be received any more. -/
def isFinished (c : Channel α) : Bool := c.queue.isEmpty && !c.hasSender

/-- Lets go of the sending end. -/
def dropSender (c : Channel α) : Channel α := { c with hasSender := false }

/-- Lets go of the receiving end. -/
def dropReceiver (c : Channel α) : Channel α := { c with queue := [], hasReceiver := false }

theorem exists_of_receive? {c d : Channel α} {a : α} (h : c.receive? = some (a, d)) :
    ∃ rest, c.queue = a :: rest ∧ d = { c with queue := rest } := by
  cases hqueue : c.queue with
  | nil => simp [receive?, hqueue] at h
  | cons b rest =>
    simp only [receive?, hqueue] at h
    split at h <;> cases h
    exact ⟨rest, rfl, rfl⟩

end Channel

end Clickstream
