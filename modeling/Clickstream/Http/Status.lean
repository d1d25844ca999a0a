import Clickstream.Delivery

/-!
# Status codes

A response to a delivery over HTTP is judged by its status alone: the two hundreds
accept the batch, and every other status is a failure of some kind. What cannot
be told apart better counts as no answer in time.
-/

namespace Clickstream.Http

/-- A status code: a number of three digits. -/
structure Status where
  code : Nat
  isThreeDigits : 100 ≤ code ∧ code < 1000
  deriving DecidableEq

namespace Status

/-- The status with the given code. -/
def ofCode? (code : Nat) : Option Status :=
  if h : 100 ≤ code ∧ code < 1000 then some ⟨code, h⟩ else none

/-- The kind of failure that a status means; nothing if the batch was accepted. -/
def failure? (s : Status) : Option FailureKind :=
  if 200 ≤ s.code ∧ s.code < 300 then none
  else some <|
    if s.code = 400 then .badRequest
    else if s.code = 401 ∨ s.code = 403 then .configuration
    else if s.code = 408 ∨ s.code = 504 then .timeout
    else if 500 ≤ s.code ∧ s.code < 600 then .server
    else .timeout

end Status

end Clickstream.Http
