/-!
# Calls of a storage

What can be asked of a storage, and which of its three calls that is.
-/

namespace Clickstream

/-- The three calls of a storage. -/
inductive StorageCall
  | get
  | set
  | remove
  deriving DecidableEq, Repr

/-- The name in labels. -/
def StorageCall.name : StorageCall → String
  | get => "get"
  | set => "set"
  | remove => "remove"

/-- A call with what it is about. -/
inductive Call
  | get (key : String)
  | set (key value : String)
  | remove (key : String)
  deriving DecidableEq

/-- Which of the calls it is. -/
def Call.kind : Call → StorageCall
  | get _ => .get
  | set _ _ => .set
  | remove _ => .remove

end Clickstream
