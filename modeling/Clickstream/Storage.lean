import Clickstream.Json.Codec
import Clickstream.Storage.Call
import Clickstream.Text.Blank
import Clickstream.Text.Map
import Clickstream.Text.Utf8
import Clickstream.Wire

/-!
# Storages

A storage keeps texts under keys. It is held in memory, or in a file that holds
one JSON object of strings and is read and written as a whole by every call; a
file that is missing or blank holds nothing. A file that holds anything else is
corrupt: every call fails and leaves it as it is.

Calls may also fail for a reason of their own, before they reach what holds the
entries (`Backend.fault`).
-/

namespace Clickstream

/-- Why a call of a storage failed. -/
inductive StorageError
  /-- The file could not be read or written. -/
  | io (path cause : String)
  /-- The file is no JSON object of strings. -/
  | corrupt (path cause : String)
  /-- The API key is blank. -/
  | blankKey
  deriving DecidableEq

/-- The wording of an error. -/
def StorageError.message : StorageError → String
  | io path cause => "Storage I/O failed for " ++ path ++ ": " ++ cause
  | corrupt path cause => "Storage file " ++ path ++ " is corrupt: " ++ cause
  | blankKey => "Invalid empty api key"

/-- What stands at a path, as far as calls can tell. -/
inductive FileContent
  /-- Nothing, but a file can be made there. -/
  | missing
  /-- Nothing, and the directory is missing too. -/
  | unreachable
  | directory
  | text (s : String)
  /-- Bytes that are no text. -/
  | binary (bytes : List UInt8)
  deriving DecidableEq

namespace FileContent

/-- A file with the given bytes. -/
def ofBytes (bytes : List UInt8) : FileContent :=
  match Utf8.decode? bytes with
  | some cs => text (String.ofList cs)
  | none => binary bytes

/-- The entries of a file at the given path. -/
def load (path : String) : FileContent → Except StorageError TextMap
  | missing | unreachable => .ok .empty
  | directory => .error (.io path "Is a directory (os error 21)")
  | binary _ => .error (.io path "stream did not contain valid UTF-8")
  | text s =>
    if isBlankText s then .ok .empty
    else match decode s with
      | some m => .ok m
      | none => .error (.corrupt path "not an object of strings")

/-- What stands at a path after what stood there was deleted. A missing directory is
    still missing. -/
def deleted : FileContent → FileContent
  | unreachable => unreachable
  | _ => missing

/-- The text of a file that holds the given entries. -/
def render (m : TextMap) : String := (Codec.toJson m).renderLines

/-- Writes entries to a file at the given path. -/
def save (path : String) (m : TextMap) : FileContent → Except StorageError FileContent
  | unreachable => .error (.io path "No such file or directory (os error 2)")
  | directory => .error (.io path "Is a directory (os error 21)")
  | _ => .ok (.text (render m))

end FileContent

/-- What holds the entries of a storage. -/
inductive Medium
  | memory (items : TextMap)
  | file (path : String) (content : FileContent)
  deriving DecidableEq

namespace Medium

def getItem (key : String) : Medium → Except StorageError (Option String)
  | memory items => .ok (items.get? key)
  | file path content => (content.load path).map (·.get? key)

def setItem (key value : String) : Medium → Except StorageError Medium
  | memory items => .ok (memory (items.insert key value))
  | file path content => do
    let items ← content.load path
    return file path (← content.save path (items.insert key value))

/-- Removes an entry. Where there is none, nothing is written. -/
def removeItem (key : String) : Medium → Except StorageError Medium
  | memory items => .ok (memory (items.erase key))
  | file path content => do
    let items ← content.load path
    if items.contains key then return file path (← content.save path (items.erase key))
    else return file path content

/-- Puts something else in the place of the file, from outside. -/
def replaceFile (content : FileContent) : Medium → Medium
  | memory items => memory items
  | file path _ => file path content

/-- Deletes the file, from outside. -/
def deleteFile : Medium → Medium
  | memory items => memory items
  | file path content => file path content.deleted

/-- The entries, if they can be read. -/
def items? : Medium → Option TextMap
  | memory items => some items
  | file path content => (content.load path).toOption

end Medium

/-- A storage: what holds its entries, and which calls fail before they reach it. -/
structure Backend where
  medium : Medium
  fault : Call → Option StorageError := fun _ => none

namespace Backend

/-- A storage in memory that holds nothing. -/
def empty : Backend := { medium := .memory .empty }

def getItem (key : String) (b : Backend) : Except StorageError (Option String) :=
  match b.fault (.get key) with
  | some e => .error e
  | none => b.medium.getItem key

/-- The storage in which one of the calls fails from now on. -/
def failing (c : StorageCall) (e : StorageError) (b : Backend) : Backend :=
  { b with fault := fun call => if call.kind = c then some e else b.fault call }

/-- The storage without faults. -/
def healed (b : Backend) : Backend := { b with fault := fun _ => none }

/-- A storage after a call that may have written, and whether it failed. A failed
    call changes nothing. -/
def attempt (b : Backend) (call : Call) (write : Medium → Except StorageError Medium) :
    Except StorageError Unit × Backend :=
  match b.fault call with
  | some e => (.error e, b)
  | none =>
    match write b.medium with
    | .ok m => (.ok (), { b with medium := m })
    | .error e => (.error e, b)

def setItem (key value : String) (b : Backend) : Except StorageError Unit × Backend :=
  b.attempt (.set key value) (·.setItem key value)

def removeItem (key : String) (b : Backend) : Except StorageError Unit × Backend :=
  b.attempt (.remove key) (·.removeItem key)

/-- A call: what was found under the key, if it was to be read. -/
def call (c : Call) (b : Backend) : Except StorageError (Option String) × Backend :=
  match c with
  | .get key => (b.getItem key, b)
  | .set key value =>
    let (r, b) := b.setItem key value
    (r.map fun _ => none, b)
  | .remove key =>
    let (r, b) := b.removeItem key
    (r.map fun _ => none, b)

end Backend

/-- The two roles of a storage: one that outlives the program, one for as long as
    the session lasts. -/
inductive Place
  | durable
  | transient
  deriving DecidableEq, Repr

/-- The storages in their places. -/
structure Shelf where
  durable : Backend := .empty
  transient : Backend := .empty

namespace Shelf

/-- The storage at a place. -/
def backend (s : Shelf) : Place → Backend
  | .durable => s.durable
  | .transient => s.transient

/-- The shelf with another storage at a place. -/
def put (s : Shelf) (b : Backend) : Place → Shelf
  | .durable => { s with durable := b }
  | .transient => { s with transient := b }

@[simp] theorem backend_put_self (s : Shelf) (b : Backend) (p : Place) :
    (s.put b p).backend p = b := by
  cases p <;> rfl

theorem backend_put_of_ne (s : Shelf) (b : Backend) {p q : Place} (h : q ≠ p) :
    (s.put b p).backend q = s.backend q := by
  cases p <;> cases q <;> simp_all [put, backend]

end Shelf

end Clickstream
