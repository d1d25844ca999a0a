import Clickstream.Storage
import Clickstream.Store

/-!
# A store in two storages and a variable

Each part of the site state is kept as long as it should last: the visitor in a
durable storage, the session in a transient one, and the area in the store
itself. The keys contain the API key, so that trackers with different keys do not
see each other's state.

Writing is not atomic. The area is set first, then the session is written, then
the visitor; where a write fails, the rest is left as it was.
-/

namespace Clickstream

/-- A store whose parts are spread over two storages. -/
structure SplitStore where
  visitorKey : String
  sessionKey : String
  area : Option (Reference .area) := none
  /-- Where the session is kept. One storage may play both roles. -/
  sessionPlace : Place := .transient
  deriving DecidableEq

namespace SplitStore

/-- The key of a part of the state. -/
def keyFor (part apiKey : String) : String := "SALUS_" ++ part ++ "_" ++ apiKey

/-- A store for an API key that is not blank. -/
def new (apiKey : String) (sessionPlace : Place) : Except StorageError SplitStore :=
  if isBlankText apiKey then .error .blankKey
  else .ok {
    visitorKey := keyFor "VISITOR" apiKey
    sessionKey := keyFor "SESSION" apiKey
    sessionPlace }

/-- A failed call as an error of the store, and the measurement of it. -/
def storageFailure (call : StorageCall) (e : StorageError) : SiteStateError × Log :=
  (.storage e.message, [.storageFailed call])

/-- Reads the reference under a key, if there is one. -/
def readReference (k : Kind) (b : Backend) (key : String) :
    Except SiteStateError (Option (Reference k)) × Log :=
  match b.getItem key with
  | .error e =>
    let (e, log) := storageFailure .get e
    (.error e, log)
  | .ok none => (.ok none, [])
  | .ok (some text) =>
    match Reference.parse text with
    | .ok r => (.ok (some r), [])
    | .error e => (.error e.toSiteStateError, [])

/-- Writes a reference under a key, or removes what is there. -/
def writeReference {k : Kind} (r : Option (Reference k)) (key : String) (b : Backend) :
    Except SiteStateError Unit × Log × Backend :=
  let (call, result, b) := match r with
    | some r => (StorageCall.set, b.setItem key r.id.render)
    | none => (StorageCall.remove, b.removeItem key)
  match result with
  | .ok () => (.ok (), [], b)
  | .error e =>
    let (e, log) := storageFailure call e
    (.error e, log, b)

/-- Reads the state: the session only if there is a visitor, and the area only if
    there is a session. -/
def read (s : SplitStore) (shelf : Shelf) : Except SiteStateError SiteState × Log :=
  match readReference .visitor shelf.durable s.visitorKey with
  | (.error e, log) => (.error e, log)
  | (.ok none, log) => (.error .absent, log)
  | (.ok (some visitor), log) =>
    match readReference .session (shelf.backend s.sessionPlace) s.sessionKey with
    | (.error e, log') => (.error e, log ++ log')
    | (.ok none, log') => (.ok { visitor := some visitor }, log ++ log')
    | (.ok (some session), log') =>
      (.ok { visitor := some visitor, session := some session, area := s.area }, log ++ log')

/-- Writes the three parts of a state, in the order area, session, visitor. -/
def write (state : SiteState) (s : SplitStore) (shelf : Shelf) :
    Except SiteStateError Unit × Log × SplitStore × Shelf :=
  let s := { s with area := state.area }
  let (result, log, b) :=
    writeReference state.session s.sessionKey (shelf.backend s.sessionPlace)
  let shelf := shelf.put b s.sessionPlace
  match result with
  | .error e => (.error e, log, s, shelf)
  | .ok () =>
    let (result, log', b) := writeReference state.visitor s.visitorKey shelf.durable
    (result, log ++ log', s, shelf.put b .durable)

/-- Reads the state. -/
def get (w : SplitStore × Shelf) : Outcome SiteStateError SiteState (SplitStore × Shelf) :=
  let (result, log) := w.1.read w.2
  { result, log, state := w }

/-- Writes a state. -/
def set (state : SiteState) (w : SplitStore × Shelf) :
    Outcome SiteStateError SiteState (SplitStore × Shelf) :=
  let (result, log, w) := write state w.1 w.2
  { result := result.map fun _ => state, log, state := w }

/-- Removes every part of the state. -/
def clear (w : SplitStore × Shelf) : Outcome SiteStateError SiteState (SplitStore × Shelf) :=
  set .empty w

/-- Another store on the same storages, with nothing in its variable; on demand the
    session goes to a new storage. -/
def reopen (apiKey : String) (freshSession : Bool) (w : SplitStore × Shelf) :
    Except StorageError (SplitStore × Shelf) := do
  if freshSession then
    return (← new apiKey .transient, w.2.put .empty .transient)
  else
    return (← new apiKey w.1.sessionPlace, w.2)

/-- The calls of the store. -/
def store : Store (SplitStore × Shelf) := ⟨get, set, clear⟩

end SplitStore

end Clickstream
