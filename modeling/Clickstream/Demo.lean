import Clickstream.Http
import Clickstream.Metrics.Exposition
import Clickstream.Pipeline
import Clickstream.Store.Split
import Clickstream.Text.Quoted
import Clickstream.World

/-!
# The demo

A small program that tracks one section and one click. The visitor is kept in a
file, so a second run is by the same visitor; the session is new in each run. It
says on the way what it does, and may print all measurements at the end.

`Demo.run` is the whole program as a function of what it finds: its settings, the
file, and the network.
-/

namespace Clickstream.Demo

/-- How much a line of the log matters. -/
inductive Level
  | info
  | error
  deriving DecidableEq, Repr

/-- A line of the log. -/
structure Line where
  level : Level
  message : String
  fields : List (String × String) := []
  deriving DecidableEq

/-- A line as text. -/
def Line.render (l : Line) : String :=
  let level := match l.level with
    | .info => "INFO"
    | .error => "ERROR"
  level ++ " tracker_demo: " ++ l.message ++
    String.join (l.fields.map fun f => " " ++ f.1 ++ "=" ++ f.2)

/-- Why the program gives up. -/
inductive Failure
  | settings (e : SettingsError)
  | storage (e : StorageError)
  | gateway (e : GatewayError)
  | rejected (v : Verdict)
  deriving DecidableEq

/-- A cause below an error, each line of it indented. -/
def indented (text : String) : List String :=
  (text.splitOn "\n").map ("    " ++ ·)

/-- What is said of a failure. -/
def Failure.lines : Failure → List String
  | settings e => ["Error: reading publisher configuration", "", "Caused by:"] ++ indented e.message
  | storage e => ["Error: " ++ e.message]
  | gateway e => ["Error: " ++ e.message]
  | rejected v => ["Error: publisher rejected configuration: " ++ v.name]

/-! ## How values show in the log -/

/-- A value that may be missing. -/
def showOption : Option String → String
  | some s => "Some(" ++ s ++ ")"
  | none => "None"

/-- A site state. -/
def showState (s : SiteState) : String :=
  "SiteState \x7b visitor: " ++ showOption (s.visitor.map (·.describe)) ++
    ", session: " ++ showOption (s.session.map (·.describe)) ++
    ", section: " ++ showOption (s.area.map (·.describe)) ++ " \x7d"

/-- An error of a store. -/
def showError : SiteStateError → String
  | .absent => SiteStateError.absent.name
  | .storage detail => (SiteStateError.storage detail).name ++ "(" ++ Quoted.render detail ++ ")"
  | .malformed detail =>
    (SiteStateError.malformed detail).name ++ "(" ++ Quoted.render detail ++ ")"

/-- A site state that was read, or why none was. -/
def showResult : Except SiteStateError SiteState → String
  | .ok state => "Ok(" ++ showState state ++ ")"
  | .error e => "Err(" ++ showError e ++ ")"

/-! ## Lines -/

/-- The program starts. -/
def started (host : String) : Line := ⟨.info, "Starting tracker demo", [("host", host)]⟩

/-- What is left of earlier runs. -/
def resumed (path : String) : Except SiteStateError SiteState → Line
  | .ok state => ⟨.info, "Resuming site state", [("path", path), ("state", showState state)]⟩
  | .error e => ⟨.info, "Starting from empty site state", [("path", path), ("error", e.message)]⟩

/-- Something went wrong in the background. -/
def reported (r : Report) : Line := ⟨.error, r.message, []⟩

/-- How an operation ended. -/
def registered (what : String) : TrackingResult → Line
  | .ok count => ⟨.info, what ++ " registered", [("count", toString count)]⟩
  | .error e => ⟨.error, what ++ " registration failed", [("error", e.message)]⟩

/-- What is stored in the end. -/
def final (state : Except SiteStateError SiteState) : Line :=
  ⟨.info, "Final site state", [("state", showResult state)]⟩

/-! ## The program -/

/-- What the program finds. -/
structure Setting where
  lookup : String → Option String
  /-- The path of the file and what stands there. -/
  path : String
  file : FileContent
  network : Http.Network
  /-- The ids for events and for requests. -/
  eventIds : Nat → FreshId
  requestIds : Nat → FreshId

/-- What the program leaves behind. -/
structure Ending where
  lines : List Line
  /-- All measurements, if they are to be printed. -/
  measurements : List String := []
  failure : Option Failure := none
  file : FileContent

namespace Ending

/-- The lines that the program prints. -/
def output (e : Ending) : List String := e.lines.map Line.render ++ e.measurements

/-- The lines that the program prints about its failure. -/
def complaint (e : Ending) : List String := (e.failure.map Failure.lines).getD []

/-- The exit code. -/
def exitCode (e : Ending) : Nat := if e.failure.isSome then 1 else 0

end Ending

/-- The settings that stand in for missing ones. -/
def standIn (name : String) : Option String :=
  if name = Destination.keySetting then some "abc-xyz"
  else if name = Destination.hostSetting then some "http://localhost:3000"
  else none

/-- Whether measurements are to be printed is a setting of its own. -/
def metricsSetting : String := "SALUS_METRICS"

/-- The network as the transport of the worker. -/
def transport (network : Http.Network) : Transport Http.Sender Unit := fun sender batch _ =>
  (some (sender.send network batch), ())

/-- The publisher that the program uses. -/
def publisher (network : Http.Network) : Publisher (Pipeline Http.Sender × Unit) :=
  Pipeline.publish Http.Sender.build (transport network)

/-- What the file of a store holds. -/
def fileOf (w : SplitStore × Shelf) (otherwise : FileContent) : FileContent :=
  match w.2.durable.medium with
  | .file _ content => content
  | .memory _ => otherwise

/-- Tracks a section and a click, through a pipeline that is configured. -/
def track (s : Setting) (store : Outcome SiteStateError SiteState (SplitStore × Shelf))
    (pipeline : Pipeline Http.Sender × Unit) (before : List Line) : Ending :=
  let publish := publisher s.network
  let w : World (SplitStore × Shelf) (Pipeline Http.Sender × Unit) :=
    { store := store.state, publisher := pipeline, supply := { ids := s.eventIds },
      log := store.log }
  let (area, w) := Tracker.operate SplitStore.store publish .registerArea w
  let (click, w) := Tracker.operate SplitStore.store publish .registerClick w
  let last := SplitStore.get w.store
  let (closed, _) := Pipeline.shutDown Http.Sender.build (transport s.network) w.publisher
  let log := w.log ++ last.log ++ closed.wholeLog
  { lines := before ++ [registered "Section" area, registered "Click" click, final last.result]
    measurements := if (s.lookup metricsSetting).isSome then Exposition.lines log else []
    file := fileOf last.state s.file }

/-- The whole program. -/
def run (s : Setting) : Ending :=
  match Destination.ofSettings fun name => (s.lookup name).or (standIn name) with
  | .error e => { lines := [], failure := some (.settings e), file := s.file }
  | .ok d =>
    let lines := [started d.host]
    match SplitStore.new d.apiKey .transient with
    | .error e => { lines, failure := some (.storage e), file := s.file }
    | .ok store =>
      let shelf : Shelf := { durable := { medium := .file s.path s.file } }
      let found := SplitStore.get (store, shelf)
      let lines := lines ++ [resumed s.path found.result]
      match Pipeline.start { ids := s.requestIds } d with
      | .error e =>
        { lines := lines ++ [reported .invalidConfiguration]
          failure := some (.gateway e)
          file := s.file }
      | .ok p =>
        let (p, x) := Pipeline.settle Http.Sender.build (transport s.network) (p, ())
        let lines := lines ++ p.gateway.reports.map reported
        match p.gateway.configured? with
        | some .accepted => track s found (p, x) lines
        | verdict =>
          { lines, failure := some (.rejected (verdict.getD .invalid)), file := s.file }

end Clickstream.Demo
