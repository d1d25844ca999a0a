import Clickstream.Metrics
import Clickstream.Text.Decimal

/-!
# The text form of measurements

A log as text that a collector of measurements reads: for every quantity that was
measured a line with its form, and a line for every label with the total. The
dots of a name are written as underscores.

The duration of a delivery is shown in buckets: how many took at most so long.
The size of a batch is shown by its sum and count.
-/

namespace Clickstream.Exposition

/-- The upper bounds of the buckets for durations, in milliseconds. -/
def bounds : List Nat := [5, 10, 25, 50, 100, 250, 500, 1000, 2500, 5000, 10000]

/-- A name with underscores for dots. -/
def plainName (m : Metric) : String :=
  String.ofList (m.name.toList.map fun c => if c = '.' then '_' else c)

/-- A number of thousandths, with no more places than it needs. -/
def thousandths (n : Nat) : String :=
  let fraction := n % 1000
  let places := [fraction / 100, fraction / 10 % 10, fraction % 10].reverse.dropWhile (· = 0)
  String.ofList <| Decimal.chars (n / 1000) ++
    if places.isEmpty then [] else '.' :: places.reverse.map Decimal.digitChar

/-- A name with a label. -/
def labelled (name key value : String) : String :=
  name ++ "\x7b" ++ key ++ "=\"" ++ value ++ "\"\x7d"

/-- A number as text. -/
def number (n : Nat) : String := String.ofList (Decimal.chars n)

/-- The line that says how a quantity is summed up. -/
def typeLine (m : Metric) (form : String) : String := "# TYPE " ++ plainName m ++ " " ++ form

/-- The lines of a counter. -/
def counterLines (log : Log) (m : Metric) : List String :=
  typeLine m "counter" :: (log.labels m).map fun label =>
    let name := match label with
      | none => plainName m
      | some (k, v) => labelled (plainName m) k v
    name ++ " " ++ number (Log.total (log.amounts m label))

/-- The lines of a gauge. -/
def gaugeLines (log : Log) (m : Metric) : List String :=
  match log.gauge? m with
  | none => []
  | some n => [typeLine m "gauge", plainName m ++ " " ++ number n]

/-- The lines of durations. -/
def durationLines (log : Log) (m : Metric) : List String :=
  let times := log.amounts m none
  let bucket (bound : String) (n : Nat) :=
    labelled (plainName m ++ "_bucket") "le" bound ++ " " ++ number n
  typeLine m "histogram" ::
    bounds.map (fun b => bucket (thousandths b) (times.filter (· ≤ b)).length) ++
    [bucket "+Inf" times.length, plainName m ++ "_sum " ++ thousandths (Log.total times),
      plainName m ++ "_count " ++ number times.length]

/-- The lines of sizes. -/
def sizeLines (log : Log) (m : Metric) : List String :=
  let sizes := log.observations m
  [typeLine m "summary", plainName m ++ "_sum " ++ number (Log.total sizes),
    plainName m ++ "_count " ++ number sizes.length]

/-- The lines of a quantity; none if it was never measured. -/
def linesOf (log : Log) (m : Metric) : List String :=
  if (log.labels m).isEmpty then []
  else match m with
    | .duration => durationLines log m
    | .batchSize => sizeLines log m
    | .inFlight => gaugeLines log m
    | _ => counterLines log m

/-- Why no collector can be installed. -/
inductive SetupError
  | build (detail : String)
  /-- There is one already, or something else is in the way. -/
  | install (detail : String)
  deriving DecidableEq

/-- The wording of an error. -/
def SetupError.message : SetupError → String
  | build detail => "Failed to build metrics exporter: " ++ detail
  | install detail => "Failed to install metrics exporter: " ++ detail

/-- The lines of a log. -/
def lines (log : Log) : List String := Metric.all.flatMap (linesOf log)

end Clickstream.Exposition
