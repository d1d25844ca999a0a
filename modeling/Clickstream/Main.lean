import Clickstream.Demo

/-!
# The command line

Runs the demo with the settings of the environment. There is no access to a
network here, so deliveries end as unreachable; site state and measurements are
the same with and without one.
-/

namespace Clickstream

/-- The setting that names the file of the demo. -/
def fileSetting : String := "SALUS_STATE_FILE"

/-- The file that is used if none is named. -/
def usualFile : String := "/tmp/salus-tracker-demo.json"

/-- The settings that the demo looks at. -/
def settingNames : List String :=
  [Destination.keySetting, Destination.hostSetting, Destination.timeoutSetting,
    Demo.metricsSetting]

/-- The settings of the environment. -/
def readSettings : IO (List (String × String)) :=
  settingNames.filterMapM fun name => do
    return (← IO.getEnv name).map fun value => (name, value)

/-- What stands in a file. What cannot be read counts as missing. -/
def readContent (path : String) : IO FileContent := do
  try
    return .ofBytes (← IO.FS.readBinFile path).toList
  catch _ => return .missing

/-- The number that bytes spell. -/
def numberOf (bytes : ByteArray) : Nat := bytes.toList.foldl (fun n b => 256 * n + b.toNat) 0

/-- A sequence of ids for one run, after a number that differs from run to run. -/
def freshIds (time start n : Nat) : FreshId :=
  ⟨Id.v7 time (start + n), Id.version_v7 _ _⟩

/-- A place far from others in the sequence of ids. -/
def randomStart : IO Nat := do
  return numberOf (← IO.getRandomBytes 7) * Nat.pow 2 16

end Clickstream

open Clickstream in
/-- Runs the demo. -/
def main : IO UInt32 := do
  let settings ← readSettings
  let path := (← IO.getEnv fileSetting).getD usualFile
  let file ← readContent path
  let time ← IO.monoMsNow
  let ending := Demo.run {
    lookup := fun name => settings.lookup name
    path
    file
    network := fun _ => .error (.unreachable "no access to a network")
    eventIds := freshIds time (← randomStart)
    requestIds := freshIds time (← randomStart) }
  for line in ending.output do
    IO.println line
  for line in ending.complaint do
    IO.eprintln line
  match ending.file with
  | .text s => if ending.file ≠ file then IO.FS.writeFile path s
  | _ => pure ()
  return UInt32.ofNat ending.exitCode
