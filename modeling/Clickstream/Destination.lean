import Clickstream.Json.Codec
import Clickstream.Text.Blank
import Clickstream.Url

/-!
# Destinations

Where batches are delivered: an API key, the host that collects, and how long a
delivery may take. A destination is *accepted* if its key is not blank and its
host is the address of a site, with nothing after it but a slash
(`Destination.check`). Batches go to the host with `/multi` behind it
(`Destination.endpoint`).

A destination may be taken from settings with fixed names
(`Destination.ofSettings`).
-/

namespace Clickstream

/-- What became of a destination. -/
inductive Verdict
  /-- It could not be put to use. -/
  | invalid
  /-- The key is blank. -/
  | invalidKey
  /-- The host is not the address of a site. -/
  | invalidHost
  | accepted
  deriving DecidableEq, Repr

namespace Verdict

/-- The name in messages. -/
def name : Verdict → String
  | invalid => "Invalid"
  | invalidKey => "InvalidApiKey"
  | invalidHost => "InvalidHost"
  | accepted => "Success"

def all : List Verdict := [invalid, invalidKey, invalidHost, accepted]

/-- The verdict with the given name. -/
def ofName? (s : String) : Option Verdict := all.find? (·.name = s)

def isAccepted : Verdict → Bool
  | accepted => true
  | _ => false

theorem ofName?_name (v : Verdict) : ofName? v.name = some v := by cases v <;> rfl

end Verdict

/-- Where batches are delivered. -/
structure Destination where
  apiKey : String
  host : String
  /-- How many milliseconds a delivery may take. -/
  timeout : Option Nat := none
  deriving DecidableEq

/-- Why no destination can be had from settings. -/
inductive SettingsError
  | missing (name : String)
  | invalid (name value : String)
  deriving DecidableEq

/-- The wording of an error. -/
def SettingsError.message : SettingsError → String
  | missing name => "Missing environment variable " ++ name
  | invalid name value => "Invalid value for " ++ name ++ ": " ++ value

namespace Destination

/-- The time limits that can be set. -/
def timeoutBound : Nat := Nat.pow 2 64

/-- Whether a text is the address of a site and of nothing on it. -/
def isHost (s : String) : Bool :=
  match Url.parse? s with
  | some u => u.isOrigin
  | none => false

/-- Whether a destination is accepted; the key is looked at first. -/
def check (d : Destination) : Verdict :=
  if isBlankText d.apiKey then .invalidKey
  else if isHost d.host then .accepted
  else .invalidHost

/-- A text without the slashes at its end. -/
def withoutSlashes (cs : List Char) : List Char := (cs.reverse.dropWhile (· = '/')).reverse

/-- The address that batches are sent to. -/
def endpoint (d : Destination) : String :=
  String.ofList (withoutSlashes d.host.toList ++ "/multi".toList)

/-! ## Settings -/

def keySetting : String := "SALUS_API_KEY"
def hostSetting : String := "SALUS_HOST"
def timeoutSetting : String := "SALUS_REQUEST_TIMEOUT_MS"

/-- Reads a time limit: digits, after a plus sign or not, among white space. -/
def timeout? (s : String) : Option Nat :=
  let digits := match trimChars s.toList with
    | '+' :: rest => rest
    | cs => cs
  (Decimal.nat? digits).filter (· < timeoutBound)

/-- The destination that settings describe. -/
def ofSettings (lookup : String → Option String) : Except SettingsError Destination := do
  let required name := match lookup name with
    | some value => .ok value
    | none => .error (.missing name)
  let apiKey ← required keySetting
  let host ← required hostSetting
  match lookup timeoutSetting with
  | none => return { apiKey, host }
  | some value =>
    match timeout? value with
    | some n => return { apiKey, host, timeout := some n }
    | none => .error (.invalid timeoutSetting value)

end Destination

instance : Codec Verdict where
  toJson v := .text v.name
  ofJson? v := do Verdict.ofName? (← v.name? false)

instance : Codec Destination where
  toJson d := .record <| [("api_key", .text d.apiKey), ("host", .text d.host)] ++
    match d.timeout with
    | none => []
    | some n => [("request_timeout_ms", .nat n)]
  ofJson? v := do
    let fields ← v.knownFields? ["api_key", "host", "request_timeout_ms"]
    return { apiKey := ← Json.required? Json.text? fields "api_key"
             host := ← Json.required? Json.text? fields "host"
             timeout := ← Json.optional? (Json.natBelow? Destination.timeoutBound) fields
               "request_timeout_ms" }

end Clickstream
