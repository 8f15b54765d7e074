import GraphClient.Client
import GraphClient.Json.Format

namespace GraphClient

/-- The settings of a client: the deadline of its calls, the policy that selects endpoints, and the
time that closing may take. Settings name their policy by a text, which is checked when it is used.
-/
structure Settings where
  deadlineMs : Option UInt64 := none
  selection : String := Selection.random.name
  shutdownTimeoutMs : UInt64 := 5000
deriving DecidableEq, Inhabited

namespace Settings

/-- The conventional name of the file that holds the settings. -/
def fileName : String :=
  "meridian.toml"

/-- The policy that the settings name, if there is one of that name. -/
def policy (settings : Settings) : Except ConfigurationFault Selection :=
  Selection.ofName settings.selection

/-- A deadline of zero is none. -/
def deadline (settings : Settings) : Option Duration :=
  (settings.deadlineMs.filter (0 < ·)).map fun deadline => .ofMilliseconds deadline.toNat

def shutdownTimeout (settings : Settings) : Duration :=
  .ofMilliseconds settings.shutdownTimeoutMs.toNat

/-- A pool over the endpoints with the named policy and the deadline of the settings. -/
def pool (settings : Settings) (endpoints : List Endpoint) : Except ConfigurationFault Pool := do
  let selection ← settings.policy
  let pool := (Pool.ofEndpoints endpoints).withPolicy selection.policy
  return match settings.deadline with
    | none => pool
    | some deadline => pool.withDeadline deadline

/-- Reads what a document says, whether or not it names a known policy, or tells why it cannot be
read. The syntax of documents is the reader's own affair. -/
abbrev Reader :=
  String → Except String Settings

/-- The settings of a document, whose policy must be one of the known ones. -/
def ofText (read : Reader) (text : String) : Except ConfigurationFault Settings :=
  match read text with
  | .error reason => .error (.unparsable reason)
  | .ok settings => settings.policy.map fun _ => settings

end Settings

/-- A client over the endpoints that keeps to the settings. -/
def Client.ofSettings (settings : Settings) (endpoints : List Endpoint) :
    Except ConfigurationFault Client :=
  (settings.pool endpoints).map fun pool =>
    (Client.ofPool pool).withShutdownTimeout settings.shutdownTimeout

open Json JsonFormat in
instance : JsonFormat Settings where
  toJson settings :=
    record <|
      (settings.deadlineMs.map fun deadline => ("deadline_ms", toJson deadline)).toList ++
        [("selection", toJson settings.selection),
          ("shutdown_timeout_ms", toJson settings.shutdownTimeoutMs)]
  ofJson? json :=
    match fields? ["deadline_ms", "selection", "shutdown_timeout_ms"] json with
    | some [deadline, selection, shutdownTimeout] => do
      let default : Settings := {}
      return {
        deadlineMs := ← optionalField default.deadlineMs deadline
        selection := ← optionalField default.selection selection
        shutdownTimeoutMs := ← optionalField default.shutdownTimeoutMs shutdownTimeout }
    | _ => none

end GraphClient
