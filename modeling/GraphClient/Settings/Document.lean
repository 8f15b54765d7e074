import GraphClient.Settings
import GraphClient.Toml.Document
import GraphClient.Toml.Quoted

namespace GraphClient.Settings

open Toml (Node Entries)

/-- An entry that may be missing; one of the wrong kind makes the document unusable. -/
def entry {Value : Type} (entries : Entries) (name : String) (missing : Value)
    (read : Node → Option Value) : Option Value :=
  match entries.find? name with
  | none => some missing
  | some node => read node

/-- A number of milliseconds, which cannot be negative. -/
def milliseconds? : Node → Option UInt64
  | .integer value => if 0 ≤ value then some value.toNat.toUInt64 else none
  | _ => none

def name? : Node → Option String
  | .text value => some value
  | _ => none

/-- What the entries of a document say; those that no setting is named after are left aside. -/
def ofEntries? (entries : Entries) : Option Settings := do
  let default : Settings := {}
  return {
    deadlineMs :=
      ← entry entries "deadline_ms" default.deadlineMs fun node => (milliseconds? node).map some
    selection := ← entry entries "selection" default.selection name?
    shutdownTimeoutMs :=
      ← entry entries "shutdown_timeout_ms" default.shutdownTimeoutMs milliseconds? }

/-- The reader of TOML documents. It gives one reason for all that it cannot read. -/
def tomlReader : Reader := fun text =>
  match (Toml.ofText? text).bind ofEntries? with
  | none => .error "the text is no TOML document of settings"
  | some settings => .ok settings

/-- The settings as a document, unless a number is too large for it. -/
def toToml? (settings : Settings) : Option String :=
  let numbers := settings.deadlineMs.toList ++ [settings.shutdownTimeoutMs]
  if numbers.all fun number => number.toNat < Toml.integerBound then
    let deadline :=
      (settings.deadlineMs.map fun deadline => s!"deadline_ms = {deadline}\n").getD ""
    some (deadline ++ "selection = " ++ Toml.quoted settings.selection ++ "\n" ++
      s!"shutdown_timeout_ms = {settings.shutdownTimeoutMs}\n")
  else none

/-- The document that is written where there is none: the default settings and what they mean. -/
def defaultText : String :=
  "# Meridian client configuration\n" ++
  "#\n" ++
  "# Per-call deadline in milliseconds. Omit or set to 0 to wait indefinitely.\n" ++
  "# deadline_ms = 2000\n" ++
  "\n" ++
  "# Endpoint selection: \"random\" (default) or \"round_robin\"\n" ++
  "selection = \"random\"\n" ++
  "\n" ++
  "# Upper bound on graceful shutdown of all endpoints, in milliseconds\n" ++
  "shutdown_timeout_ms = 5000\n"

end GraphClient.Settings
