import ServiceContract.Files.Store
import ServiceContract.Json.DraftReading
import ServiceContract.Settings.Basic

/-!
# What stops a run

A run stops where a file cannot be read, understood or written, or where settings cannot be
used. The words tell what was being done, the reason tells what went wrong there.
-/

namespace ServiceContract

open Files (StoreError)

/-- What is wrong with a text, a path or settings. -/
inductive Trouble.Reason where
  | store (e : StoreError)
  | settings (f : Settings.Fault)
  | toml
  | yaml
  | json (e : Json.TextError)
  deriving Repr, Inhabited

/-- What stops a run. -/
inductive Trouble where
  | readSettings (path : String) (e : StoreError)
  | parseSettings (path : String)
  | badSettings (path : String) (f : Settings.Fault)
  | badOverrides (f : Settings.Fault)
  | readSchema (path : String) (e : StoreError)
  | parseYaml (path : String)
  | parseJson (path : String) (e : Json.TextError)
  | createFolder (path : String) (e : StoreError)
  | writeFile (path : String) (e : StoreError)
  deriving Repr, Inhabited

namespace Trouble

/-- What was being done. -/
def context : Trouble → String
  | .readSettings path _ => "Failed to read config: " ++ path
  | .parseSettings path => "Failed to parse config: " ++ path
  | .badSettings path _ => "Invalid config: " ++ path
  | .badOverrides _ => "Invalid generator settings"
  | .readSchema path _ => "Failed to read schema: " ++ path
  | .parseYaml path | .parseJson path _ => "Failed to parse schema: " ++ path
  | .createFolder path _ => "Failed to create output directory: " ++ path
  | .writeFile path _ => "Failed to write " ++ path

/-- What went wrong. -/
def reason : Trouble → Reason
  | .readSettings _ e | .readSchema _ e | .createFolder _ e | .writeFile _ e => .store e
  | .parseSettings _ => .toml
  | .badSettings _ f | .badOverrides f => .settings f
  | .parseYaml _ => .yaml
  | .parseJson _ e => .json e

/-- The words for a reason. -/
def Reason.message : Reason → String
  | .store e => e.label
  | .settings f => f.message
  | .toml => "not a TOML table of settings"
  | .yaml => "not a schema in YAML"
  | .json .malformed => "not JSON"
  | .json (.mismatch m) => m.message

/-- The words for a trouble. -/
def message (t : Trouble) : String :=
  t.context ++ ": " ++ t.reason.message

end Trouble

end ServiceContract
