import ServiceContract.Bundle.Format
import ServiceContract.Settings.Choice

/-!
# Commands

A command works on one schema: it writes the bundle into a folder, checks the schema, or prints
what would be written.
-/

namespace ServiceContract

open Files (Path.join)

/-- How a bundle is written: the folder and the form, whether some methods and enums may fail,
and whether the report is written beside it. -/
structure Command.Generation where
  output : String := "gen"
  format : Bundle.Format := .json
  allowPartial : Bool := false
  report : Bool := false
  deriving DecidableEq, Repr, Inhabited

/-- What to do with a schema. -/
inductive Command.Action where
  | generate (g : Command.Generation)
  | check
  | inspect (dump : Option Bundle.Format)
  deriving DecidableEq, Repr, Inhabited

/-- A command: the path of a schema, the settings given, and what to do. -/
structure Command where
  schema : String
  overrides : Settings.Overrides := {}
  action : Command.Action
  deriving DecidableEq, Repr, Inhabited

namespace Command

/-- The path of the bundle. -/
def Generation.bundlePath (g : Generation) : String :=
  Path.join g.output g.format.fileName

/-- The path of the report. -/
def Generation.reportPath (g : Generation) : String :=
  Path.join g.output "routes.txt"

/-- The paths that a command reads or writes. -/
def paths (c : Command) : List String :=
  let outputs := match c.action with
    | .generate g => [g.output, g.bundlePath, g.reportPath]
    | _ => []
  c.schema :: (c.overrides.file.toList ++ (Settings.besideSchema? c.schema).toList ++ outputs)

end Command

end ServiceContract
