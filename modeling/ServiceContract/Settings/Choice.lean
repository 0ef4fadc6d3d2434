import ServiceContract.Settings.Reading
import ServiceContract.Trouble

/-!
# The settings of a run

Settings come from a file, given by its path or found beside the schema. Single settings given
for the run override them. The file's settings must be usable before that, and the outcome again.
-/

namespace ServiceContract.Settings

open Files (Store)

/-- What is given for a run: the path of a settings file, and single settings. -/
structure Overrides where
  file : Option String := none
  optionsKey : Option String := none
  fallbackStatus : Option Nat := none
  unmapped : Option Unmapped := none
  errorCodeScope : Option CodeScope := none
  maxDepth : Option Nat := none
  deriving DecidableEq, Repr, Inhabited

/-- The name of a settings file beside a schema. -/
def fileName : String := "routegen.toml"

/-- The path of a settings file beside a schema. -/
def besideSchema? (schema : String) : Option String :=
  (Files.Path.parent? schema).map (Files.Path.join · fileName)

/-- The settings of a file. -/
def load (store : Store) (path : String) : Except Trouble Settings := do
  let text ← (store.read path).mapError (Trouble.readSettings path)
  match ofText? text with
  | none => .error (.parseSettings path)
  | some s =>
    match s.fault? with
    | some f => .error (.badSettings path f)
    | none => .ok s

namespace Overrides

/-- The settings file of a run: the given one, or one beside the schema if it is there. -/
def file? (o : Overrides) (store : Store) (schema : String) : Option String :=
  o.file.or ((besideSchema? schema).filter store.has)

/-- The settings with the given ones in place. -/
def apply (o : Overrides) (s : Settings) : Settings where
  optionsKey := o.optionsKey.getD s.optionsKey
  fallbackStatus := o.fallbackStatus.getD s.fallbackStatus
  unmapped := o.unmapped.getD s.unmapped
  errorCodeScope := o.errorCodeScope.getD s.errorCodeScope
  maxDepth := o.maxDepth.getD s.maxDepth

/-- The settings of a run. -/
def settings (o : Overrides) (store : Store) (schema : String) : Except Trouble Settings := do
  let base ← match o.file? store schema with
    | some path => load store path
    | none => .ok {}
  let s := o.apply base
  match s.fault? with
  | some f => .error (.badOverrides f)
  | none => .ok s

end Overrides

end ServiceContract.Settings
