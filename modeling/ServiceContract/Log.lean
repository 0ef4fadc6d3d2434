import ServiceContract.Text.Pieces

/-!
# Logging

How a run logs, from the texts of three variables that may be unset.
-/

namespace ServiceContract

/-- The form of log lines. -/
inductive Log.Format where
  | compact
  | pretty
  | json
  deriving DecidableEq, Repr, Inhabited

/-- The name of a form. -/
def Log.Format.label : Log.Format → String
  | .compact => "compact"
  | .pretty => "pretty"
  | .json => "json"

/-- The form of a name in any case, `compact` for an unknown one. The letters of the names are
the lower case of ASCII letters only. -/
def Log.Format.ofName (name : String) : Log.Format :=
  match Text.lower name with
  | "pretty" => .pretty
  | "json" => .json
  | _ => .compact

/-- How a run logs. -/
structure Log where
  level : String := "info"
  format : Log.Format := .compact
  filter : Option String := none
  deriving DecidableEq, Repr, Inhabited

namespace Log

/-- The logging that the texts of variables ask for. -/
def ofVariables (level format filter : Option String) : Log where
  level := level.getD "info"
  format := Format.ofName (format.getD "compact")
  filter := filter

/-- The same logging at another level. -/
def withLevel (l : Log) (level : String) : Log :=
  { l with level := level }

end Log

end ServiceContract
