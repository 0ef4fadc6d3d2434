import ServiceContract.Text.Blank

/-!
# Settings

What can be chosen for a run, with the values taken where nothing is chosen.
-/

namespace ServiceContract

/-- What to do with a method that has neither an HTTP mapping nor options. -/
inductive Settings.Unmapped where
  | skip
  | error
  deriving DecidableEq, Repr, Inhabited

/-- Where the codes of errors must differ: within an enum, or within the whole schema. -/
inductive Settings.CodeScope where
  | enum
  | schema
  deriving DecidableEq, Repr, Inhabited

/-- The name of a policy. -/
def Settings.Unmapped.label : Settings.Unmapped → String
  | .skip => "skip"
  | .error => "error"

/-- The policy of a name. -/
def Settings.Unmapped.ofLabel? : String → Option Settings.Unmapped
  | "skip" => some .skip
  | "error" => some .error
  | _ => none

/-- The name of a scope. -/
def Settings.CodeScope.label : Settings.CodeScope → String
  | .enum => "enum"
  | .schema => "schema"

/-- The scope of a name. -/
def Settings.CodeScope.ofLabel? : String → Option Settings.CodeScope
  | "enum" => some .enum
  | "schema" => some .schema
  | _ => none

/-- The settings of a run. The text option under `optionsKey` names an operation, `fallbackStatus`
is the status of errors that have none, and a path field is nested at most `maxDepth` deep. -/
structure Settings where
  optionsKey : String := "cmd"
  fallbackStatus : Nat := 500
  unmapped : Settings.Unmapped := .skip
  errorCodeScope : Settings.CodeScope := .enum
  maxDepth : Nat := 8
  deriving DecidableEq, Repr, Inhabited

namespace Settings

/-- Why settings cannot be used. -/
inductive Fault where
  | blankOptionsKey
  | badFallbackStatus (status : Nat)
  | zeroMaxDepth
  deriving DecidableEq, Repr, Inhabited

/-- The words for a fault. -/
def Fault.message : Fault → String
  | .blankOptionsKey => "options_key must not be empty"
  | .badFallbackStatus status =>
    "fallback_status " ++ toString status ++ " is not an HTTP status code (100-599)"
  | .zeroMaxDepth => "max_depth must be at least 1"

/-- The first fault of settings. -/
def fault? (s : Settings) : Option Fault :=
  if Text.isBlankText s.optionsKey then some .blankOptionsKey
  else if !(100 ≤ s.fallbackStatus && s.fallbackStatus ≤ 599) then
    some (.badFallbackStatus s.fallbackStatus)
  else if s.maxDepth == 0 then some .zeroMaxDepth
  else none

end Settings

end ServiceContract
