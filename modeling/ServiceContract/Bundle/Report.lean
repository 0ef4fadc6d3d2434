import ServiceContract.Bundle.Basic

/-!
# Reports

A report lists what a bundle holds for a reader: the routes, the operations that are not reached
over HTTP, and the errors.
-/

namespace ServiceContract.Bundle

/-- The line of a registered route. -/
def routeLine (verb pattern : String) (r : Registration) : String :=
  verb ++ " " ++ pattern ++ " -> " ++ r.service ++ "." ++ r.handlerName ++ " [" ++
    r.operationId ++ "]"

/-- The line of a registration without a route. -/
def commandLine (r : Registration) : String :=
  r.operationId ++ " -> " ++ r.service ++ "." ++ r.handlerName

/-- The line of an error. -/
def errorLine (d : Failure.ErrorDescriptor) : String :=
  d.enumName ++ "." ++ d.name ++ " code=" ++ toString d.code.toInt ++ " status=" ++
    toString d.status ++ " reason=" ++ d.reason

/-- Lines, each on a line of its own after the text before it. -/
def lines (items : List String) : String :=
  String.join (items.map ("\n" ++ ·)) ++ "\n"

/-- Lines under a title, or nothing if there are none. -/
def titled (title : String) (items : List String) : String :=
  if items.isEmpty then "" else "\n# " ++ title ++ "\n" ++ lines items

/-- The report of a bundle. -/
def report (b : Bundle) : String :=
  let routes := b.registrations.filterMap fun r => r.verb.map fun verb =>
    routeLine verb (r.pattern.getD "") r
  let commands := (b.registrations.filter (·.verb.isNone)).map commandLine
  let errors := (b.errors.flatMap (·.values)).map errorLine
  "# Routes for " ++ b.package ++ "\n# operations: " ++ toString b.operations.length ++
    ", error contracts: " ++ toString b.errors.length ++ "\n" ++ lines routes ++
    titled "Non-HTTP operations" commands ++ "\n" ++ titled "Errors" errors

end ServiceContract.Bundle
