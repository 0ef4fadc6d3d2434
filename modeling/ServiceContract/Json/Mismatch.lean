import ServiceContract.Json.Printer
import ServiceContract.Text.Quoted

/-!
# Mismatches of shape

How a value can differ from the shape that is wanted of it, and the words for each case. Names of
fields and values stand in backquotes, and a text is shown quoted.
-/

namespace ServiceContract

/-- What was found where something else is wanted. -/
inductive Found where
  | null
  | bool (b : Bool)
  | int (n : Int)
  | float (x : Binary64)
  | text (s : String)
  | sequence
  | map
  deriving DecidableEq, Repr

/-- How a value differs from the wanted shape. -/
inductive Mismatch where
  | missing (field : String)
  | repeated (field : String)
  | unknown (field : String) (known : List String)
  | wrongType (found : Found) (expected : String)
  | wrongValue (found : Found) (expected : String)
  | wrongLength (length : Nat) (expected : String)
  deriving DecidableEq, Repr

namespace Found

/-- What a JSON value is when it is found in a wrong place. -/
def ofJson : Json → Found
  | .null => .null
  | .bool b => .bool b
  | .number (.int n) => .int n
  | .number (.float x) => .float x
  | .text s => .text s
  | .array _ => .sequence
  | .object _ => .map

/-- The words for what was found. -/
def words : Found → String
  | .null => "null"
  | .bool b => "boolean `" ++ (if b then "true" else "false") ++ "`"
  | .int n => "integer `" ++ toString n ++ "`"
  | .float x => "floating point `" ++ Decimal.text Json.floatForm x ++ "`"
  | .text s => "string " ++ Text.quoted s
  | .sequence => "sequence"
  | .map => "map"

end Found

namespace Mismatch

/-- The words for the known fields. -/
def knownWords (known : List String) : String :=
  match known.map fun k => "`" ++ k ++ "`" with
  | [] => "there are no fields"
  | [a] => "expected " ++ a
  | [a, b] => "expected " ++ a ++ " or " ++ b
  | names => "expected one of " ++ ", ".intercalate names

/-- The words for a mismatch. -/
def message : Mismatch → String
  | .missing field => "missing field `" ++ field ++ "`"
  | .repeated field => "duplicate field `" ++ field ++ "`"
  | .unknown field known => "unknown field `" ++ field ++ "`, " ++ knownWords known
  | .wrongType found expected => "invalid type: " ++ found.words ++ ", expected " ++ expected
  | .wrongValue found expected => "invalid value: " ++ found.words ++ ", expected " ++ expected
  | .wrongLength length expected =>
    "invalid length " ++ toString length ++ ", expected " ++ expected

end Mismatch

end ServiceContract
