import ServiceContract.Json.Basic
import ServiceContract.Number.Decimal
import ServiceContract.Text.Pieces

/-!
# JSON text

`Json.compact` writes a value without blanks, `Json.pretty` with one item a line and two blanks
for each level. Characters beyond ASCII stand as they are; a float always shows a decimal point
or an exponent, and a positive exponent has its sign.
-/

namespace ServiceContract.Json

/-- Floats in JSON text: a positive exponent has a plus sign. -/
def floatForm : Decimal.Form := ⟨true⟩

/-- The text of a number. -/
def Number.text : Number → String
  | .int n => toString n
  | .float x => Decimal.text floatForm x

/-- One character inside a JSON string. -/
def escapedChar (c : Char) : String :=
  match c with
  | '"' => "\\\""
  | '\\' => "\\\\"
  | '\n' => "\\n"
  | '\r' => "\\r"
  | '\t' => "\\t"
  | _ =>
    if c.toNat = 0x08 then "\\b"
    else if c.toNat = 0x0C then "\\f"
    else if c.toNat < 0x20 then "\\u" ++ Text.hex 4 c.toNat
    else String.singleton c

/-- A JSON string. -/
def escaped (s : String) : String :=
  "\"" ++ String.join (s.toList.map escapedChar) ++ "\""

mutual

/-- The text of a value without blanks. -/
def compact : Json → String
  | .null => "null"
  | .bool b => if b then "true" else "false"
  | .number n => n.text
  | .text s => escaped s
  | .array items => "[" ++ ",".intercalate (compactItems items) ++ "]"
  | .object entries => "\x7b" ++ ",".intercalate (compactEntries entries) ++ "\x7d"

/-- The texts of the items of an array. -/
def compactItems : List Json → List String
  | [] => []
  | v :: vs => compact v :: compactItems vs

/-- The texts of the entries of an object. -/
def compactEntries : List (String × Json) → List String
  | [] => []
  | (k, v) :: rest => (escaped k ++ ":" ++ compact v) :: compactEntries rest

end

/-- A line break and the blanks of a level. -/
def newLine (level : Nat) : String :=
  "\n" ++ String.ofList (List.replicate (2 * level) ' ')

/-- Items between an opening and a closing mark, one a line. -/
def block (level : Nat) (opening closing : String) (items : List String) : String :=
  if items.isEmpty then opening ++ closing
  else
    opening ++ newLine (level + 1) ++ (("," ++ newLine (level + 1)).intercalate items) ++
      newLine level ++ closing

mutual

/-- The text of a value at a level, one item a line. -/
def prettyAt (level : Nat) : Json → String
  | .null => "null"
  | .bool b => if b then "true" else "false"
  | .number n => n.text
  | .text s => escaped s
  | .array items => block level "[" "]" (prettyItems (level + 1) items)
  | .object entries => block level "\x7b" "\x7d" (prettyEntries (level + 1) entries)

/-- The texts of the items of an array at a level. -/
def prettyItems (level : Nat) : List Json → List String
  | [] => []
  | v :: vs => prettyAt level v :: prettyItems level vs

/-- The texts of the entries of an object at a level. -/
def prettyEntries (level : Nat) : List (String × Json) → List String
  | [] => []
  | (k, v) :: rest => (escaped k ++ ": " ++ prettyAt level v) :: prettyEntries level rest

end

/-- The text of a value with one item a line. -/
def pretty (v : Json) : String :=
  prettyAt 0 v

end ServiceContract.Json
