import ServiceContract.Reader

/-!
# Records from JSON values

A record is read from an object, or from an array that lists its fields in order. Fields at the
end of such an array may be left out if they are not required.
-/

namespace ServiceContract.Json

/-- Reports a mismatch. -/
def refuse {β : Type} (m : Mismatch) : Except Mismatch β :=
  .error m

/-- Reports a value of a wrong type. -/
def wrongType {β : Type} (v : Json) (expected : String) : Except Mismatch β :=
  refuse (.wrongType (.ofJson v) expected)

/-- A text. -/
def readText : Json → Except Mismatch String
  | .text s => .ok s
  | v => wrongType v "a string"

/-- A truth value. -/
def readBool : Json → Except Mismatch Bool
  | .bool b => .ok b
  | v => wrongType v "a boolean"

/-- A number as binary64; a whole number is rounded. -/
def readFloat : Json → Except Mismatch Binary64
  | .number (.float x) => .ok x
  | .number (.int n) => .ok ((Binary64.ofInt? n).getD (.zero false))
  | v => wrongType v "f64"

/-- Null, or what `read` makes of the value. -/
def readOptional {α : Type} (read : Json → Except Mismatch α) :
    Json → Except Mismatch (Option α)
  | .null => .ok none
  | v => do return some (← read v)

/-- A whole number from `lo` to `hi`. -/
def readInt (lo hi : Int) (expected : String) : Json → Except Mismatch Int
  | .number (.int n) =>
    if lo ≤ n && n ≤ hi then .ok n else refuse (.wrongValue (.int n) expected)
  | v => wrongType v expected

/-- A whole number below `2 ^ 32`. -/
def readNatural32 (v : Json) : Except Mismatch UInt32 := do
  return UInt32.ofNat (← readInt 0 (Int.pow 2 32 - 1) "u32" v).toNat

/-- A whole number from `-2 ^ 31` to `2 ^ 31 - 1`. -/
def readInteger32 (v : Json) : Except Mismatch Int32 := do
  return Int32.ofInt (← readInt (-Int.pow 2 31) (Int.pow 2 31 - 1) "i32" v)

/-- A list. -/
def readList {α : Type} (read : Json → Except Mismatch α) : Json → Except Mismatch (List α)
  | .array items => items.mapM read
  | v => wrongType v "a sequence"

/-- The entries of an object. -/
def readEntries : Json → Except Mismatch (List (String × Json))
  | .object entries => .ok entries
  | v => wrongType v "a map"

/-- A record. -/
def readRecord {α : Type} (rec : Record (Except Mismatch) Json α) :
    Json → Except Mismatch α
  | .object entries => do
    let state ← entries.foldlM
      (fun state (key, value) => rec.step refuse (fun _ => .ok ()) state key value)
      ([], rec.blank)
    rec.finish refuse state
  | .array items => do
    let (a, rest) ← rec.fillItems refuse (.ok ()) 0 rec.slots items rec.blank
    if rest.isEmpty then .ok a
    else refuse (.wrongLength items.length "fewer elements in array")
  | v => wrongType v rec.title

/-- Records are read from JSON values. -/
def reader : Reader (Except Mismatch) Json where
  text := readText
  optionalText := readOptional readText
  natural32 := readNatural32
  integer32 := readInteger32
  list := readList
  record := readRecord
  values := readEntries

end ServiceContract.Json
