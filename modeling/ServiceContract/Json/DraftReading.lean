import ServiceContract.Json.Draft
import ServiceContract.Reader

/-!
# Records from JSON texts

Records are read from the draft of a text, so that the first fault or mismatch in the order of
the text is the one reported. A field that no record knows is passed over; only a hard fault in
it counts.
-/

namespace ServiceContract.Json

/-- Why a JSON text does not give a value: it is not JSON, or not of the wanted shape. -/
inductive TextError where
  | malformed
  | mismatch (m : Mismatch)
  deriving DecidableEq, Repr

namespace Draft

mutual

/-- Whether a draft has no hard fault. -/
def sound : Draft → Bool
  | .broken => false
  | .array _ items closed => closed && soundItems items
  | .object _ entries closed => closed && soundEntries entries
  | _ => true

/-- Whether no item has a hard fault. -/
def soundItems : List Draft → Bool
  | [] => true
  | d :: ds => sound d && soundItems ds

/-- Whether no entry has a hard fault. -/
def soundEntries : List (Option String × Draft) → Bool
  | [] => true
  | (_, d) :: rest => sound d && soundEntries rest

end

mutual

/-- The value of a draft without faults. -/
def toJson : Draft → Except TextError Json
  | .null => .ok .null
  | .bool b => .ok (.bool b)
  | .number (some n) => .ok (.number n)
  | .text (some s) => .ok (.text s)
  | .array false items true => do return .array (← toItems items)
  | .object false entries true => do return .object (Json.sorted (← toEntries entries))
  | _ => .error .malformed

/-- The values of the items. -/
def toItems : List Draft → Except TextError (List Json)
  | [] => .ok []
  | d :: ds => do
    let v ← toJson d
    return v :: (← toItems ds)

/-- The values of the entries. -/
def toEntries : List (Option String × Draft) → Except TextError (List (String × Json))
  | [] => .ok []
  | (none, _) :: _ => .error .malformed
  | (some key, d) :: rest => do
    let v ← toJson d
    return (key, v) :: (← toEntries rest)

end

/-- Reports a mismatch. -/
def refuse {β : Type} (m : Mismatch) : Except TextError β :=
  .error (.mismatch m)

/-- Reports a draft of a wrong type; a spoilt value is a fault of the text. -/
def wrongType {β : Type} (d : Draft) (expected : String) : Except TextError β :=
  let found? : Option Found :=
    match d with
    | .null => some .null
    | .bool b => some (.bool b)
    | .number n => n.map fun n => Found.ofJson (.number n)
    | .text s => s.map .text
    | .array _ _ _ => some .sequence
    | .object _ _ _ => some .map
    | .broken => none
  match found? with
  | some found => refuse (.wrongType found expected)
  | none => .error .malformed

/-- A text. -/
def readText : Draft → Except TextError String
  | .text (some s) => .ok s
  | d => wrongType d "a string"

/-- Null, or a text. -/
def readOptionalText : Draft → Except TextError (Option String)
  | .null => .ok none
  | d => do return some (← readText d)

/-- A whole number from `lo` to `hi`. -/
def readInt (lo hi : Int) (expected : String) : Draft → Except TextError Int
  | .number (some (.int n)) =>
    if lo ≤ n && n ≤ hi then .ok n else refuse (.wrongValue (.int n) expected)
  | d => wrongType d expected

/-- A whole number below `2 ^ 32`. -/
def readNatural32 (d : Draft) : Except TextError UInt32 := do
  return UInt32.ofNat (← readInt 0 (Int.pow 2 32 - 1) "u32" d).toNat

/-- A whole number from `-2 ^ 31` to `2 ^ 31 - 1`. -/
def readInteger32 (d : Draft) : Except TextError Int32 := do
  return Int32.ofInt (← readInt (-Int.pow 2 31) (Int.pow 2 31 - 1) "i32" d)

/-- Goes on only if `ok`; otherwise the text is at fault. -/
def need (ok : Bool) : Except TextError Unit :=
  if ok then .ok () else .error .malformed

/-- A list. -/
def readList {α : Type} (read : Draft → Except TextError α) :
    Draft → Except TextError (List α)
  | .array deep items closed => do
    need !deep
    let values ← items.mapM read
    need closed
    return values
  | d => wrongType d "a sequence"

/-- A map of untyped values. -/
def readValues : Draft → Except TextError (List (String × Json))
  | .object deep entries closed => do
    need !deep
    let values ← toEntries entries
    need closed
    return Json.sorted values
  | d => wrongType d "a map"

/-- A record. -/
def readRecord {α : Type} (rec : Record (Except TextError) Draft α) :
    Draft → Except TextError α
  | .object deep entries closed => do
    need !deep
    let state ← entries.foldlM (fun state (key?, value) =>
      match key? with
      | none => .error .malformed
      | some key => rec.step refuse (fun d => need d.sound) state key value) ([], rec.blank)
    need closed
    rec.finish refuse state
  | .array deep items closed => do
    need !deep
    let (a, rest) ← rec.fillItems refuse (need closed) 0 rec.slots items rec.blank
    need (closed && rest.isEmpty)
    return a
  | d => wrongType d rec.title

/-- Records are read from drafts. -/
def reader : Reader (Except TextError) Draft where
  text := readText
  optionalText := readOptionalText
  natural32 := readNatural32
  integer32 := readInteger32
  list := readList
  record := readRecord
  values := readValues

end Draft

/-- Reads a text with `read`; after the value only blanks may follow. -/
def readAll {α : Type} (read : Draft → Except TextError α) (s : String) :
    Except TextError α := do
  let (draft, ended) := Draft.ofText s
  let a ← read draft
  Draft.need ended
  return a

/-- The value that a text writes. -/
def ofText (s : String) : Except TextError Json :=
  readAll Draft.toJson s

end ServiceContract.Json
