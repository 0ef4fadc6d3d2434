import ServiceContract.Json.Basic
import ServiceContract.Text.Pieces

/-!
# Drafts of JSON texts

A text is read into a draft: what can be made out of it up to the point where it stops being
JSON. A reader of the draft then meets faults and mismatches in the order of the text, so the
first of them decides. Faults come in two kinds. After a hard fault nothing more can be read: the
draft ends there, in `Draft.broken` or in a container that is not closed. A soft fault spoils one
value only, which matters if the value is used and not if it is passed over: a string that names
half a character, a number beyond the range, a container nested too deep.

* `Draft.ofText`: the draft of a text, and whether only blanks follow it.
* `numberValue?`: the value of a number. Digits count as long as they fit into 64 bits.
-/

namespace ServiceContract.Json

/-- What can be made out of a JSON text. -/
inductive Draft where
  | null
  | bool (b : Bool)
  | number (n : Option Number)
  | text (s : Option String)
  | array (deep : Bool) (items : List Draft) (closed : Bool)
  | object (deep : Bool) (entries : List (Option String × Draft)) (closed : Bool)
  | broken
  deriving Inhabited

/-- The greatest whole number that is read exactly. -/
def maxNatural : Nat := Nat.pow 2 64 - 1

/-- The greatest exponent that is read exactly. -/
def maxPower : Nat := Nat.pow 2 31 - 1

/-- The number that the whole digits write while it fits, and how many digits were left out. -/
def wholeDigits (ints : List Char) : Nat × Nat :=
  let step (state : Nat × Nat) (c : Char) : Nat × Nat :=
    let next := state.1 * 10 + Text.digitValue c
    if 0 < state.2 || maxNatural < next then (state.1, state.2 + 1) else (next, 0)
  ints.foldl step (0, 0)

/-- Continues a number with decimals while it fits; gives the power of ten that the last digit
stands for. -/
def decimalDigits (value : Nat) (power : Int) : List Char → Nat × Int
  | [] => (value, power)
  | c :: cs =>
    let next := value * 10 + Text.digitValue c
    if maxNatural < next then (value, power) else decimalDigits next (power - 1) cs

/-- The exponent of a number, if it is written: whether it is negative, and its digits. -/
abbrev Exponent := Option (Bool × List Char)

/-- The value of a number from its sign, whole digits, decimals and exponent. -/
def numberValue? (negative : Bool) (ints fraction : List Char) (exponent : Exponent) :
    Option Number :=
  let (value, dropped) := wholeDigits ints
  if fraction.isEmpty && exponent.isNone && dropped == 0 &&
      (!negative || (value != 0 && value ≤ Nat.pow 2 63)) then
    some (.int (if negative then -value else value))
  else
    let (value, power) := decimalDigits value dropped fraction
    let float? : Option Binary64 :=
      match exponent with
      | none => Binary64.scaled? negative value power
      | some (down, digits) =>
        let shift := (Text.natIn? 10 digits).getD 0
        if maxPower < shift then
          if value != 0 && !down then none else some (.zero negative)
        else Binary64.scaled? negative value (if down then power - shift else power + shift)
    float?.map .float

/-- The exponent at the start of a text, and what follows. `none` if it has no digits. -/
def exponentPart (cs : List Char) : Option (Exponent × List Char) :=
  let digitsOf (down : Bool) (cs : List Char) :=
    let digits := cs.takeWhile Char.isDigit
    if digits.isEmpty then none else some (some (down, digits), cs.dropWhile Char.isDigit)
  match cs with
  | 'e' :: '+' :: rest | 'E' :: '+' :: rest => digitsOf false rest
  | 'e' :: '-' :: rest | 'E' :: '-' :: rest => digitsOf true rest
  | 'e' :: rest | 'E' :: rest => digitsOf false rest
  | _ => some (none, cs)

/-- The decimals at the start of a text, and what follows. `none` if a point has no digits. -/
def fractionPart (cs : List Char) : Option (List Char × List Char) :=
  match cs with
  | '.' :: rest =>
    let digits := rest.takeWhile Char.isDigit
    if digits.isEmpty then none else some (digits, rest.dropWhile Char.isDigit)
  | _ => some ([], cs)

/-- A number after its sign. `none` if there is none; a number out of range has no value. -/
def number? (negative : Bool) (cs : List Char) : Option (Option Number × List Char) := do
  let ints := cs.takeWhile Char.isDigit
  let rest := cs.dropWhile Char.isDigit
  guard (!ints.isEmpty && (ints.length == 1 || ints.head? != some '0'))
  let (fraction, rest) ← fractionPart rest
  let (exponent, rest) ← exponentPart rest
  return (numberValue? negative ints fraction exponent, rest)

/-- A part of a string: a character, or a code unit of 16 bits given by its number. -/
inductive Piece where
  | char (c : Char)
  | unit (n : Nat)

/-- The character that a one-letter escape stands for. -/
def escape? : Char → Option Char
  | '"' => some '"'
  | '\\' => some '\\'
  | '/' => some '/'
  | 'b' => some '\x08'
  | 'f' => some '\x0c'
  | 'n' => some '\n'
  | 'r' => some '\r'
  | 't' => some '\t'
  | _ => none

/-- The parts of a string up to its closing quote, and what follows. -/
def stringPieces : List Char → Option (List Piece × List Char)
  | [] => none
  | '"' :: cs => some ([], cs)
  | '\\' :: 'u' :: a :: b :: c :: d :: cs => do
    let n ← Text.natIn? 16 [a, b, c, d]
    let (pieces, rest) ← stringPieces cs
    return (.unit n :: pieces, rest)
  | '\\' :: e :: cs => do
    let c ← escape? e
    let (pieces, rest) ← stringPieces cs
    return (.char c :: pieces, rest)
  | c :: cs =>
    if c.toNat < 0x20 || c == '\\' then none
    else do
      let (pieces, rest) ← stringPieces cs
      return (.char c :: pieces, rest)

/-- The first half of a character beyond 16 bits. -/
def isHighHalf (n : Nat) : Bool := 0xD800 ≤ n && n ≤ 0xDBFF

/-- The second half of a character beyond 16 bits. -/
def isLowHalf (n : Nat) : Bool := 0xDC00 ≤ n && n ≤ 0xDFFF

/-- The characters of a string; `none` if half a character stands alone. `pending` is a first
half whose second half must come next. -/
def charsFrom : (pending : Option Nat) → List Piece → Option (List Char)
  | none, [] => some []
  | some _, [] => none
  | none, .char c :: ps => (c :: ·) <$> charsFrom none ps
  | some _, .char _ :: _ => none
  | none, .unit n :: ps =>
    if isHighHalf n then charsFrom (some n) ps
    else if isLowHalf n then none
    else (Char.ofNat n :: ·) <$> charsFrom none ps
  | some high, .unit n :: ps =>
    if isLowHalf n then
      (Char.ofNat (0x10000 + (high - 0xD800) * 0x400 + (n - 0xDC00)) :: ·) <$> charsFrom none ps
    else none

/-- A string after its opening quote. -/
def string? (cs : List Char) : Option (Option String × List Char) := do
  let (pieces, rest) ← stringPieces cs
  return ((charsFrom none pieces).map String.ofList, rest)

namespace Draft

/-- A text without the blanks at its start. -/
def skipBlanks (cs : List Char) : List Char :=
  cs.dropWhile fun c => c == ' ' || c == '\n' || c == '\t' || c == '\r'

/-- Containers may be nested this deep. -/
def maxDepth : Nat := 127

/-- A draft with what follows it, if reading can go on. -/
abbrev Step := Draft × Option (List Char)

/-- A word that stands for a value. -/
def word (start : String) (value : Draft) (cs : List Char) : Step :=
  match Text.after? start.toList cs with
  | some rest => (value, some rest)
  | none => (.broken, none)

/-- A draft from a reading that may fail. -/
def ofReading {α : Type} (make : α → Draft) : Option (α × List Char) → Step
  | some (a, rest) => (make a, some rest)
  | none => (.broken, none)

mutual

/-- The value at the start of a text, inside `depth` containers. `fuel` bounds the characters
that are left. -/
def value (fuel depth : Nat) (cs : List Char) : Step :=
  match fuel with
  | 0 => (.broken, none)
  | fuel + 1 =>
    match skipBlanks cs with
    | 'n' :: rest => word "ull" .null rest
    | 't' :: rest => word "rue" (.bool true) rest
    | 'f' :: rest => word "alse" (.bool false) rest
    | '"' :: rest => ofReading .text (string? rest)
    | '-' :: rest => ofReading .number (number? true rest)
    | '[' :: rest =>
      let deep := maxDepth ≤ depth
      match skipBlanks rest with
      | ']' :: rest => (.array deep [] true, some rest)
      | rest =>
        let (found, rest?) := items fuel (depth + 1) rest
        (.array deep found rest?.isSome, rest?)
    | '\x7b' :: rest =>
      let deep := maxDepth ≤ depth
      match skipBlanks rest with
      | '\x7d' :: rest => (.object deep [] true, some rest)
      | rest =>
        let (found, rest?) := entries fuel (depth + 1) rest
        (.object deep found rest?.isSome, rest?)
    | c :: rest =>
      if c.isDigit then ofReading .number (number? false (c :: rest)) else (.broken, none)
    | [] => (.broken, none)

/-- The items of an array from one item on, and what follows its closing bracket. -/
def items (fuel depth : Nat) (cs : List Char) : List Draft × Option (List Char) :=
  match fuel with
  | 0 => ([], none)
  | fuel + 1 =>
    match value fuel depth cs with
    | (v, none) => ([v], none)
    | (v, some rest) =>
      match skipBlanks rest with
      | ']' :: rest => ([v], some rest)
      | ',' :: rest =>
        match skipBlanks rest with
        | ']' :: _ => ([v], none)
        | rest =>
          let (vs, rest?) := items fuel depth rest
          (v :: vs, rest?)
      | _ => ([v], none)

/-- The entries of an object from one entry on, and what follows its closing brace. -/
def entries (fuel depth : Nat) (cs : List Char) :
    List (Option String × Draft) × Option (List Char) :=
  match fuel with
  | 0 => ([], none)
  | fuel + 1 =>
    match skipBlanks cs with
    | '"' :: rest =>
      match string? rest with
      | none => ([], none)
      | some (key, rest) =>
        match skipBlanks rest with
        | ':' :: rest =>
          match value fuel depth rest with
          | (v, none) => ([(key, v)], none)
          | (v, some rest) =>
            match skipBlanks rest with
            | '\x7d' :: rest => ([(key, v)], some rest)
            | ',' :: rest =>
              let (more, rest?) := entries fuel depth rest
              ((key, v) :: more, rest?)
            | _ => ([(key, v)], none)
        | _ => ([(key, .broken)], none)
    | _ => ([], none)

end

/-- The draft of a text, and whether nothing but blanks follows the value. -/
def ofText (s : String) : Draft × Bool :=
  let cs := s.toList
  let (draft, rest?) := value (cs.length + 1) 0 cs
  (draft, match rest? with
    | some rest => (skipBlanks rest).isEmpty
    | none => false)

end Draft

end ServiceContract.Json
