import ServiceContract.Json.Basic
import ServiceContract.Text.Pieces

/-!
# Types of plain scalars

A plain scalar without a type of its own is null, a truth value, a whole number, a number or a
text, by its spelling. Digits after a leading zero are a text.

* `Plain.valueOf?`: the value of a plain scalar.
* `Plain.isText`: whether a spelling is a text, so that it can be written plainly.
-/

namespace ServiceContract.Yaml.Plain

/-- Whether a spelling is one of those of null; an empty one is not among them. -/
def isNull (s : String) : Bool :=
  s == "null" || s == "Null" || s == "NULL" || s == "~"

/-- The truth value of a spelling. -/
def bool? (s : String) : Option Bool :=
  if s == "true" || s == "True" || s == "TRUE" then some true
  else if s == "false" || s == "False" || s == "FALSE" then some false
  else none

/-- Whether a spelling is digits after a leading zero, perhaps with a sign. -/
def isZeroPadded (cs : List Char) : Bool :=
  let digits := match cs with
    | '-' :: rest | '+' :: rest => rest
    | cs => cs
  digits.length > 1 && digits.head? == some '0' && digits.all Char.isDigit

/-- A number in base 16, 8 or 2 after its mark. -/
def markedNatural? : List Char → Option Nat
  | '0' :: 'x' :: digits => Text.natIn? 16 digits
  | '0' :: 'o' :: digits => Text.natIn? 8 digits
  | '0' :: 'b' :: digits => Text.natIn? 2 digits
  | _ => none

/-- A whole number without a minus sign. -/
def natural? (cs : List Char) : Option Nat :=
  let bare := match cs with
    | '+' :: rest => rest
    | cs => cs
  match markedNatural? bare with
  | some n => some n
  | none => if isZeroPadded cs then none else Text.natIn? 10 bare

/-- A whole number with a minus sign. -/
def negative? : List Char → Option Int
  | '-' :: rest =>
    match markedNatural? rest with
    | some n => some (-n)
    | none => if isZeroPadded rest then none else (Text.natIn? 10 rest).map fun n => -(n : Int)
  | _ => none

/-- A whole number. -/
def integer? (cs : List Char) : Option Int :=
  ((natural? cs).map Int.ofNat).or (negative? cs)

/-- Digits before and after a point, of which there is at least one, and the rest. -/
def mantissa? (cs : List Char) : Option (List Char × List Char × List Char) :=
  let whole := cs.takeWhile Char.isDigit
  let rest := cs.dropWhile Char.isDigit
  let (fraction, rest) := match rest with
    | '.' :: rest => (rest.takeWhile Char.isDigit, rest.dropWhile Char.isDigit)
    | rest => ([], rest)
  if whole.isEmpty && fraction.isEmpty then none else some (whole, fraction, rest)

/-- The power of ten after a mantissa. -/
def power? : List Char → Option Int
  | [] => some 0
  | 'e' :: rest | 'E' :: rest => Text.integerIn? 10 rest
  | _ => none

/-- A decimal number, correctly rounded; one that is too large is refused. -/
def decimal? (cs : List Char) : Option Binary64 := do
  let (negative, cs) := match cs with
    | '-' :: rest => (true, rest)
    | cs => (false, cs)
  let (whole, fraction, rest) ← mantissa? cs
  let digits ← Text.natIn? 10 (whole ++ fraction)
  Binary64.ofDecimal? negative digits ((← power? rest) - fraction.length)

/-- A number that may be infinite or none at all. -/
inductive Real where
  | finite (x : Binary64)
  | special
  deriving DecidableEq, Repr, Inhabited

/-- A number by its spelling. -/
def real? (s : String) : Option Real :=
  let cs := s.toList
  let bare := match cs with
    | '+' :: rest => rest
    | cs => cs
  if cs != bare && (bare.head? == some '+' || bare.head? == some '-') then none
  else
    let word := String.ofList bare
    if word == ".inf" || word == ".Inf" || word == ".INF" then some .special
    else if s == "-.inf" || s == "-.Inf" || s == "-.INF" then some .special
    else if s == ".nan" || s == ".NaN" || s == ".NAN" then some .special
    else (decimal? bare).map .finite

/-- The JSON value of a number; one that is not finite is null. -/
def Real.toJson : Real → Json
  | .finite x => .number (.float x)
  | .special => .null

/-- The JSON value of a whole number; one that needs more than 64 bits is refused. -/
def ofInteger? (n : Int) : Option Json :=
  if -Int.pow 2 63 ≤ n && n < Int.pow 2 64 then some (.number (.int n)) else none

/-- Whether a whole number is read as one, rather than as a decimal number: it fits in 128
bits. -/
def isShort (n : Int) : Bool :=
  -Int.pow 2 127 ≤ n && n < Int.pow 2 128

/-- The whole number that a spelling is read as. -/
def shortInteger? (cs : List Char) : Option Int :=
  (integer? cs).filter isShort

/-- The value of a plain scalar. -/
def valueOf? (s : String) : Option Json :=
  if s.isEmpty || isNull s then some .null
  else match bool? s with
    | some b => some (.bool b)
    | none =>
      match shortInteger? s.toList with
      | some n => ofInteger? n
      | none =>
        if isZeroPadded s.toList then some (.text s)
        else match real? s with
          | some x => some x.toJson
          | none => some (.text s)

/-- Whether a spelling is a text. -/
def isText (s : String) : Bool :=
  !s.isEmpty && !isNull s && (bool? s).isNone && (shortInteger? s.toList).isNone &&
    !isZeroPadded s.toList && (real? s).isNone

end ServiceContract.Yaml.Plain
