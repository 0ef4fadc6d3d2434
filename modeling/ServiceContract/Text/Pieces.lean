/-!
# Pieces of a text

Splitting at a separator, cutting at the first one, taking a known start away, and the form of
an identifier: a letter or underscore, then letters, digits and underscores, all ASCII.
-/

namespace ServiceContract.Text

/-- The pieces of a text between the separators, one more than there are separators. -/
def pieces (sep : Char) : List Char → List (List Char)
  | [] => [[]]
  | c :: cs =>
    if c = sep then [] :: pieces sep cs
    else match pieces sep cs with
      | [] => [[c]]
      | p :: ps => (c :: p) :: ps

/-- What stands before and after the first separator, if there is one. -/
def cut? (sep : Char) : List Char → Option (List Char × List Char)
  | [] => none
  | c :: cs => if c = sep then some ([], cs) else (cut? sep cs).map fun (a, b) => (c :: a, b)

/-- What follows `start` in a text that begins with it. -/
def after? : (start cs : List Char) → Option (List Char)
  | [], cs => some cs
  | _ :: _, [] => none
  | s :: start, c :: cs => if s = c then after? start cs else none

/-- Whether `part` occurs in a text as a run of neighbouring characters. -/
def occurs (part : List Char) : List Char → Bool
  | [] => part.isEmpty
  | c :: cs => part.isPrefixOf (c :: cs) || occurs part cs

/-- A letter or underscore. -/
def isIdentifierStart (c : Char) : Bool :=
  c.isAlpha || c == '_'

/-- A letter, digit or underscore. -/
def isIdentifierChar (c : Char) : Bool :=
  c.isAlphanum || c == '_'

/-- A letter or underscore, then any number of letters, digits and underscores. -/
def isIdentifier : List Char → Bool
  | [] => false
  | c :: cs => isIdentifierStart c && cs.all isIdentifierChar

/-- The ASCII letters of `s` in upper case; all else stays. -/
def upper (s : String) : String :=
  String.ofList (s.toList.map Char.toUpper)

/-- The ASCII letters of `s` in lower case; all else stays. -/
def lower (s : String) : String :=
  String.ofList (s.toList.map Char.toLower)

/-- The value of a decimal digit. -/
def digitValue (c : Char) : Nat :=
  c.toNat - '0'.toNat

/-- The value of a digit in a base up to sixteen, letters in either case. -/
def digitIn? (base : Nat) (c : Char) : Option Nat :=
  let v? :=
    if c.isDigit then some (digitValue c)
    else if 'a' ≤ c && c ≤ 'f' then some (c.toNat - 'a'.toNat + 10)
    else if 'A' ≤ c && c ≤ 'F' then some (c.toNat - 'A'.toNat + 10)
    else none
  v?.filter (· < base)

/-- The number that a non-empty run of digits writes in a base up to sixteen. -/
def natIn? (base : Nat) (cs : List Char) : Option Nat :=
  if cs.isEmpty then none
  else cs.foldlM (fun n c => (digitIn? base c).map (n * base + ·)) 0

/-- A whole number with an optional plus sign, as a decimal. -/
def natural? (cs : List Char) : Option Nat :=
  match cs with
  | '+' :: rest => natIn? 10 rest
  | _ => natIn? 10 cs

/-- A whole number with an optional sign, in a base up to sixteen. -/
def integerIn? (base : Nat) (cs : List Char) : Option Int :=
  match cs with
  | '+' :: rest => (natIn? base rest).map Int.ofNat
  | '-' :: rest => (natIn? base rest).map fun n => -Int.ofNat n
  | _ => (natIn? base cs).map Int.ofNat

/-- `n` in base sixteen with small letters, at least `width` digits. -/
def hex (width n : Nat) : String :=
  let digits := Nat.toDigits 16 n
  String.ofList (List.replicate (width - digits.length) '0' ++ digits)

end ServiceContract.Text
