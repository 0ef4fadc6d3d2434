import ServiceContract.Json.Printer
import ServiceContract.Yaml.Plain
import ServiceContract.Yaml.Scalar

/-!
# Writing YAML

Values are written in blocks: mappings indented by two, sequences in a mapping not indented,
scalars as plainly as they can be. A text with a line feed is literal, one that would be read as
something else is in single quotes, and one with characters that need an escape is in double
quotes.

* `Json.yaml`: a value as a YAML text.
-/

namespace ServiceContract.Yaml

/-- Numbers have no plus sign before an exponent. -/
def floatForm : Decimal.Form := ⟨false⟩

/-- A number as it is written. -/
def numberText : Json.Number → String
  | .int n => toString n
  | .float x => Decimal.text floatForm x

/-- Whether a character can be written as it is. -/
def isPrintable (c : Char) : Bool :=
  let n := c.toNat
  c == '\n' || (0x20 ≤ n && n ≤ 0x7E) || (0xA0 ≤ n && n ≤ 0xD7FF) ||
    (0xE000 ≤ n && n ≤ 0xFFFD && n != 0xFEFF) || 0x10000 ≤ n

/-- Whether two neighbours satisfy conditions, somewhere in a text. -/
def anyPair (p q : Char → Bool) : List Char → Bool
  | a :: b :: rest => (p a && q b) || anyPair p q (b :: rest)
  | _ => false

/-- Whether a colon before the end of a word, or a number sign after one, stands in a text after
its first character. -/
def hasIndicator : List Char → Bool
  | a :: b :: rest =>
    (b == ':' && endsWord rest.head?) || (b == '#' && endsWord (some a)) ||
      hasIndicator (b :: rest)
  | _ => false

/-- Whether a text starts like something other than a plain scalar. -/
def startsSpecially : List Char → Bool
  | [] => false
  | c :: rest =>
    ['#', ',', '[', ']', '\x7b', '\x7d', '&', '*', '!', '|', '>', '\'', '"', '%', '@',
      '\x60'].contains c ||
    (['?', ':', '-'].contains c && endsWord rest.head?) ||
    (c :: rest).take 3 == ['-', '-', '-'] || (c :: rest).take 3 == ['.', '.', '.']

/-- Whether a text holds a character that needs an escape, or a space before a break. -/
def needsEscape (cs : List Char) : Bool :=
  !cs.all isPrintable || anyPair (· == ' ') isBreak cs

/-- Whether a text can be written plainly, if it is a text by its spelling. -/
def plainAllowed (cs : List Char) : Bool :=
  let isEdge (c : Option Char) := c.any fun c => c == ' ' || isBreak c
  !isEdge cs.head? && !isEdge cs.getLast? && !cs.any isBreak && !needsEscape cs &&
    !startsSpecially cs && !hasIndicator cs

/-- Whether a text can be written in single quotes. -/
def singleAllowed (cs : List Char) : Bool :=
  !anyPair isBreak (· == ' ') cs && !needsEscape cs

/-- Whether a text can be written literally. -/
def literalAllowed (cs : List Char) : Bool :=
  cs.getLast? != some ' ' && !needsEscape cs

/-- The style in which a text is written. -/
def styleOf (s : String) : Style :=
  let cs := s.toList
  let double := Style.doubleQuoted
  if cs.contains '\n' then if literalAllowed cs then .literal else double
  else if Plain.isText s && plainAllowed cs then .plain
  else if singleAllowed cs then .singleQuoted
  else double

/-- Spaces up to a column. -/
def pad (indent : Nat) : List Char :=
  List.replicate indent ' '

/-- A text whose lines are indented; blank ones are not. `atStart` says whether a line starts
here. -/
def indented (indent : Nat) : (atStart : Bool) → List Char → List Char
  | _, [] => []
  | atStart, c :: rest =>
    if isBreak c then c :: indented indent true rest
    else (if atStart then pad indent else []) ++ c :: indented indent false rest

/-- A text between single quotes. A break is followed by indentation, also at the end. -/
def singleQuoted (indent : Nat) (cs : List Char) : List Char :=
  let quotes := cs.flatMap fun c => if c == '\'' then ['\'', '\''] else [c]
  let close := if cs.getLast?.any isBreak then pad indent else []
  '\'' :: indented indent false quotes ++ close ++ ['\'']

/-- The letter that stands for a character after a backslash. -/
def escapeLetter? : Char → Option Char
  | '\x00' => some '0'
  | '\x07' => some 'a'
  | '\x08' => some 'b'
  | '\t' => some 't'
  | '\n' => some 'n'
  | '\x0b' => some 'v'
  | '\x0c' => some 'f'
  | '\r' => some 'r'
  | '\x1b' => some 'e'
  | '"' => some '"'
  | '\\' => some '\\'
  | '\u0085' => some 'N'
  | '\u00a0' => some '_'
  | '\u2028' => some 'L'
  | '\u2029' => some 'P'
  | _ => none

/-- A character between double quotes. -/
def doubleQuotedChar (c : Char) : List Char :=
  if isPrintable c && !isBreak c && c != '"' && c != '\\' then [c]
  else match escapeLetter? c with
    | some letter => ['\\', letter]
    | none =>
      let n := c.toNat
      let digits := fun width => (Text.upper (Text.hex width n)).toList
      if n ≤ 0xFF then '\\' :: 'x' :: digits 2
      else if n ≤ 0xFFFF then '\\' :: 'u' :: digits 4
      else '\\' :: 'U' :: digits 8

/-- A text between double quotes. -/
def doubleQuoted (cs : List Char) : List Char :=
  '"' :: cs.flatMap doubleQuotedChar ++ ['"']

/-- The sign for how a literal text ends. -/
def chompSign (cs : List Char) : List Char :=
  match cs.reverse with
  | [] => ['-']
  | last :: before =>
    if !isBreak last then ['-']
    else if before.head?.all isBreak then ['+']
    else []

/-- A literal text, with the lines below its header. -/
def literal (indent : Nat) (cs : List Char) : List Char :=
  let digit := if cs.head?.any fun c => c == ' ' || isBreak c then ['2'] else []
  '|' :: digit ++ chompSign cs ++ '\n' :: indented indent true cs

/-- A text in its style, where lines below the first are indented. -/
def textAt (indent : Nat) (s : String) : List Char :=
  let cs := s.toList
  match styleOf s with
  | .plain => cs
  | .singleQuoted => singleQuoted indent cs
  | .doubleQuoted => doubleQuoted cs
  | .literal | .folded => literal indent cs

/-- A text with the end of its line. A literal text may have it already. -/
def lineOf (cs : List Char) : List Char :=
  if cs.getLast?.any isBreak then cs else cs ++ ['\n']

/-- Whether a key fits on the line of its value: it has no break and at most 128 octets. -/
def isSimpleKey (s : String) : Bool :=
  !s.toList.any isBreak && s.utf8ByteSize ≤ 128

/-- A value that takes no lines of its own: a scalar or an empty collection. -/
def leaf (indent : Nat) : Json → List Char
  | .null => "null".toList
  | .bool b => (if b then "true" else "false").toList
  | .number n => (numberText n).toList
  | .text s => textAt indent s
  | .array _ => ['[', ']']
  | .object _ => ['\x7b', '\x7d']

mutual

/-- A value after a dash or a colon on a line of its own, in a collection of some indentation. -/
def afterDash (indent : Nat) : Json → List Char
  | .array (item :: items) => itemLines (indent + 2) (item :: items)
  | .object (entry :: entries) => entryLines (indent + 2) (entry :: entries)
  | v => lineOf (leaf (indent + 2) v)

/-- A value after a key on its line, in a mapping of some indentation. -/
def afterKey (indent : Nat) : Json → List Char
  | .array (item :: items) => '\n' :: pad indent ++ itemLines indent (item :: items)
  | .object (entry :: entries) =>
    '\n' :: pad (indent + 2) ++ entryLines (indent + 2) (entry :: entries)
  | v => ' ' :: lineOf (leaf (indent + 2) v)

/-- The lines of a sequence; the first line is indented already. -/
def itemLines (indent : Nat) : List Json → List Char
  | [] => []
  | item :: items =>
    '-' :: ' ' :: afterDash indent item ++
      match items with
      | [] => []
      | next :: later => pad indent ++ itemLines indent (next :: later)

/-- The lines of a mapping; the first line is indented already. -/
def entryLines (indent : Nat) : List (String × Json) → List Char
  | [] => []
  | (key, value) :: entries =>
    (if isSimpleKey key then textAt (indent + 2) key ++ ':' :: afterKey indent value
      else '?' :: ' ' :: lineOf (textAt (indent + 2) key) ++
        pad indent ++ ':' :: ' ' :: afterDash indent value) ++
      match entries with
      | [] => []
      | next :: later => pad indent ++ entryLines indent (next :: later)

end

end ServiceContract.Yaml

namespace ServiceContract

/-- A value as a YAML text. -/
def Json.yaml : Json → String
  | .array (item :: items) => String.ofList (Yaml.itemLines 0 (item :: items))
  | .object (entry :: entries) => String.ofList (Yaml.entryLines 0 (entry :: entries))
  | v => String.ofList (Yaml.lineOf (Yaml.leaf 2 v))

end ServiceContract
