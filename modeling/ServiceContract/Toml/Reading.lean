import ServiceContract.Toml.Scalar
import ServiceContract.Toml.Table

/-!
# Reading TOML

The part of TOML that settings are written in: keys with texts, whole numbers, empty arrays and
tables, and headers of tables. Everything else is refused.

* `Toml.Table.ofText?`: the table that a text writes.
-/

namespace ServiceContract.Toml

/-- Passes over spaces. -/
def skipSpaces (cs : List Char) : List Char :=
  cs.dropWhile isSpace

/-- Passes over a comment, if there is one. -/
def skipComment (cs : List Char) : List Char :=
  if cs.head? == some '#' then cs.dropWhile isTextChar else cs

/-- Passes over spaces, comments and line ends. -/
def skipLines : (fuel : Nat) → List Char → List Char
  | 0, cs => cs
  | fuel + 1, cs =>
    let cs := skipComment (skipSpaces cs)
    match afterLineEnd? cs with
    | some rest => skipLines fuel rest
    | none => cs

/-- What follows the end of a line that has only spaces and a comment left. -/
def endOfLine? (cs : List Char) : Option (List Char) :=
  match skipComment (skipSpaces cs) with
  | [] => some []
  | cs => afterLineEnd? cs

/-- Whether a character may stand in a key without quotes. -/
def isKeyChar (c : Char) : Bool :=
  c.isAlphanum || c == '_' || c == '-'

/-- One part of a key: a word, or a text on one line. -/
def keyPart? (cs : List Char) : Option (String × List Char) := do
  let first ← cs.head?
  if first == '"' || first == '\'' then
    let (xs, rest) ← lineText first (cs.length + 1) (cs.drop 1)
    return (String.ofList xs, rest)
  else
    let word := cs.takeWhile isKeyChar
    if word.isEmpty then none else return (String.ofList word, cs.drop word.length)

/-- A dotted key, with spaces around its dots, and what follows it and its spaces. -/
def keyPath : (fuel : Nat) → List Char → Option (List String × List Char)
  | 0, _ => none
  | fuel + 1, cs => do
    let (key, rest) ← keyPart? (skipSpaces cs)
    match skipSpaces rest with
    | '.' :: rest => do
      let (keys, rest) ← keyPath fuel rest
      return (key :: keys, rest)
    | rest => return ([key], rest)

mutual

/-- A key, an equals sign and a value, and what follows. -/
def assignment : (fuel : Nat) → List Char → Option (List String × Item × List Char)
  | 0, _ => none
  | fuel + 1, cs => do
    let (path, rest) ← keyPath (cs.length + 1) cs
    if rest.head? != some '=' then none
    else
      let (item, rest) ← value fuel (skipSpaces (rest.drop 1))
      return (path, item, rest)

/-- A value, and what follows it. -/
def value : (fuel : Nat) → List Char → Option (Item × List Char)
  | 0, _ => none
  | fuel + 1, cs =>
    match cs with
    | '[' :: rest =>
      match skipLines (rest.length + 1) rest with
      | ']' :: rest => some (.emptyArray, rest)
      | _ => none
    | '\x7b' :: rest => do
      let (entries, rest) ← inlineTable fuel [] rest
      return (.table .braces entries, rest)
    | _ =>
      match text? cs with
      | some (s, rest) => some (.text s, rest)
      | none =>
        let word := cs.takeWhile fun c => isKeyChar c || c == '+'
        (integer? word).map fun n => (.integer n, cs.drop word.length)

/-- The rest of a table between braces. A comma may follow its last entry. -/
def inlineTable : (fuel : Nat) → Table → List Char → Option (Table × List Char)
  | 0, _, _ => none
  | fuel + 1, t, cs =>
    let cs := skipLines (cs.length + 1) cs
    match cs with
    | '\x7d' :: rest => some (t, rest)
    | cs => do
      let (path, item, rest) ← assignment fuel cs
      let t ← t.assign item path
      match skipLines (rest.length + 1) rest with
      | ',' :: rest => inlineTable fuel t rest
      | '\x7d' :: rest => return (t, rest)
      | _ => none

end

/-- The header of a table, and what follows its line. -/
def header? (cs : List Char) : Option (List String × List Char) := do
  let (path, rest) ← keyPath (cs.length + 1) cs
  if rest.head? != some ']' then none else return (path, ← endOfLine? (rest.drop 1))

/-- Takes in lines. Keys belong to the table of the last header. -/
def lines : (fuel : Nat) → (current : List String) → Table → List Char → Option Table
  | 0, _, _, _ => none
  | fuel + 1, current, t, cs =>
    match skipLines (cs.length + 1) cs with
    | [] => some t
    | '[' :: rest => do
      let (path, rest) ← header? rest
      lines fuel path (← t.head path) rest
    | cs => do
      let (path, item, rest) ← assignment (cs.length + 1) cs
      lines fuel current (← t.under (Table.assign item path) current) (← endOfLine? rest)

/-- The table that a text writes. -/
def Table.ofText? (s : String) : Option Table :=
  let cs := s.toList
  let cs := if cs.head? == some '\ufeff' then cs.drop 1 else cs
  lines (cs.length + 1) [] [] cs

end ServiceContract.Toml
