import ServiceContract.Text.Pieces

/-!
# Texts and whole numbers in TOML

A text is written between single or double quotes, one or three on each side. Double quotes have
escapes, and texts between three quotes may go over lines. A whole number is decimal with an
optional sign, or in base 16, 8 or 2 after a mark, with underscores between its digits.

* `Toml.text?`: the text at the start of some characters, and what follows it.
* `Toml.integer?`: the whole number that some characters write.
-/

namespace ServiceContract.Toml

/-- Whether a character may stand in a text or comment: all but control characters other than
the tab. -/
def isTextChar (c : Char) : Bool :=
  c == '\t' || (0x20 ≤ c.toNat && c.toNat != 0x7F)

/-- Whether a character is a space or a tab. -/
def isSpace (c : Char) : Bool :=
  c == ' ' || c == '\t'

/-- What follows a line end. -/
def afterLineEnd? : List Char → Option (List Char)
  | '\n' :: rest => some rest
  | '\r' :: '\n' :: rest => some rest
  | _ => none

/-- The character of a number of hexadecimal digits, and what follows them. -/
def codePoint? (width : Nat) (cs : List Char) : Option (Char × List Char) := do
  let digits := cs.take width
  let n ← Text.natIn? 16 digits
  if digits.length == width && n.isValidChar then return (Char.ofNat n, cs.drop width) else none

/-- The character that an escape stands for, after its backslash, and what follows it. -/
def escaped? : List Char → Option (Char × List Char)
  | 'b' :: rest => some ('\x08', rest)
  | 't' :: rest => some ('\t', rest)
  | 'n' :: rest => some ('\n', rest)
  | 'f' :: rest => some ('\x0c', rest)
  | 'r' :: rest => some ('\r', rest)
  | 'e' :: rest => some ('\x1b', rest)
  | '"' :: rest => some ('"', rest)
  | '\\' :: rest => some ('\\', rest)
  | 'x' :: rest => codePoint? 2 rest
  | 'u' :: rest => codePoint? 4 rest
  | 'U' :: rest => codePoint? 8 rest
  | _ => none

/-- The rest of a text on one line up to its closing quote. -/
def lineText (quote : Char) : (fuel : Nat) → List Char → Option (List Char × List Char)
  | 0, _ => none
  | _ + 1, [] => none
  | fuel + 1, c :: rest =>
    if c == quote then some ([], rest)
    else if c == '\\' && quote == '"' then do
      let (x, rest) ← escaped? rest
      let (xs, rest) ← lineText quote fuel rest
      return (x :: xs, rest)
    else if isTextChar c then do
      let (xs, rest) ← lineText quote fuel rest
      return (c :: xs, rest)
    else none

/-- Passes over spaces and line ends. -/
def skipBlankLines : (fuel : Nat) → List Char → List Char
  | 0, cs => cs
  | fuel + 1, cs =>
    let cs := cs.dropWhile isSpace
    match afterLineEnd? cs with
    | some rest => skipBlankLines fuel rest
    | none => cs

/-- What follows a backslash at the end of a line: spaces up to the line end are passed over, and
so are all spaces and line ends after it. -/
def afterJoin? (cs : List Char) : Option (List Char) := do
  let rest ← afterLineEnd? (cs.dropWhile isSpace)
  return skipBlankLines (rest.length + 1) rest

/-- The rest of a text over lines up to its closing quotes. Up to two quotes may stand before
them. -/
def blockText (quote : Char) : (fuel : Nat) → List Char → Option (List Char × List Char)
  | 0, _ => none
  | _ + 1, [] => none
  | fuel + 1, c :: rest =>
    if c == quote then
      let quotes := (c :: rest).takeWhile (· == quote)
      if quotes.length < 3 then do
        let (xs, rest) ← blockText quote fuel ((c :: rest).drop quotes.length)
        return (quotes ++ xs, rest)
      else if quotes.length ≤ 5 then some (quotes.drop 3, (c :: rest).drop quotes.length)
      else none
    else if c == '\\' && quote == '"' then
      match afterJoin? rest with
      | some rest => blockText quote fuel rest
      | none => do
        let (x, rest) ← escaped? rest
        let (xs, rest) ← blockText quote fuel rest
        return (x :: xs, rest)
    else if isTextChar c || (afterLineEnd? (c :: rest)).isSome then do
      let (xs, rest) ← blockText quote fuel rest
      return (c :: xs, rest)
    else none

/-- The text at the start of some characters between quotes of a kind. A line end right after
three quotes is not part of it. -/
def quotedText? (quote : Char) (cs : List Char) : Option (List Char × List Char) :=
  match Text.after? [quote, quote, quote] cs with
  | some rest =>
    let rest := (afterLineEnd? rest).getD rest
    blockText quote (rest.length + 1) rest
  | none => lineText quote (cs.length + 1) (cs.drop 1)

/-- The text at the start of some characters. -/
def text? (cs : List Char) : Option (String × List Char) := do
  let quote ← cs.head?
  if quote == '"' || quote == '\'' then
    let (xs, rest) ← quotedText? quote cs
    return (String.ofList xs, rest)
  else none

/-- The number that digits with underscores between them write. -/
def digits? (base : Nat) (cs : List Char) : Option Nat :=
  let parts := Text.pieces '_' cs
  if parts.any (·.isEmpty) then none else Text.natIn? base parts.flatten

/-- A decimal number without a sign; a zero does not stand before other digits. -/
def decimal? (cs : List Char) : Option Nat :=
  if cs.length > 1 && cs.head? == some '0' then none else digits? 10 cs

/-- The whole number that some characters write. -/
def integer? : List Char → Option Int
  | '0' :: 'x' :: cs => (digits? 16 cs).map Int.ofNat
  | '0' :: 'o' :: cs => (digits? 8 cs).map Int.ofNat
  | '0' :: 'b' :: cs => (digits? 2 cs).map Int.ofNat
  | '+' :: cs => (decimal? cs).map Int.ofNat
  | '-' :: cs => (decimal? cs).map fun n => -Int.ofNat n
  | cs => (decimal? cs).map Int.ofNat

end ServiceContract.Toml
