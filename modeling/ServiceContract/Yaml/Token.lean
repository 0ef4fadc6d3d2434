import ServiceContract.Yaml.Scalar

/-!
# Tokens

The tokens of a YAML text, and the small ones among them: names of anchors and aliases, tags and
directives. The text of a tag is kept as octets, one character each.
-/

namespace ServiceContract.Yaml

/-- A token. Block collections have tokens for their starts and ends that no character stands
for. -/
inductive Token where
  | version (major minor : Nat)
  | tagHandle (handle start : String)
  | documentStart
  | documentEnd
  | blockSequence
  | blockMapping
  | blockEnd
  | flowSequence
  | flowSequenceEnd
  | flowMapping
  | flowMappingEnd
  | entry
  | comma
  | key
  | value
  | alias (name : String)
  | anchor (name : String)
  | tag (handle suffix : String)
  | scalar (s : Scalar)
  deriving DecidableEq, Repr, Inhabited

namespace Token

/-- The name of an anchor or alias after its sign. It ends at the end of a word or at
punctuation. -/
def name? (c : Cursor) : Option (String × Cursor) :=
  let (name, c) := (c.skip 1).takeWhile isNameChar
  if !name.isEmpty &&
      (endsWord c.peek || c.seesAny ['?', ':', ',', ']', '\x7d', '%', '@', '\x60']) then
    some (String.ofList name, c)
  else none

/-- Whether a character may stand in a tag. In angle brackets, and in directives, a few more
may. -/
def isTagChar (wide : Bool) (c : Char) : Bool :=
  isNameChar c ||
    [';', '/', '?', ':', '@', '&', '=', '+', '$', '.', '!', '~', '*', '\'', '(', ')'].contains c ||
    (wide && [',', '[', ']'].contains c)

/-- The octet that a percent sign and two digits stand for. -/
def octet? (c : Cursor) : Option (Nat × Cursor) :=
  match c.rest with
  | '%' :: a :: b :: _ => do return (← Text.natIn? 16 [a, b], c.skip 3)
  | _ => none

/-- The number of octets of a character by its first one. -/
def octetCount? (first : Nat) : Option Nat :=
  if first < 0x80 then some 1
  else if first / 0x20 == 0x6 then some 2
  else if first / 0x10 == 0xE then some 3
  else if first / 0x08 == 0x1E then some 4
  else none

/-- The octets after the first one of a character. -/
def laterOctets : (count : Nat) → Cursor → Option (List Char × Cursor)
  | 0, c => some ([], c)
  | count + 1, c => do
    let (n, c) ← octet? c
    if n / 0x40 != 0x2 then none
    else
      let (ns, c) ← laterOctets count c
      return (Char.ofNat n :: ns, c)

/-- The octets of one character. -/
def octets? (c : Cursor) : Option (List Char × Cursor) := do
  let (first, c) ← octet? c
  let (later, c) ← laterOctets ((← octetCount? first) - 1) c
  return (Char.ofNat first :: later, c)

/-- The text of a tag from here. -/
def tagText (wide : Bool) : (fuel : Nat) → List Char → Cursor → Option (List Char × Cursor)
  | 0, text, c => some (text, c)
  | fuel + 1, text, c =>
    match c.peek with
    | none => some (text, c)
    | some x =>
      if x == '%' then do
        let (octets, c) ← octets? c
        tagText wide fuel (text ++ octets) c
      else if isTagChar wide x then tagText wide fuel (text ++ [x]) (c.skip 1)
      else some (text, c)

/-- A handle: an exclamation mark and what is up to the next one, if there is one. -/
def handle? (c : Cursor) : Option (List Char × Cursor) :=
  if c.sees '!' then
    let (name, c) := (c.skip 1).takeWhile isNameChar
    if c.sees '!' then some ('!' :: name ++ ['!'], c.skip 1) else some ('!' :: name, c)
  else none

/-- A tag in angle brackets. -/
def verbatimTag? (c : Cursor) : Option (Token × Cursor) := do
  let c := c.skip 2
  let (text, c) ← tagText true c.rest.length [] c
  if text.isEmpty || !c.sees '>' then none
  else return (.tag "" (String.ofList text), c.skip 1)

/-- A tag with a handle, or without one. The tag that is an exclamation mark only has an empty
handle. -/
def shortTag? (c : Cursor) : Option (Token × Cursor) := do
  let (handle, c) ← handle? c
  if handle.length > 1 && handle.getLast? == some '!' then
    let (text, c) ← tagText false c.rest.length [] c
    if text.isEmpty then none else return (.tag (String.ofList handle) (String.ofList text), c)
  else
    let (text, c) ← tagText false c.rest.length (handle.drop 1) c
    if text.isEmpty then return (.tag "" "!", c) else return (.tag "!" (String.ofList text), c)

/-- The tag at a position. It ends at the end of a word, or at a comma in a flow collection. -/
def tag? (inFlow : Bool) (c : Cursor) : Option (Token × Cursor) := do
  let (t, c) ← if c.peekAt 1 == some '<' then verbatimTag? c else shortTag? c
  if endsWord c.peek || (inFlow && c.sees ',') then return (t, c) else none

/-- A number of a version, of nine digits at most. -/
def versionNumber? (c : Cursor) : Option (Nat × Cursor) := do
  let (digits, c) := c.takeWhile Char.isDigit
  if digits.length > 9 then none else return (← Text.natIn? 10 digits, c)

/-- The version after its directive's name. -/
def version? (c : Cursor) : Option (Token × Cursor) := do
  let (major, c) ← versionNumber? (c.skipWhile isSpace)
  if !c.sees '.' then none
  else
    let (minor, c) ← versionNumber? (c.skip 1)
    return (.version major minor, c)

/-- The handle of tags and what it stands for, after its directive's name. -/
def tagHandle? (c : Cursor) : Option (Token × Cursor) := do
  let (handle, c) ← handle? (c.skipWhile isSpace)
  if handle.getLast? != some '!' || !c.peek.any isSpace then none
  else
    let c := c.skipWhile isSpace
    let (start, c) ← tagText true c.rest.length [] c
    if start.isEmpty || !endsWord c.peek then none
    else return (.tagHandle (String.ofList handle) (String.ofList start), c)

/-- The directive at a position, and the position on the next line. -/
def directive? (c : Cursor) : Option (Token × Cursor) := do
  let (name, c) := (c.skip 1).takeWhile isNameChar
  if !endsWord c.peek then none
  else
    let (t, c) ← match String.ofList name with
      | "YAML" => version? c
      | "TAG" => tagHandle? c
      | _ => none
    return (t, ← c.endOfLine?)

end Token

end ServiceContract.Yaml
