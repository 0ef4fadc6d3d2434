import ServiceContract.Yaml.Token

/-!
# Layout

The indentation of a text gives its block collections. A token that stands where a key may start
is a candidate for one; a colon later on the same line makes it a key. `Layout` is what is known
at a position: the tokens so far, the indentation, and the candidates.

* `Token.scan`: the tokens of a text, with the starts of keys and block collections in place.
-/

namespace ServiceContract.Yaml

/-- Where a key may have started: the number of its first token, and its position. A required one
stands where only a key can stand. -/
structure KeyStart where
  slot : Nat
  index : Nat
  line : Nat
  column : Nat
  required : Bool
  deriving Repr, Inhabited

/-- Whether a candidate is too far back: on an earlier line, or more than 1024 characters. -/
def KeyStart.isStale (k : KeyStart) (c : Cursor) : Bool :=
  k.line < c.line || k.index + 1024 < c.index

/-- What starts before a token: nothing, a key, or a block mapping with a key. -/
inductive Opening where
  | nothing
  | key
  | mapping
  deriving DecidableEq, Repr, Inhabited

/-- What is known at a position. There is one candidate at most for the innermost flow collection
and for each one around it; `outer` holds those around. -/
structure Layout where
  cursor : Cursor
  tokens : Array (Opening × Token) := #[]
  candidate : Option KeyStart := none
  outer : List (Option KeyStart) := []
  indent : Int := -1
  indents : List Int := []
  keyAllowed : Bool := true

namespace Layout

/-- Whether the position is in a flow collection. -/
def inFlow (l : Layout) : Bool :=
  !l.outer.isEmpty

/-- Adds a token. -/
def push (l : Layout) (t : Token) : Layout :=
  { l with tokens := l.tokens.push (.nothing, t) }

/-- Goes over characters. -/
def skip (l : Layout) (n : Nat) : Layout :=
  { l with cursor := l.cursor.skip n }

/-- Gives up the candidate; a required one cannot be given up. -/
def dropCandidate (l : Layout) : Option Layout :=
  if l.candidate.any (·.required) then none else some { l with candidate := none }

/-- Makes the next token a candidate, if a key may start here. -/
def markCandidate (l : Layout) : Option Layout :=
  if l.keyAllowed then do
    let l ← l.dropCandidate
    return { l with candidate := some {
      slot := l.tokens.size
      index := l.cursor.index
      line := l.cursor.line
      column := l.cursor.column
      required := !l.inFlow && l.indent == l.cursor.column } }
  else some l

/-- The candidate that is left at a position. -/
def fresh (c : Cursor) : Option KeyStart → Option (Option KeyStart)
  | none => some none
  | some k =>
    if k.isStale c then if k.required then none else some none
    else some (some k)

/-- Gives up the candidates that are too far back. -/
def dropStale (l : Layout) : Option Layout := do
  return { l with
    candidate := ← fresh l.cursor l.candidate
    outer := ← l.outer.mapM (fresh l.cursor) }

/-- Indents to a column, if that is deeper. -/
def indentTo (l : Layout) (column : Nat) : Layout × Bool :=
  if !l.inFlow && l.indent < column then
    ({ l with indent := column, indents := l.indent :: l.indents }, true)
  else (l, false)

/-- Starts a block collection here, if the column is deeper than the indentation. -/
def openBlock (l : Layout) (t : Token) : Layout :=
  let (l, deeper) := l.indentTo l.cursor.column
  if deeper then l.push t else l

/-- Ends block collections that are indented deeper than a column, where some indentations are
left below the current one. -/
def closeFrom (column : Int) : List Int → Layout → Layout
  | [], l => l
  | previous :: more, l =>
    if l.indent > column then
      closeFrom column more { l.push .blockEnd with indent := previous, indents := more }
    else l

/-- Ends the block collections that are indented deeper than a column. -/
def closeTo (l : Layout) (column : Int) : Layout :=
  if l.inFlow then l else closeFrom column l.indents l

/-- Goes over spaces, comments and breaks to the next token. Tabs are spaces only where no key may
start. A byte order mark may start a line, and takes up its first column. -/
def toToken : (fuel : Nat) → Layout → Layout
  | 0, l => l
  | fuel + 1, l =>
    let c := l.cursor
    let c := if c.column == 0 && c.sees '\ufeff' then c.skip 1 else c
    let tabs := l.inFlow || !l.keyAllowed
    let c := c.skipWhile fun x => x == ' ' || (tabs && x == '\t')
    let c := if c.sees '#' then c.skipWhile (!isBreak ·) else c
    match c.takeBreak? with
    | some (_, c) => toToken fuel { l with cursor := c, keyAllowed := l.keyAllowed || !l.inFlow }
    | none => { l with cursor := c }

/-- Ends all block collections, as a document ends. -/
def closeAll (l : Layout) : Option Layout := do
  let l ← (l.closeTo (-1)).dropCandidate
  return { l with keyAllowed := false }

/-- Takes in a directive. -/
def directive (l : Layout) : Option Layout := do
  let l ← l.closeAll
  let (t, c) ← Token.directive? l.cursor
  return { l.push t with cursor := c }

/-- Takes in a marker between documents. -/
def marker (l : Layout) (t : Token) : Option Layout := do
  let l ← l.closeAll
  return (l.push t).skip 3

/-- Takes in the start of a flow collection. -/
def openFlow (l : Layout) (t : Token) : Option Layout := do
  let l ← l.markCandidate
  let l := l.push t
  return { l.skip 1 with candidate := none, outer := l.candidate :: l.outer, keyAllowed := true }

/-- Takes in the end of a flow collection. -/
def closeFlow (l : Layout) (t : Token) : Option Layout := do
  let l ← l.dropCandidate
  let l := match l.outer with
    | k :: outer => { l with candidate := k, outer }
    | [] => l
  return { (l.push t).skip 1 with keyAllowed := false }

/-- Takes in a comma. -/
def comma (l : Layout) : Option Layout := do
  let l ← l.dropCandidate
  return { (l.push .comma).skip 1 with keyAllowed := true }

/-- Takes in the dash of a block sequence. -/
def entry (l : Layout) : Option Layout := do
  if !l.inFlow && !l.keyAllowed then none
  else
    let l := l.openBlock .blockSequence
    let l ← l.dropCandidate
    return { (l.push .entry).skip 1 with keyAllowed := true }

/-- Takes in the question mark before a key. -/
def key (l : Layout) : Option Layout := do
  if !l.inFlow && !l.keyAllowed then none
  else
    let l := l.openBlock .blockMapping
    let l ← l.dropCandidate
    return { (l.push .key).skip 1 with keyAllowed := !l.inFlow }

/-- Takes in the colon before a value. A candidate becomes a key. -/
def value (l : Layout) : Option Layout :=
  match l.candidate with
  | some k =>
    let (l, deeper) := l.indentTo k.column
    let opening := if deeper then Opening.mapping else .key
    let tokens := l.tokens.modify k.slot fun (_, t) => (opening, t)
    some { ({ l with tokens }.push .value).skip 1 with candidate := none, keyAllowed := false }
  | none =>
    if !l.inFlow && !l.keyAllowed then none
    else
      let l := l.openBlock .blockMapping
      some { (l.push .value).skip 1 with keyAllowed := !l.inFlow }

/-- Takes in a token that may start a key. -/
def inline (l : Layout) (scan : Cursor → Option (Token × Cursor)) : Option Layout := do
  let l ← l.markCandidate
  let (t, c) ← scan l.cursor
  return { l.push t with cursor := c, keyAllowed := false }

/-- Takes in a plain scalar. After a line break a key may follow it. -/
def plain (l : Layout) : Option Layout := do
  let l ← l.markCandidate
  let (s, broken, c) ← Scalar.plain? l.inFlow (l.indent + 1) l.cursor
  return { l.push (.scalar s) with cursor := c, keyAllowed := broken }

/-- Takes in a block scalar. -/
def block (l : Layout) (isFolded : Bool) : Option Layout := do
  let l ← l.dropCandidate
  let (s, c) ← Scalar.block? isFolded l.indent l.cursor
  return { l.push (.scalar s) with cursor := c, keyAllowed := true }

/-- The characters that start something other than a plain scalar. -/
def indicators : List Char :=
  [',', '[', ']', '\x7b', '\x7d', '#', '&', '*', '!', '|', '>', '\'', '"', '%', '@', '\x60']

/-- Whether a plain scalar may start with a character, where `next` follows it. -/
def startsPlain (inFlow : Bool) (x : Char) (next : Option Char) : Bool :=
  if x == '-' then !next.any isSpace
  else if x == '?' || x == ':' then !inFlow && !endsWord next
  else !endsWord (some x) && !indicators.contains x

/-- Takes in the token that starts with a character. -/
def take (l : Layout) (x : Char) : Option Layout :=
  let next := l.cursor.peekAt 1
  if l.cursor.column == 0 && x == '%' then l.directive
  else if l.cursor.seesMarker '-' then l.marker .documentStart
  else if l.cursor.seesMarker '.' then l.marker .documentEnd
  else match x with
    | '[' => l.openFlow .flowSequence
    | '\x7b' => l.openFlow .flowMapping
    | ']' => l.closeFlow .flowSequenceEnd
    | '\x7d' => l.closeFlow .flowMappingEnd
    | ',' => l.comma
    | '*' => l.inline fun c => do
      let (name, c) ← Token.name? c
      return (.alias name, c)
    | '&' => l.inline fun c => do
      let (name, c) ← Token.name? c
      return (.anchor name, c)
    | '!' => l.inline (Token.tag? l.inFlow)
    | '\'' => l.inline fun c => do
      let (s, c) ← Scalar.quoted? false c
      return (.scalar s, c)
    | '"' => l.inline fun c => do
      let (s, c) ← Scalar.quoted? true c
      return (.scalar s, c)
    | _ =>
      if x == '-' && endsWord next then l.entry
      else if x == '?' && (l.inFlow || endsWord next) then l.key
      else if x == ':' && (l.inFlow || endsWord next) then l.value
      else if x == '|' && !l.inFlow then l.block false
      else if x == '>' && !l.inFlow then l.block true
      else if startsPlain l.inFlow x next then l.plain
      else none

/-- Takes in all tokens. -/
def run : (fuel : Nat) → Layout → Option Layout
  | 0, _ => none
  | fuel + 1, l => do
    let l ← (l.toToken fuel).dropStale
    let l := l.closeTo l.cursor.column
    match l.cursor.peek with
    | none => l.closeAll
    | some x => run fuel (← l.take x)

/-- A token with what starts before it. -/
def expand : Opening × Token → List Token
  | (.nothing, t) => [t]
  | (.key, t) => [.key, t]
  | (.mapping, t) => [.blockMapping, .key, t]

end Layout

/-- The tokens of a text. -/
def Token.scan (s : String) : Option (List Token) :=
  let cs := s.toList
  if cs.all isAllowed then do
    let l ← Layout.run (cs.length + 1) { cursor := { rest := cs } }
    return l.tokens.toList.flatMap Layout.expand
  else none

end ServiceContract.Yaml
