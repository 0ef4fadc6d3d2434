import ServiceContract.Yaml.Cursor

/-!
# Scalars

The text of a scalar in each of its styles. In the flow styles (plain and quoted) a line break
folds into a space, and further breaks are kept; in the block styles the lines below the header
that are indented enough belong to the scalar.

* `Scalar.plain?`, `Scalar.quoted?`, `Scalar.block?`: the scalar at a position, and the position
  after it.
-/

namespace ServiceContract.Yaml

/-- How a scalar is written. -/
inductive Style where
  | plain
  | singleQuoted
  | doubleQuoted
  | literal
  | folded
  deriving DecidableEq, Repr, Inhabited

/-- A scalar: how it is written, and its text. -/
structure Scalar where
  style : Style
  text : String
  deriving DecidableEq, Repr, Inhabited

/-- The space between two parts of a flow scalar: the spaces up to the first break, and the
breaks. A break after a backslash is `escaped` and is not among them. -/
structure Gap where
  spaces : List Char := []
  breaks : List Char := []
  escaped : Bool := false
  deriving Repr, Inhabited

namespace Gap

/-- Whether a gap goes over a line break. -/
def isBroken (g : Gap) : Bool :=
  g.escaped || !g.breaks.isEmpty

/-- What a gap stands for: spaces as they are, one break as a space, more as all but the
first. -/
def text (g : Gap) : List Char :=
  if g.escaped then g.breaks
  else match g.breaks with
    | [] => g.spaces
    | '\n' :: [] => [' ']
    | '\n' :: more => more
    | all => all

/-- Reads on in a gap. On a later line a tab in a column below `indent` is refused. -/
def scan (indent : Int) : (fuel : Nat) → Gap → Cursor → Option (Gap × Cursor)
  | 0, g, c => some (g, c)
  | fuel + 1, g, c =>
    match c.peek with
    | none => some (g, c)
    | some x =>
      if isSpace x then
        if g.isBroken then
          if x == '\t' && c.column < indent then none else scan indent fuel g (c.skip 1)
        else scan indent fuel { g with spaces := g.spaces ++ [x] } (c.skip 1)
      else
        match c.takeBreak? with
        | some (b, c) => scan indent fuel { g with breaks := g.breaks ++ [b] } c
        | none => some (g, c)

/-- The gap at a position. -/
def take? (indent : Int) (c : Cursor) : Option (Gap × Cursor) :=
  scan indent c.rest.length {} c

end Gap

namespace Scalar

/-- Whether a plain scalar stops here: at a colon before the end of a word, and in a flow
collection at its punctuation. -/
def plainStops (inFlow : Bool) (c : Cursor) : Bool :=
  (c.sees ':' && endsWord (c.peekAt 1)) || (inFlow && c.seesAny [',', '[', ']', '\x7b', '\x7d'])

/-- The characters of a plain scalar up to a gap or its end, after some in reverse. A colon before
punctuation is refused in a flow collection. -/
def plainRun (inFlow : Bool) : (fuel : Nat) → List Char → Cursor → Option (List Char × Cursor)
  | 0, run, c => some (run.reverse, c)
  | fuel + 1, run, c =>
    match c.peek with
    | none => some (run.reverse, c)
    | some x =>
      if endsWord (some x) then some (run.reverse, c)
      else if inFlow && x == ':' &&
          (c.peekAt 1).any [',', '?', '[', ']', '\x7b', '\x7d'].contains then none
      else if plainStops inFlow c then some (run.reverse, c)
      else plainRun inFlow fuel (x :: run) (c.skip 1)

/-- Reads on in a plain scalar whose text so far is followed by a gap. -/
def plainFrom (inFlow : Bool) (indent : Int) :
    (fuel : Nat) → List Char → Gap → Cursor → Option (List Char × Gap × Cursor)
  | 0, text, gap, c => some (text, gap, c)
  | fuel + 1, text, gap, c =>
    if c.seesAnyMarker || c.sees '#' then some (text, gap, c)
    else do
      let (run, c) ← plainRun inFlow c.rest.length [] c
      let (text, gap) := if run.isEmpty then (text, gap) else (text ++ gap.text ++ run, {})
      if !endsWord c.peek || c.rest.isEmpty then return (text, gap, c)
      else
        let (gap, c) ← Gap.scan indent c.rest.length gap c
        if !inFlow && c.column < indent then return (text, gap, c)
        else plainFrom inFlow indent fuel text gap c

/-- The plain scalar at a position, whether it ended after a line break, and the position after
it. Its later lines are indented by `indent` at least. -/
def plain? (inFlow : Bool) (indent : Int) (c : Cursor) : Option (Scalar × Bool × Cursor) := do
  let (text, gap, c) ← plainFrom inFlow indent c.rest.length [] {} c
  return (⟨.plain, String.ofList text⟩, gap.isBroken, c)

/-- The character that a letter after a backslash stands for. -/
def escape? : Char → Option Char
  | '0' => some '\x00'
  | 'a' => some '\x07'
  | 'b' => some '\x08'
  | 't' | '\t' => some '\t'
  | 'n' => some '\n'
  | 'v' => some '\x0b'
  | 'f' => some '\x0c'
  | 'r' => some '\r'
  | 'e' => some '\x1b'
  | ' ' => some ' '
  | '"' => some '"'
  | '/' => some '/'
  | '\\' => some '\\'
  | 'N' => some '\u0085'
  | '_' => some '\u00a0'
  | 'L' => some '\u2028'
  | 'P' => some '\u2029'
  | _ => none

/-- The number of hexadecimal digits after a letter after a backslash. -/
def escapeWidth? : Char → Option Nat
  | 'x' => some 2
  | 'u' => some 4
  | 'U' => some 8
  | _ => none

/-- The character of a code point. -/
def charOf? (n : Nat) : Option Char :=
  if n.isValidChar then some (Char.ofNat n) else none

/-- The character that an escape at a backslash stands for. -/
def escaped? (c : Cursor) : Option (Char × Cursor) := do
  let letter ← c.peekAt 1
  match escapeWidth? letter with
  | some width =>
    let digits := (c.rest.drop 2).take width
    if digits.length < width then none
    else return (← charOf? (← Text.natIn? 16 digits), c.skip (2 + width))
  | none => return (← escape? letter, c.skip 2)

/-- The characters of a quoted scalar up to a gap or its end, after some in reverse, and whether
it stopped after an escaped line break. -/
def quotedRun (double : Bool) :
    (fuel : Nat) → List Char → Cursor → Option (List Char × Bool × Cursor)
  | 0, run, c => some (run.reverse, false, c)
  | fuel + 1, run, c =>
    match c.peek with
    | none => some (run.reverse, false, c)
    | some x =>
      if endsWord (some x) then some (run.reverse, false, c)
      else if !double && x == '\'' && c.peekAt 1 == some '\'' then
        quotedRun double fuel ('\'' :: run) (c.skip 2)
      else if x == (if double then '"' else '\'') then some (run.reverse, false, c)
      else if double && x == '\\' then
        match (c.skip 1).takeBreak? with
        | some (_, c) => some (run.reverse, true, c)
        | none => do
          let (y, c) ← escaped? c
          quotedRun double fuel (y :: run) c
      else quotedRun double fuel (x :: run) (c.skip 1)

/-- Reads on in a quoted scalar up to the quote that ends it. -/
def quotedFrom (double : Bool) :
    (fuel : Nat) → List Char → Cursor → Option (List Char × Cursor)
  | 0, _, _ => none
  | fuel + 1, text, c =>
    if c.seesAnyMarker || c.rest.isEmpty then none
    else do
      let (run, escaped, c) ← quotedRun double c.rest.length [] c
      let text := text ++ run
      if c.sees (if double then '"' else '\'') then return (text, c.skip 1)
      else
        let (gap, c) ← Gap.scan (-1) c.rest.length { escaped } c
        quotedFrom double fuel (text ++ gap.text) c

/-- The quoted scalar at a position, and the position after it. -/
def quoted? (double : Bool) (c : Cursor) : Option (Scalar × Cursor) := do
  let (text, c) ← quotedFrom double (c.rest.length + 1) [] (c.skip 1)
  return (⟨if double then .doubleQuoted else .singleQuoted, String.ofList text⟩, c)

/-- What becomes of the breaks at the end of a block scalar: all are dropped, one is kept, or all
are kept. -/
inductive Chomp where
  | strip
  | clip
  | keep
  deriving DecidableEq, Repr, Inhabited

/-- The sign for how a block scalar ends. -/
def chomp? (c : Cursor) : Option (Chomp × Cursor) :=
  match c.peek with
  | some '+' => some (.keep, c.skip 1)
  | some '-' => some (.strip, c.skip 1)
  | _ => none

/-- The digit for how far a block scalar is indented; zero is refused. -/
def indentDigit (c : Cursor) : Option (Option Nat × Cursor) :=
  match c.peek with
  | some x =>
    if x == '0' then none
    else if x.isDigit then some (some (Text.digitValue x), c.skip 1)
    else some (none, c)
  | none => some (none, c)

/-- The header of a block scalar: how it ends and how far it is indented, in either order. -/
def blockHeader? (c : Cursor) : Option (Chomp × Option Nat × Cursor) := do
  match chomp? c with
  | some (chomp, c) =>
    let (digit, c) ← indentDigit c
    return (chomp, digit, ← c.endOfLine?)
  | none =>
    let (digit, c) ← indentDigit c
    match digit, chomp? c with
    | some _, some (chomp, c) => return (chomp, digit, ← c.endOfLine?)
    | _, _ => return (.clip, digit, ← c.endOfLine?)

/-- Goes over blank lines and the indentation of the line after them. The indentation may be
unknown; then it is as deep as it goes. Gives the breaks, the deepest column and the position. -/
def blankLines (indent : Option Nat) :
    (fuel : Nat) → List Char → Nat → Cursor → Option (List Char × Nat × Cursor)
  | 0, breaks, deepest, c => some (breaks, deepest, c)
  | fuel + 1, breaks, deepest, c =>
    let spaces := (c.takeWhile (· == ' ')).1.length
    let c := c.skip (match indent with
      | none => spaces
      | some n => min spaces (n - c.column))
    let deepest := max deepest c.column
    if c.sees '\t' && indent.all (c.column < ·) then none
    else match c.takeBreak? with
      | some (b, c) => blankLines indent fuel (breaks ++ [b]) deepest c
      | none => some (breaks, deepest, c)

/-- Reads the lines of a block scalar. `lead` is the break after the text so far, `trail` the
breaks of the blank lines after it, and `blankLead` says whether the last line started with a
space. Gives the text, and the breaks that were not used. -/
def blockLines (isFolded : Bool) (indent : Nat) :
    (fuel : Nat) → (text : List Char) → (lead trail : List Char) → (blankLead : Bool) → Cursor →
      Option (List Char × List Char × List Char × Cursor)
  | 0, text, lead, trail, _, c => some (text, lead, trail, c)
  | fuel + 1, text, lead, trail, blankLead, c =>
    if c.column != indent || c.rest.isEmpty then some (text, lead, trail, c)
    else do
      let blank := c.peek.any isSpace
      let joint :=
        if isFolded && lead == ['\n'] && !blankLead && !blank then
          if trail.isEmpty then [' '] else trail
        else lead ++ trail
      let (line, c) := c.takeWhile (!isBreak ·)
      let (lead, c) := match c.takeBreak? with
        | some (b, c) => ([b], c)
        | none => ([], c)
      let (trail, _, c) ← blankLines (some indent) (c.rest.length + 1) [] 0 c
      blockLines isFolded indent fuel (text ++ joint ++ line) lead trail blank c

/-- The block scalar at a position, and the position after it. `parent` is the indentation of the
collection that the scalar stands in. -/
def block? (isFolded : Bool) (parent : Int) (c : Cursor) : Option (Scalar × Cursor) := do
  let (chomp, digit, c) ← blockHeader? (c.skip 1)
  let given := digit.map fun d => (max parent 0).toNat + d
  let (trail, deepest, c) ← blankLines given (c.rest.length + 1) [] 0 c
  let indent := given.getD (max deepest (max (parent + 1) 1).toNat)
  let (text, lead, trail, c) ← blockLines isFolded indent (c.rest.length + 1) [] [] trail false c
  let tail := match chomp with
    | .strip => []
    | .clip => lead
    | .keep => lead ++ trail
  return (⟨if isFolded then .folded else .literal, String.ofList (text ++ tail)⟩, c)

end Scalar

end ServiceContract.Yaml
