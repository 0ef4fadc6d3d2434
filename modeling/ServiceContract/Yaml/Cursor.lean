import ServiceContract.Text.Pieces

/-!
# Cursors in YAML texts

A cursor is a position in a text: what is left of it, and how far, on which line and in which
column the position is. Lines end at a carriage return, a line feed, both together, or one of the
characters U+0085, U+2028 and U+2029.
-/

namespace ServiceContract.Yaml

/-- Whether a character may stand in a YAML text. -/
def isAllowed (c : Char) : Bool :=
  let n := c.toNat
  c == '\t' || c == '\n' || c == '\r' || (0x20 ≤ n && n ≤ 0x7E) || n == 0x85 ||
    (0xA0 ≤ n && n ≤ 0xD7FF) || (0xE000 ≤ n && n ≤ 0xFFFD) || 0x10000 ≤ n

/-- Whether a character ends a line. -/
def isBreak (c : Char) : Bool :=
  c == '\r' || c == '\n' || c == '\u0085' || c == '\u2028' || c == '\u2029'

/-- Whether a character is a space or a tab. -/
def isSpace (c : Char) : Bool :=
  c == ' ' || c == '\t'

/-- Whether a character may stand in a name, such as that of an anchor. -/
def isNameChar (c : Char) : Bool :=
  c.isAlphanum || c == '_' || c == '-'

/-- Whether a position is before a space, a break or the end. -/
def endsWord : Option Char → Bool
  | none => true
  | some c => isSpace c || isBreak c

/-- Whether a position is before a break or the end. -/
def endsLine : Option Char → Bool
  | none => true
  | some c => isBreak c

/-- A position in a text. -/
structure Cursor where
  rest : List Char
  index : Nat := 0
  line : Nat := 0
  column : Nat := 0
  deriving Repr, Inhabited

namespace Cursor

/-- The character after the position. -/
def peek (c : Cursor) : Option Char :=
  c.rest.head?

/-- The character some characters after the position. -/
def peekAt (c : Cursor) (n : Nat) : Option Char :=
  c.rest[n]?

/-- Whether a character follows. -/
def sees (c : Cursor) (x : Char) : Bool :=
  c.peek == some x

/-- Whether one of some characters follows. -/
def seesAny (c : Cursor) (xs : List Char) : Bool :=
  c.peek.any xs.contains

/-- Goes over characters of the line. -/
def skip (c : Cursor) (n : Nat) : Cursor :=
  ⟨c.rest.drop n, c.index + n, c.line, c.column + n⟩

/-- The next characters of the line that satisfy a condition, and the position after them. -/
def takeWhile (c : Cursor) (p : Char → Bool) : List Char × Cursor :=
  let cs := c.rest.takeWhile p
  (cs, c.skip cs.length)

/-- Goes over the characters of the line that satisfy a condition. -/
def skipWhile (c : Cursor) (p : Char → Bool) : Cursor :=
  (c.takeWhile p).2

/-- The line break that follows, and the position after it. Breaks are read as a line feed, apart
from U+2028 and U+2029, which are kept. -/
def takeBreak? (c : Cursor) : Option (Char × Cursor) :=
  match c.rest with
  | '\r' :: '\n' :: rest => some ('\n', ⟨rest, c.index + 2, c.line + 1, 0⟩)
  | x :: rest =>
    if isBreak x then
      some (if x == '\u2028' || x == '\u2029' then x else '\n', ⟨rest, c.index + 1, c.line + 1, 0⟩)
    else none
  | [] => none

/-- Goes to the end of the line if only spaces and a comment are left on it. -/
def endOfLine? (c : Cursor) : Option Cursor :=
  let c := c.skipWhile isSpace
  let c := if c.sees '#' then c.skipWhile (!isBreak ·) else c
  if endsLine c.peek then some ((c.takeBreak?.map (·.2)).getD c) else none

/-- Whether a document marker follows at the start of a line: three of a character, then the end
of a word. -/
def seesMarker (c : Cursor) (x : Char) : Bool :=
  c.column == 0 && c.rest.take 3 == [x, x, x] && endsWord (c.peekAt 3)

/-- Whether a marker that starts or ends a document follows. -/
def seesAnyMarker (c : Cursor) : Bool :=
  c.seesMarker '-' || c.seesMarker '.'

end Cursor

end ServiceContract.Yaml
