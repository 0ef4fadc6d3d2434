import ServiceContract.Text.Blank
import ServiceContract.Text.Pieces

/-!
# Route templates

A template such as `/users/{user.id}/files/{path=**}` is read as segments for a router
and into bindings that say which request field each parameter fills.

A template starts with a slash; slashes outside braces divide it into segments. A segment is a
literal or a placeholder. A placeholder names a field, dotted for a nested one, and may give a
sub-path after an equals sign: `*` matches one segment, `**` matches the rest, and other parts
are literals. The parameter is named after the field, dots written as underscores.

* `Template.parse`: what a template says, or the first reason against it.
* `Template.pattern`, `Template.shape`: the template as a router writes it, with and without
  parameter names.
-/

namespace ServiceContract.Route

/-- A segment of a template. -/
inductive Segment where
  | literal (text : String)
  | dynamic (name : String)
  | catchAll (name : String)
  deriving DecidableEq, Repr, Inhabited

/-- A parameter of a template and the field it fills. -/
structure PathBinding where
  name : String
  fieldPath : List String
  catchAll : Bool
  deriving DecidableEq, Repr, Inhabited

/-- A template that was read. -/
structure Template where
  source : String
  segments : List Segment
  bindings : List PathBinding
  deriving DecidableEq, Repr, Inhabited

/-- Why a template is refused. -/
inductive Fault where
  | noLeadingSlash
  | nestedBrace
  | strayBrace
  | openBrace
  | emptySegment
  | partialPlaceholder (raw : String)
  | wildcardLiteral (raw : String)
  | emptyName
  | badName (part reference : String)
  | tooDeep (reference : String) (depth max : Nat)
  | emptySubPath (reference : String)
  | severalWildcards (reference : String)
  | catchAllNotLast
  | secondCatchAll
  | boundTwice (name : String)
  deriving DecidableEq, Repr

/-- A refused template and the reason. -/
structure TemplateError where
  template : String
  fault : Fault
  deriving DecidableEq, Repr

namespace Fault

/-- The words for a fault. -/
def reason : Fault → String
  | .noLeadingSlash => "template must start with '/'"
  | .nestedBrace => "nested '\x7b' inside a placeholder"
  | .strayBrace => "unbalanced '\x7d'"
  | .openBrace => "unterminated placeholder"
  | .emptySegment => "empty path segment"
  | .partialPlaceholder raw => "placeholder must span the whole segment, found '" ++ raw ++ "'"
  | .wildcardLiteral raw =>
    "literal segment '" ++ raw ++ "' would be read as a router wildcard"
  | .emptyName => "placeholder name must not be empty"
  | .badName part reference =>
    "'" ++ part ++ "' in placeholder '" ++ reference ++ "' is not a valid field name"
  | .tooDeep reference depth max =>
    "field reference '" ++ reference ++ "' is " ++ toString depth ++ " levels deep (max " ++
      toString max ++ ")"
  | .emptySubPath reference => "placeholder '" ++ reference ++ "' has an empty sub-path"
  | .severalWildcards reference =>
    "sub-path of '" ++ reference ++ "' may contain at most one wildcard"
  | .catchAllNotLast => "catch-all placeholder must be the last segment"
  | .secondCatchAll => "only one catch-all placeholder is allowed"
  | .boundTwice name => "placeholder '" ++ name ++ "' is bound more than once"

end Fault

/-- The words for a refused template. -/
def TemplateError.message (e : TemplateError) : String :=
  match e.fault with
  | .tooDeep reference depth max =>
    "field reference '" ++ reference ++ "' in '" ++ e.template ++ "' is " ++ toString depth ++
      " levels deep (max " ++ toString max ++ ")"
  | fault => "invalid path template '" ++ e.template ++ "': " ++ fault.reason

namespace Segment

/-- A segment as a router writes it. -/
def render : Segment → String
  | .literal text => text
  | .dynamic name => ":" ++ name
  | .catchAll name => "*" ++ name

/-- A segment without its parameter name. -/
def shape : Segment → String
  | .literal text => text
  | .dynamic _ => ":"
  | .catchAll _ => "*"

/-- Whether a segment matches the rest of a path. -/
def isCatchAll : Segment → Bool
  | .catchAll _ => true
  | _ => false

end Segment

/-- A path from segments: a slash before each, and a single slash for none. -/
def joinSegments (f : Segment → String) (segments : List Segment) : String :=
  if segments.isEmpty then "/" else String.join (segments.map fun s => "/" ++ f s)

/-- The pattern that a router registers. -/
def pattern (segments : List Segment) : String :=
  joinSegments Segment.render segments

/-- The pattern without parameter names. -/
def shape (segments : List Segment) : String :=
  joinSegments Segment.shape segments

/-- Whether a binding fills a field of the request itself. -/
def PathBinding.isTopLevel (b : PathBinding) : Bool :=
  b.fieldPath.length == 1

/-- Adds a character to the first of some pieces. -/
def prependChar (c : Char) : List (List Char) → List (List Char)
  | [] => [[c]]
  | p :: ps => (c :: p) :: ps

/-- Divides a path at the slashes outside braces. Braces must be balanced and not nested;
`inside` says whether the text starts inside a placeholder. -/
def splitSegments : (inside : Bool) → List Char → Except Fault (List (List Char))
  | inside, [] => if inside then .error .openBrace else .ok [[]]
  | inside, c :: cs =>
    if c = '\x7b' then
      if inside then .error .nestedBrace
      else do return prependChar c (← splitSegments true cs)
    else if c = '\x7d' then
      if inside then do return prependChar c (← splitSegments false cs)
      else .error .strayBrace
    else if c = '/' && !inside then do return [] :: (← splitSegments false cs)
    else do return prependChar c (← splitSegments inside cs)

/-- What stands between the braces of a segment that starts and ends with them. -/
def placeholder? (raw : List Char) : Option (List Char) :=
  match raw with
  | '\x7b' :: rest =>
    if rest.getLast? = some '\x7d' then some rest.dropLast else none
  | _ => none

/-- The field that a placeholder names, as the list of its parts, at most `maxDepth` of them. -/
def fieldPath (maxDepth : Nat) (reference : List Char) : Except Fault (List String) :=
  if reference.isEmpty then .error .emptyName
  else
    let parts := Text.pieces '.' reference
    match parts.find? (!Text.isIdentifier ·) with
    | some part => .error (.badName (String.ofList part) (String.ofList reference))
    | none =>
      if maxDepth < parts.length then
        .error (.tooDeep (String.ofList reference) parts.length maxDepth)
      else .ok (parts.map String.ofList)

/-- What was read so far. -/
structure Progress where
  segments : List Segment := []
  bindings : List PathBinding := []
  deriving DecidableEq, Repr

namespace Progress

/-- Adds a literal, which must not look like a placeholder or a parameter. -/
def addLiteral (p : Progress) (raw : List Char) : Except Fault Progress :=
  if raw.contains '\x7b' || raw.contains '\x7d' then
    .error (.partialPlaceholder (String.ofList raw))
  else if raw.head? = some ':' || raw.head? = some '*' then
    .error (.wildcardLiteral (String.ofList raw))
  else .ok { p with segments := p.segments ++ [.literal (String.ofList raw)] }

/-- Adds a parameter for a field. -/
def addParameter (p : Progress) (catchAll : Bool) (path : List String) :
    Except Fault Progress :=
  let name := "_".intercalate path
  if catchAll && p.bindings.any (·.catchAll) then .error .secondCatchAll
  else if p.bindings.any (·.name == name) then .error (.boundTwice name)
  else
    let segment := if catchAll then Segment.catchAll name else Segment.dynamic name
    .ok ⟨p.segments ++ [segment], p.bindings ++ [⟨name, path, catchAll⟩]⟩

/-- Adds the parts of a sub-path. -/
def addParts (path : List String) : Progress → List (List Char) → Except Fault Progress
  | p, [] => .ok p
  | p, part :: rest =>
    if part = ['*', '*'] then
      if rest.isEmpty then do addParts path (← p.addParameter true path) rest
      else .error .catchAllNotLast
    else if part = ['*'] then do addParts path (← p.addParameter false path) rest
    else if part = [] then .error .emptySegment
    else do addParts path (← p.addLiteral part) rest

/-- Whether a part of a sub-path is a wildcard. -/
def isWildcard (part : List Char) : Bool :=
  part == ['*'] || part == ['*', '*']

/-- Adds a placeholder, given what stands between its braces. -/
def addPlaceholder (maxDepth : Nat) (p : Progress) (inner : List Char) :
    Except Fault Progress := do
  let (reference, subPath) :=
    match Text.cut? '=' inner with
    | some (r, s) => (Text.trim r, some (Text.trim s))
    | none => (Text.trim inner, none)
  let path ← fieldPath maxDepth reference
  match subPath with
  | none => p.addParameter false path
  | some [] => .error (.emptySubPath (String.ofList reference))
  | some sub =>
    let parts := Text.pieces '/' sub
    if 1 < (parts.filter isWildcard).length then
      .error (.severalWildcards (String.ofList reference))
    else p.addParts path parts

/-- Whether nothing may follow. -/
def isFinal (p : Progress) : Bool :=
  p.segments.getLast?.any Segment.isCatchAll

/-- Adds a segment of the template. -/
def addSegment (maxDepth : Nat) (p : Progress) (raw : List Char) : Except Fault Progress :=
  if p.isFinal then
    .error (if Text.occurs ['*', '*'] raw then .secondCatchAll else .catchAllNotLast)
  else if raw.isEmpty then .error .emptySegment
  else match placeholder? raw with
    | some inner => p.addPlaceholder maxDepth inner
    | none => p.addLiteral raw

end Progress

/-- The segments and bindings of a template. -/
def parseChars (maxDepth : Nat) (cs : List Char) : Except Fault Progress :=
  match cs with
  | ['/'] => .ok {}
  | '/' :: rest => do (← splitSegments false rest).foldlM (Progress.addSegment maxDepth) {}
  | _ => .error .noLeadingSlash

namespace Template

/-- Reads a template whose field references have at most `maxDepth` parts. -/
def parse (template : String) (maxDepth : Nat) : Except TemplateError Template :=
  match parseChars maxDepth template.toList with
  | .ok p => .ok ⟨template, p.segments, p.bindings⟩
  | .error fault => .error ⟨template, fault⟩

/-- The pattern that a router registers. -/
def pattern (t : Template) : String :=
  Route.pattern t.segments

/-- The pattern without parameter names. -/
def shape (t : Template) : String :=
  Route.shape t.segments

/-- The binding of a parameter. -/
def binding? (t : Template) (name : String) : Option PathBinding :=
  t.bindings.find? (·.name == name)

/-- The binding that takes the rest of the path. -/
def catchAll? (t : Template) : Option PathBinding :=
  t.bindings.find? (·.catchAll)

/-- The fields of the request itself that the path fills. -/
def topLevelFields (t : Template) : List String :=
  t.bindings.flatMap fun b => if b.isTopLevel then b.fieldPath else []

end Template

end ServiceContract.Route
