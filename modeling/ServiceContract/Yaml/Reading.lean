import ServiceContract.Document.Reading
import ServiceContract.Yaml.Node
import ServiceContract.Yaml.Plain

/-!
# Records from YAML texts

A record is read from a mapping. A text is the text of any scalar, and an empty plain scalar
counts as an empty list, map or record. Where a value is not typed by its place, its tag or else
its spelling gives its type. Fields that no record knows are not looked into.

Collections are nested 128 deep at most, and aliases are followed at most a hundred times as
often as the document is large.

* `Document.ofYamlText?`: the document in a YAML text.
-/

namespace ServiceContract.Yaml

/-- What aliases refer to, and how many of them may be followed. -/
structure Anchors where
  targets : List (Nat × Node)
  limit : Nat

/-- The anchors of a document. -/
def Anchors.ofNode (n : Node) : Anchors :=
  ⟨n.anchored.reverse, 100 * n.size⟩

/-- How deep collections are nested at most. -/
def maxDepth : Nat := 128

/-- A reading that may fail; the state is how many aliases were followed. -/
abbrev Reading := StateT Nat Option

/-- A node and how many collections it may be deep. -/
structure Deep where
  depth : Nat
  node : Node

namespace Anchors

/-- The node that an alias refers to, or the node itself. -/
def follow (a : Anchors) : Node → Reading Node
  | .alias n => do
    let count := (← get) + 1
    set count
    if a.limit < count then failure
    (a.targets.find? (·.1 == n)).map (·.2)
  | n => pure n

/-- Whether a scalar counts as an empty collection. -/
def isVoid (s : Scalar) : Bool :=
  s.style == .plain && s.text.isEmpty

/-- The text of a scalar. -/
def readText (a : Anchors) (d : Deep) : Reading String := do
  match ← a.follow d.node with
  | .scalar _ _ s => return s.text
  | _ => failure

/-- The tag of a type that every document knows. -/
def coreTag (name : String) : String :=
  "tag:yaml.org,2002:" ++ name

/-- Null, or the text of a scalar. A plain scalar is null by its spelling, unless its tag says
otherwise. -/
def readOptionalText (a : Anchors) (d : Deep) : Reading (Option String) := do
  match ← a.follow d.node with
  | .scalar _ tag s =>
    if s.style != .plain then return some s.text
    else match tag with
      | some t =>
        if t != coreTag "null" then return some s.text
        else if Plain.isNull s.text then return none
        else failure
      | none => return if s.text.isEmpty || Plain.isNull s.text then none else some s.text
  | _ => failure

/-- The spelling of a scalar that can be a number: a plain one, or a literal one with the tag of
whole numbers. -/
def readNumeral (a : Anchors) (d : Deep) : Reading (List Char) := do
  match ← a.follow d.node with
  | .scalar _ tag s =>
    if s.style == .plain || (s.style == .literal && tag == some (coreTag "int")) then
      return s.text.toList
    else failure
  | _ => failure

/-- A whole number below `2 ^ 32`. -/
def readNatural32 (a : Anchors) (d : Deep) : Reading UInt32 := do
  let n ← Plain.natural? (← a.readNumeral d)
  if n < Nat.pow 2 32 then return UInt32.ofNat n else failure

/-- A whole number from `-2 ^ 31` to `2 ^ 31 - 1`. -/
def readInteger32 (a : Anchors) (d : Deep) : Reading Int32 := do
  let n ← Plain.integer? (← a.readNumeral d)
  if -Int.pow 2 31 ≤ n && n < Int.pow 2 31 then return Int32.ofInt n else failure

/-- The parts of a collection, one level down. -/
def down (d : Deep) : Reading Nat :=
  match d.depth with
  | 0 => failure
  | depth + 1 => pure depth

/-- A list. -/
def readList {α : Type} (a : Anchors) (read : Deep → Reading α) (d : Deep) :
    Reading (List α) := do
  match ← a.follow d.node with
  | .sequence _ _ items => do
    let depth ← down d
    items.mapM fun n => read ⟨depth, n⟩
  | .scalar _ _ s => if isVoid s then return [] else failure
  | _ => failure

/-- A record. -/
def readRecord {α : Type} (a : Anchors) (rec : Record Reading Deep α) (d : Deep) :
    Reading α := do
  match ← a.follow d.node with
  | .mapping _ _ entries => do
    let depth ← down d
    let state ← entries.foldlM (fun state (key, value) => do
      rec.step (fun _ => failure) (fun _ => pure ()) state (← a.readText ⟨depth, key⟩)
        ⟨depth, value⟩) ([], rec.blank)
    rec.finish (fun _ => failure) state
  | .scalar _ _ s => if isVoid s then rec.finish (fun _ => failure) ([], rec.blank) else failure
  | _ => failure

/-- The value of a scalar by its tag, or else by its spelling if it is plain. -/
def scalarValue? (tag : Option String) (s : Scalar) : Option Json :=
  match tag with
  | none => if s.style == .plain then Plain.valueOf? s.text else some (.text s.text)
  | some t =>
    if t == coreTag "bool" then (Plain.bool? s.text).map .bool
    else if t == coreTag "int" then (Plain.shortInteger? s.text.toList).bind Plain.ofInteger?
    else if t == coreTag "float" then (Plain.real? s.text).map (·.toJson)
    else if t == coreTag "null" then if Plain.isNull s.text then some .null else none
    else if t.startsWith "!" then none
    else some (.text s.text)

/-- Whether a collection may have a tag. -/
def mayHave (tag : Option String) : Bool :=
  !tag.any (·.startsWith "!")

/-- A value that is not typed by its place, at most so deep. -/
def readValue (a : Anchors) : (depth : Nat) → Node → Reading Json
  | depth, n => do
    match ← a.follow n with
    | .scalar _ tag s => scalarValue? tag s
    | .sequence _ tag items =>
      match depth with
      | 0 => failure
      | depth + 1 =>
        if mayHave tag then return .array (← items.mapM (a.readValue depth)) else failure
    | .mapping _ tag entries =>
      match depth with
      | 0 => failure
      | depth + 1 =>
        if mayHave tag then
          let entries ← entries.mapM fun (key, value) => do
            return (← a.readText ⟨depth, key⟩, ← a.readValue depth value)
          return .object (Json.sorted entries)
        else failure
    | .alias _ => failure

/-- A map of untyped values. -/
def readValues (a : Anchors) (d : Deep) : Reading (List (String × Json)) := do
  match ← a.follow d.node with
  | .mapping _ _ entries => do
    let depth ← down d
    let entries ← entries.mapM fun (key, value) => do
      return (← a.readText ⟨depth, key⟩, ← a.readValue depth value)
    return Json.sorted entries
  | .scalar _ _ s => if isVoid s then return [] else failure
  | _ => failure

/-- Records are read from YAML nodes. -/
def reader (a : Anchors) : Reader Reading Deep where
  text := a.readText
  optionalText := a.readOptionalText
  natural32 := a.readNatural32
  integer32 := a.readInteger32
  list := a.readList
  record := a.readRecord
  values := a.readValues

end Anchors

end ServiceContract.Yaml

namespace ServiceContract

/-- The document in a YAML text. -/
def Document.ofYamlText? (s : String) : Option Document := do
  let n ← Yaml.Node.ofText? s
  ((Document.read (Yaml.Anchors.ofNode n).reader) ⟨Yaml.maxDepth, n⟩).run' 0

end ServiceContract
