import ServiceContract.Yaml.Layout

/-!
# Nodes

A YAML text holds at most one document here, and a document is a tree of nodes: scalars,
sequences, mappings, and aliases of anchored nodes. Anchors are numbered by how many different
names came before them; where two get the same number, the later node is meant.

* `Node.ofText?`: the node that is the document of a text.
-/

namespace ServiceContract.Yaml

/-- A node, with the number of its anchor and its tag. -/
inductive Node where
  | alias (target : Nat)
  | scalar (anchor : Option Nat) (tag : Option String) (s : Scalar)
  | sequence (anchor : Option Nat) (tag : Option String) (items : List Node)
  | mapping (anchor : Option Nat) (tag : Option String) (entries : List (Node × Node))
  deriving Repr, Inhabited

namespace Node

/-- The scalar that stands for a missing node. -/
def empty : Node :=
  .scalar none none ⟨.plain, ""⟩

mutual

/-- The anchored nodes of a node, each with its number, in order. -/
def anchored : Node → List (Nat × Node)
  | .alias _ => []
  | .scalar anchor tag s => anchor.toList.map fun n => (n, .scalar anchor tag s)
  | .sequence anchor tag items =>
    (anchor.toList.map fun n => (n, .sequence anchor tag items)) ++ anchoredItems items
  | .mapping anchor tag entries =>
    (anchor.toList.map fun n => (n, .mapping anchor tag entries)) ++ anchoredEntries entries

/-- The anchored nodes of items. -/
def anchoredItems : List Node → List (Nat × Node)
  | [] => []
  | n :: ns => anchored n ++ anchoredItems ns

/-- The anchored nodes of entries. -/
def anchoredEntries : List (Node × Node) → List (Nat × Node)
  | [] => []
  | (k, v) :: es => anchored k ++ anchored v ++ anchoredEntries es

end

mutual

/-- The size of a node: one for a scalar or alias, two more than its parts for a collection. -/
def size : Node → Nat
  | .alias _ => 1
  | .scalar _ _ _ => 1
  | .sequence _ _ items => 2 + sizeOfItems items
  | .mapping _ _ entries => 2 + sizeOfEntries entries

/-- The size of items. -/
def sizeOfItems : List Node → Nat
  | [] => 0
  | n :: ns => size n + sizeOfItems ns

/-- The size of entries. -/
def sizeOfEntries : List (Node × Node) → Nat
  | [] => 0
  | (k, v) :: es => size k + size v + sizeOfEntries es

end

end Node

/-- The rest of a token list, with what handles of tags stand for and the numbers of the anchors
so far. -/
structure Parse.State where
  tokens : List Token
  handles : List (String × String) := []
  anchors : List (String × Nat) := []

/-- Readers of tokens. -/
abbrev Parse := StateT Parse.State Option

namespace Parse

/-- The next token. -/
def peek : Parse (Option Token) := do
  return (← get).tokens.head?

/-- Goes over a token. -/
def next : Parse Unit :=
  modify fun s => { s with tokens := s.tokens.drop 1 }

/-- Whether the next token is one of some. -/
def sees (ts : List Token) : Parse Bool := do
  return (← peek).any ts.contains

/-- Numbers an anchor. -/
def anchor (name : String) : Parse Nat := do
  let anchors := (← get).anchors
  let n := anchors.length
  let anchors :=
    if anchors.any (·.1 == name) then anchors.map fun a => if a.1 == name then (name, n) else a
    else anchors ++ [(name, n)]
  modify fun s => { s with anchors }
  return n

/-- The number of an anchor that came before. -/
def target (name : String) : Parse Nat := do
  ((← get).anchors.find? (·.1 == name)).map (·.2)

/-- The tag that a handle and a suffix stand for. -/
def tag (handle suffix : String) : Parse String := do
  if handle.isEmpty then return suffix
  else
    let start ← ((← get).handles.find? (·.1 == handle)).map (·.2)
    return start ++ suffix

/-- The anchor at this position, if there is one. -/
def anchor? : Parse (Option Nat) := do
  match ← peek with
  | some (.anchor name) => do
    next
    return some (← anchor name)
  | _ => return none

/-- The tag at this position, if there is one. -/
def tag? : Parse (Option String) := do
  match ← peek with
  | some (.tag handle suffix) => do
    next
    return some (← tag handle suffix)
  | _ => return none

/-- The anchor and tag of a node, in either order. -/
def properties : Parse (Option Nat × Option String) := do
  match ← anchor? with
  | some n => return (some n, ← tag?)
  | none =>
    match ← tag? with
    | some t => return (← anchor?, some t)
    | none => return (none, none)

mutual

/-- A node. In a block, block collections may stand here; `indentless` says that a sequence need
not be indented. -/
def node : (fuel : Nat) → (block indentless : Bool) → Parse Node
  | 0, _, _ => failure
  | fuel + 1, block, indentless => do
    if let some (.alias name) ← peek then
      next
      return .alias (← target name)
    let (anchor, tag) ← properties
    match ← peek with
    | some (.scalar s) =>
      next
      return .scalar anchor tag s
    | some .flowSequence =>
      next
      return .sequence anchor tag (← flowItems fuel true)
    | some .flowMapping =>
      next
      return .mapping anchor tag (← flowEntries fuel true)
    | t =>
      if t == some .entry && indentless then
        return .sequence anchor tag (← indentlessItems fuel)
      else if t == some .blockSequence && block then
        next
        return .sequence anchor tag (← blockItems fuel)
      else if t == some .blockMapping && block then
        next
        return .mapping anchor tag (← blockEntries fuel)
      else if anchor.isSome || tag.isSome then
        return .scalar anchor tag ⟨.plain, ""⟩
      else failure

/-- A node, or an empty one if one of some tokens is next. -/
def nodeUnless (stops : List Token) : (fuel : Nat) → (block indentless : Bool) → Parse Node
  | 0, _, _ => failure
  | fuel + 1, block, indentless => do
    if ← sees stops then return .empty else node fuel block indentless

/-- The rest of a block sequence. -/
def blockItems : (fuel : Nat) → Parse (List Node)
  | 0 => failure
  | fuel + 1 => do
    match ← peek with
    | some .entry =>
      next
      let item ← nodeUnless [.entry, .blockEnd] fuel true false
      return item :: (← blockItems fuel)
    | some .blockEnd =>
      next
      return []
    | _ => failure

/-- The rest of a sequence that is not indented. -/
def indentlessItems : (fuel : Nat) → Parse (List Node)
  | 0 => failure
  | fuel + 1 => do
    if ← sees [.entry] then
      next
      let item ← nodeUnless [.entry, .key, .value, .blockEnd] fuel true false
      return item :: (← indentlessItems fuel)
    else return []

/-- The rest of a block mapping. -/
def blockEntries : (fuel : Nat) → Parse (List (Node × Node))
  | 0 => failure
  | fuel + 1 => do
    match ← peek with
    | some .key =>
      next
      let k ← nodeUnless [.key, .value, .blockEnd] fuel true true
      let v ← valueUnless [.key, .value, .blockEnd] fuel true
      return (k, v) :: (← blockEntries fuel)
    | some .blockEnd =>
      next
      return []
    | _ => failure

/-- The value after a key, or an empty one. -/
def valueUnless (stops : List Token) : (fuel : Nat) → (block : Bool) → Parse Node
  | 0, _ => failure
  | fuel + 1, block => do
    if ← sees [.value] then
      next
      nodeUnless stops fuel block block
    else return .empty

/-- The rest of a flow sequence. A pair of a key and a value in it is a mapping of its own. -/
def flowItems : (fuel : Nat) → (first : Bool) → Parse (List Node)
  | 0, _ => failure
  | fuel + 1, first => do
    if ← sees [.flowSequenceEnd] then
      next
      return []
    if !first then
      if ← sees [.comma] then next else failure
    match ← peek with
    | some .flowSequenceEnd =>
      next
      return []
    | some .key =>
      next
      let k ← if ← sees [.value, .comma, .flowSequenceEnd] then
          next
          pure .empty
        else node fuel false false
      let v ← valueUnless [.comma, .flowSequenceEnd] fuel false
      return .mapping none none [(k, v)] :: (← flowItems fuel false)
    | _ =>
      let item ← node fuel false false
      return item :: (← flowItems fuel false)

/-- The rest of a flow mapping. A key without a value has an empty one. -/
def flowEntries : (fuel : Nat) → (first : Bool) → Parse (List (Node × Node))
  | 0, _ => failure
  | fuel + 1, first => do
    if ← sees [.flowMappingEnd] then
      next
      return []
    if !first then
      if ← sees [.comma] then next else failure
    match ← peek with
    | some .flowMappingEnd =>
      next
      return []
    | some .key =>
      next
      let k ← nodeUnless [.value, .comma, .flowMappingEnd] fuel false false
      let v ← valueUnless [.comma, .flowMappingEnd] fuel false
      return (k, v) :: (← flowEntries fuel false)
    | _ =>
      let k ← node fuel false false
      return (k, .empty) :: (← flowEntries fuel false)

end

/-- Takes in directives: one version, which is 1.1 or 1.2, and handles of different names. -/
def directives : (fuel : Nat) → (versioned : Bool) → Parse Unit
  | 0, _ => failure
  | fuel + 1, versioned => do
    match ← peek with
    | some (.version major minor) =>
      if versioned || major != 1 || (minor != 1 && minor != 2) then failure
      next
      directives fuel true
    | some (.tagHandle handle start) =>
      if (← get).handles.any (·.1 == handle) then failure
      modify fun s => { s with handles := s.handles ++ [(handle, start)] }
      next
      directives fuel versioned
    | _ => return

/-- The handles that every document has, unless it gives them another meaning. -/
def defaultHandles : List (String × String) :=
  [("!", "!"), ("!!", "tag:yaml.org,2002:")]

/-- Takes in the directives and the marker before a document. -/
def documentStart (fuel : Nat) : Parse Unit := do
  directives fuel false
  if ← sees [.documentStart] then next else failure

/-- The document of a token list. -/
def document (fuel : Nat) : Parse Node := do
  let explicit := match ← peek with
    | some (.version _ _) | some (.tagHandle _ _) | some .documentStart => true
    | _ => false
  if explicit then documentStart fuel
  modify fun s => { s with handles := s.handles ++ defaultHandles }
  match ← peek with
  | none => return .empty
  | some t =>
    let ended := match t with
      | .version _ _ | .tagHandle _ _ | .documentStart | .documentEnd => true
      | _ => false
    if explicit && ended then return .empty else node fuel true false

end Parse

/-- The document of a text, where a text without one gives an empty node. -/
def Node.ofText? (s : String) : Option Node := do
  let tokens ← Token.scan s
  let fuel := 3 * tokens.length + 3
  let (n, rest) ← (Parse.document fuel).run { tokens }
  if rest.tokens.all (· == .documentEnd) then some n else none

end ServiceContract.Yaml
