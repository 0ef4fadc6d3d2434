import ServiceContract.Before
import ServiceContract.Schema.Extension

/-!
# HTTP mappings and options of methods

A method may say how it is reached over HTTP, and may carry options. `HttpMapping` and
`OptionEntry` are these as they are written; `HttpMapping.rule` and `OptionEntry.option` are what
they mean.
-/

namespace ServiceContract.Schema

/-- A verb of its own, with a path. -/
structure CustomVerb where
  kind : String := ""
  path : String := ""
  deriving DecidableEq, Repr, Inhabited

/-- An HTTP mapping as it is written. -/
structure HttpMapping where
  get : Option String := none
  post : Option String := none
  put : Option String := none
  delete : Option String := none
  patch : Option String := none
  custom : Option CustomVerb := none
  body : Option String := none
  responseBody : Option String := none
  deriving DecidableEq, Repr, Inhabited

/-- An option as it is written. -/
structure OptionEntry where
  key : String := ""
  flag : Option Bool := none
  text : Option String := none
  number : Option Binary64 := none
  map : Option (List (String × String)) := none
  deriving DecidableEq, Repr, Inhabited

/-- A field of an extension's value that must be present. -/
def required {α β : Type} (key : String) (read : Json → Except Mismatch β) (set : α → β → α) :
    Slot (Except Mismatch) Json α :=
  ⟨key, true, fun v a => do return set a (← read v)⟩

/-- A field of an extension's value that may be left out or null. -/
def optional {α β : Type} (key : String) (read : Json → Except Mismatch β)
    (set : α → Option β → α) : Slot (Except Mismatch) Json α :=
  ⟨key, false, fun v a => do return set a (← Json.readOptional read v)⟩

/-- Verbs of their own. -/
def CustomVerb.record : Record (Except Mismatch) Json CustomVerb where
  title := "struct RawCustomPattern"
  blank := {}
  slots := [
    required "kind" Json.readText fun a s => { a with kind := s },
    required "path" Json.readText fun a s => { a with path := s }]
  exact := true

/-- HTTP mappings. -/
def HttpMapping.record : Record (Except Mismatch) Json HttpMapping where
  title := "struct RawHttpRule"
  blank := {}
  slots := [
    optional "get" Json.readText fun a s => { a with get := s },
    optional "post" Json.readText fun a s => { a with post := s },
    optional "put" Json.readText fun a s => { a with put := s },
    optional "delete" Json.readText fun a s => { a with delete := s },
    optional "patch" Json.readText fun a s => { a with patch := s },
    optional "custom" (Json.readRecord CustomVerb.record) fun a c => { a with custom := c },
    optional "body" Json.readText fun a s => { a with body := s },
    optional "response_body" Json.readText fun a s => { a with responseBody := s }]
  exact := true

/-- A map from texts to texts. -/
def readTextMap (v : Json) : Except Mismatch (List (String × String)) := do
  (← Json.readEntries v).mapM fun (key, value) => return (key, ← Json.readText value)

/-- Options. -/
def OptionEntry.record : Record (Except Mismatch) Json OptionEntry where
  title := "struct RawOption"
  blank := {}
  slots := [
    required "key" Json.readText fun a s => { a with key := s },
    optional "flag" Json.readBool fun a b => { a with flag := b },
    optional "text" Json.readText fun a s => { a with text := s },
    optional "number" Json.readFloat fun a x => { a with number := x },
    optional "map" readTextMap fun a m => { a with map := m }]
  exact := true

/-- An HTTP mapping in the value of an extension. -/
def decodeHttpMapping (name : String) (v : Json) : Except Cause HttpMapping :=
  Extension.decode (Json.readRecord HttpMapping.record) name v

/-- The options in the value of an extension. -/
def decodeOptionEntries (name : String) (v : Json) : Except Cause (List OptionEntry) :=
  Extension.decode (Json.readList (Json.readRecord OptionEntry.record)) name v

/-- Whether a character may stand in the name of a verb. -/
def isVerbChar (c : Char) : Bool :=
  c.isAlphanum ||
    ['!', '#', '$', '%', '&', '\'', '*', '+', '-', '.', '^', '_', '\x60', '|', '~'].contains c

/-- Whether a text can be the name of a verb. -/
def isVerb (s : String) : Bool :=
  !s.isEmpty && s.toList.all isVerbChar

/-- Whether requests of a verb carry a body. -/
def carriesBody (verb : String) : Bool :=
  verb ∉ ["GET", "DELETE", "HEAD", "OPTIONS"]

namespace HttpMapping

/-- The verbs that a mapping declares, each with its path. -/
def verbs (m : HttpMapping) : Except Cause (List (String × String)) :=
  let common := [("GET", m.get), ("POST", m.post), ("PUT", m.put), ("DELETE", m.delete),
      ("PATCH", m.patch)].filterMap fun (verb, path?) => path?.map fun path => (verb, path)
  match m.custom with
  | none => .ok common
  | some custom =>
    let verb := Text.upper custom.kind
    if isVerb verb then .ok (common ++ [(verb, custom.path)]) else .error (.badVerb custom.kind)

/-- The body that a mapping asks for: by default the whole message, or none for a verb whose
requests carry no body. -/
def bodySelector (m : HttpMapping) (verb : String) : BodySelector :=
  match Text.trimmed (m.body.getD "") with
  | "" => if carriesBody verb then .entire else .none
  | "*" => .entire
  | name => .field name

/-- The response that a mapping asks for: by default the whole message. -/
def responseSelector (m : HttpMapping) : ResponseSelector :=
  match Text.trimmed (m.responseBody.getD "") with
  | "" | "*" => .entire
  | name => .field name

/-- What a mapping means. It has one verb, and a body only if the verb carries one. -/
def rule (m : HttpMapping) : Except Cause HttpRule := do
  match ← m.verbs with
  | [(verb, path)] =>
    let body := m.bodySelector verb
    if !carriesBody verb && body != .none then .error (.bodyNotAllowed verb)
    else return ⟨verb, path, body, m.responseSelector⟩
  | verbs => .error (.verbCount verbs.length)

end HttpMapping

namespace OptionEntry

/-- The values that an option gives. -/
def values (o : OptionEntry) : List OptionValue :=
  (o.flag.map .flag).toList ++ (o.text.map .text).toList ++ (o.number.map .number).toList ++
    (o.map.map .stringMap).toList

/-- What an option after others means. Its key is not blank and not among theirs, and it has one
value. -/
def option (before : List OptionEntry) (o : OptionEntry) : Except Cause MethodOption :=
  if Text.isBlankText o.key then .error .blankOptionKey
  else if before.any (·.key == o.key) then .error (.optionRepeated o.key)
  else match o.values with
    | [value] => .ok ⟨o.key, value⟩
    | _ => .error (.optionValueCount o.key)

end OptionEntry

/-- The HTTP rule in the value of an extension. -/
def decodeHttpRule (name : String) (v : Json) : Except Cause HttpRule := do
  (← decodeHttpMapping name v).rule

/-- The options of a method, at the place of their extension. -/
def options (place : Place) (entries : List OptionEntry) : Noted (List MethodOption) :=
  .keep (withBefore entries) fun (before, o) => .attempt place (o.option before)

end ServiceContract.Schema
