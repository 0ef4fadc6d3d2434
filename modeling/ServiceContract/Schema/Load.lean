import ServiceContract.Schema.Mapping

/-!
# Schemas from documents

A document is interpreted element by element; everything wrong with it is noted, and the schema
is given only if nothing is.

* `Schema.load`: the schema of a document, or the issues: repeated type names first, then those
  of the services, the messages and the enums in order.
-/

namespace ServiceContract.Schema

/-- What references to types are resolved against. -/
structure Names where
  package : String
  messages : List String
  enums : List String
  deriving DecidableEq, Repr, Inhabited

namespace Names

/-- The names that a document declares. -/
def ofDocument (d : Document) : Names :=
  ⟨d.package, d.messages.map (·.name), d.enums.map (·.name)⟩

/-- The names that a reference may stand for, in the order they are tried: as it is, without
leading dots, without the package before it, with the package before it. -/
def candidates (n : Names) (reference : String) : List String :=
  let bare := reference.toList.dropWhile (· == '.')
  let qualified :=
    if n.package.isEmpty then []
    else (Text.after? (n.package.toList ++ ['.']) bare).toList.map String.ofList ++
      [n.package ++ "." ++ String.ofList bare]
  [reference, String.ofList bare] ++ qualified

/-- The message that a reference stands for. -/
def message? (n : Names) (reference : String) : Option String :=
  (n.candidates reference).find? n.messages.contains

/-- The enum that a reference stands for. -/
def enum? (n : Names) (reference : String) : Option String :=
  (n.candidates reference).find? n.enums.contains

/-- The type that a reference stands for; messages come before enums. -/
def type? (n : Names) (reference : String) : Option FieldKind :=
  ((n.message? reference).map .message).or ((n.enum? reference).map .enum)

end Names

/-- Messages of a repeated name, and enums of a repeated name or the name of a message. -/
def repeatedNames (d : Document) : List Issue :=
  ((repeats (·.name) d.messages).map fun (m, _) => ⟨.message m.name, .messageRepeated⟩) ++
    (withBefore d.enums).filterMap fun (before, e) =>
      if before.any (·.name == e.name) || d.messages.any (·.name == e.name) then
        some ⟨.enum e.name, .typeNameRepeated⟩
      else none

/-- What is put in place of a missing value. -/
def orNote {α : Type} (found : Option α) (place : Place) (cause : Cause) : Noted (Option α) :=
  match found with
  | some a => pure (some a)
  | none => do
    Noted.note place cause
    return none

/-- A method. -/
def loadMethod (n : Names) (service : Place) (m : Document.Method) : Noted (Option Method) := do
  let place := service.inside .method m.name
  Noted.report (Extension.misplaced .method m.extensions place)
  let request ← orNote (n.message? m.inputType) place (.unknownRequest m.inputType)
  let response ← orNote (n.message? m.outputType) place (.unknownResponse m.outputType)
  let http ← Extension.http.interpret decodeHttpRule m.extensions place
  let entries ← Extension.extra.interpret decodeOptionEntries m.extensions place
  let options ← options (place.inside .extension Extension.extra.name) (entries.getD [])
  return do return ⟨m.name, ← request, ← response, http, options⟩

/-- A service. -/
def loadService (n : Names) (s : Document.Service) : Noted Service := do
  let place := Place.service s.name
  Noted.report (Extension.misplaced .service s.extensions place)
  let methods ← Noted.keep (withBefore s.methods) fun (before, m) =>
    if before.any (·.name == m.name) then
      .attempt (place.inside .method m.name) (.error .methodRepeated)
    else loadMethod n place m
  return ⟨s.name, methods⟩

/-- The defaults of a message or group. -/
def loadDefaults (extensions : Document.Extensions) (place : Place) : Noted BindingDefaults := do
  let location ← Extension.defaultLocation.interpret Extension.decodeLocation extensions place
  let autoTags ← Extension.defaultAutoTags.interpret Extension.decodeText extensions place
  return ⟨location, autoTags⟩

/-- A group of fields. -/
def loadOneof (place : Place) (o : Document.Oneof) : Noted Oneof := do
  Noted.report (Extension.misplaced .oneof o.extensions place)
  let defaults ← loadDefaults o.extensions place
  return ⟨o.name, defaults⟩

/-- Whether a label says that a field is repeated. -/
def repeatedOfLabel : Option String → Except Cause Bool
  | none | some "optional" | some "required" => .ok false
  | some "repeated" => .ok true
  | some other => .error (.unknownLabel other)

/-- The type of a field; a reference comes before a scalar type. -/
def fieldKind (n : Names) (f : Document.Field) : Except Cause FieldKind :=
  match f.typeName, f.scalar with
  | some reference, _ =>
    match n.type? reference with
    | some kind => .ok kind
    | none => .error (.unknownType reference)
  | none, some scalar => .ok (.scalar scalar)
  | none, none => .error .noType

/-- A field. -/
def loadField (n : Names) (place : Place) (f : Document.Field) : Noted (Option Field) := do
  Noted.report (Extension.misplaced .field f.extensions place)
  let repeated ← Noted.attempt place (repeatedOfLabel f.label)
  match ← Noted.attempt place (fieldKind n f) with
  | none => return none
  | some kind =>
    let location ← Extension.location.interpret Extension.decodeLocation f.extensions place
    let tag ← Extension.tag.interpret Extension.decodeText f.extensions place
    let autoTags ← Extension.autoTags.interpret Extension.decodeText f.extensions place
    return some {
      name := f.name
      wireName := f.jsonName.getD f.name
      number := f.number
      kind, repeated := repeated.getD false
      oneof := f.oneof
      location, tag, autoTags }

/-- Why a field cannot stand after others: its name is taken, or its number is taken by a field
of a fresh name. -/
def fieldClash? (before : List Document.Field) (f : Document.Field) : Option Cause :=
  if before.any (·.name == f.name) then some .fieldRepeated
  else if (firsts (·.name) before).any (·.number == f.number) then some (.numberTaken f.number)
  else none

/-- The issue of a field whose group is not declared. -/
def undeclaredOneof (m : Document.Message) (place : Place) (f : Document.Field) : List Issue :=
  match f.oneof with
  | none => []
  | some o => if m.oneofs.any (·.name == o) then [] else [⟨place, .unknownOneof o⟩]

/-- A message. -/
def loadMessage (n : Names) (m : Document.Message) : Noted Message := do
  let place := Place.message m.name
  Noted.report (Extension.misplaced .message m.extensions place)
  let defaults ← loadDefaults m.extensions place
  let oneofs ← Noted.keep (withBefore m.oneofs) fun (before, o) =>
    let place := place.inside .oneof o.name
    if before.any (·.name == o.name) then .attempt place (.error .oneofRepeated)
    else some <$> loadOneof place o
  let fields ← Noted.keep (withBefore m.fields) fun (before, f) =>
    let place := place.inside .field f.name
    match fieldClash? before f with
    | some cause => .attempt place (.error cause)
    | none => do
      Noted.report (undeclaredOneof m place f)
      loadField n place f
  return ⟨m.name, fields, oneofs, defaults⟩

/-- A value of an enum. -/
def loadEnumValue (place : Place) (v : Document.EnumValue) : Noted EnumValue := do
  Noted.report (Extension.misplaced .enumValue v.extensions place)
  let status ← Extension.status.interpret Extension.decodeStatus v.extensions place
  let reason ← Extension.reason.interpret Extension.decodeText v.extensions place
  let message ← Extension.message.interpret Extension.decodeText v.extensions place
  return ⟨v.name, v.number, status, reason, message⟩

/-- An enum. -/
def loadEnum (e : Document.Enum) : Noted Enum := do
  let place := Place.enum e.name
  Noted.report (Extension.misplaced .enum e.extensions place)
  let status ← Extension.defaultStatus.interpret Extension.decodeStatus e.extensions place
  let values ← Noted.keep (withBefore e.values) fun (before, v) =>
    let place := place.inside .value v.name
    if before.any (·.name == v.name) then .attempt place (.error .valueRepeated)
    else some <$> loadEnumValue place v
  return ⟨e.name, status, values⟩

/-- The schema of a document, with everything wrong with it. -/
def interpret (d : Document) : Noted Schema := do
  let n := Names.ofDocument d
  Noted.report (repeatedNames d)
  let services ← Noted.each d.services (loadService n)
  let messages ← Noted.each d.messages (loadMessage n)
  let enums ← Noted.each d.enums loadEnum
  return ⟨d.package, services, messages, enums⟩

/-- The schema of a document, if nothing is wrong with it. -/
def load (d : Document) : Except (List Issue) Schema :=
  let s := interpret d
  if s.issues.isEmpty then .ok s.value else .error s.issues

end ServiceContract.Schema
