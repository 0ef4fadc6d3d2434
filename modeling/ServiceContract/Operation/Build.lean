import ServiceContract.Operation.Basic
import ServiceContract.Settings.Basic
import ServiceContract.Text.SnakeCase

/-!
# Operations of methods

* `Operation.build`: the operation of a method, nothing for a method that is skipped, or the
  first issue that keeps it from being one.
-/

namespace ServiceContract.Operation

open Schema (BodySelector ResponseSelector HttpRule Message Method Service)

/-- The identifier of a method's operation: the text option under the key for a method without
an HTTP mapping that has one, else the qualified name of the method. -/
def idOf (s : Schema) (service : Service) (m : Method) (optionsKey : String) : String :=
  let named := if m.http.isNone then (m.option? optionsKey).bind (·.asText?) else none
  named.getD (s.qualified service.name ++ "/" ++ m.name)

/-- The message of a name. -/
def findMessage (s : Schema) (place : Place) (name : String) : Except Issue Message :=
  match s.message? name with
  | some m => .ok m
  | none => .error ⟨place, .messageNotLoaded name⟩

/-- Checks that a path of fields leads from a message through messages to a single scalar. -/
def checkPath (s : Schema) (place : Place) (parameter : String) (message : Message) :
    List String → Except Issue Unit
  | [] => .ok ()
  | component :: rest => do
    let here := place.inside .field component
    let field ← match message.field? component with
      | some f => pure f
      | none => .error ⟨here, .pathFieldMissing parameter component message.name⟩
    if rest.isEmpty then
      if field.repeated || field.kind.isMessage then
        .error ⟨here, .pathNotScalar parameter component field.kind.typeName field.repeated⟩
      else .ok ()
    else
      match field.kind with
      | .message name => do
        checkPath s place parameter (← findMessage s place name) rest
      | kind => .error ⟨here, .pathNotMessage parameter component kind.typeName⟩

/-- Checks that a path binding fills in one field of the request. -/
def checkBinding (s : Schema) (place : Place) (request : Message) (maxDepth : Nat)
    (b : Route.PathBinding) : Except Issue Unit :=
  if maxDepth < b.fieldPath.length then .error ⟨place, .pathTooDeep b.fieldPath maxDepth⟩
  else checkPath s place b.name request b.fieldPath

/-- Checks that a selected body is a field of the request. -/
def checkBody (place : Place) (request : Message) : BodySelector → Except Issue Unit
  | .field name =>
    if (request.field? name).isNone then
      .error ⟨place.inside .field name, .bodyFieldMissing name request.name⟩
    else .ok ()
  | _ => .ok ()

/-- The route of an HTTP mapping and how its requests are read. -/
def buildHttp (s : Schema) (place : Place) (rule : HttpRule) (request : Message)
    (maxDepth : Nat) : Except Issue (Endpoint × Decode) := do
  let t ← (Route.Template.parse rule.path maxDepth).mapError fun e => ⟨place, .template e⟩
  t.bindings.forM (checkBinding s place request maxDepth)
  checkBody place request rule.body
  let fields ← (Binding.resolveMessage request ⟨rule.body, t.topLevelFields⟩).mapError fun e =>
    ⟨place.inside .field e.field, .binding e⟩
  return (⟨rule.verb, rule.path, t.pattern, t.segments, t.catchAll?.map (·.name)⟩,
    ⟨request.name, rule.body, fields, t.bindings⟩)

/-- How a response is written. -/
def buildEncode (place : Place) (response : Message) :
    ResponseSelector → Except Issue Encode
  | .entire => .ok ⟨response.name, .entire, response.name, false⟩
  | .field name =>
    match response.field? name with
    | some f => .ok ⟨response.name, .field name, f.kind.typeName, f.repeated⟩
    | none => .error ⟨place.inside .field name, .responseFieldMissing name response.name⟩

/-- The operation of a mapped method. -/
def buildMapped (s : Schema) (service : Service) (m : Method) (c : Settings) :
    Except Issue Operation := do
  let place := (Place.service service.name).inside .method m.name
  let request ← findMessage s place m.request
  let response ← findMessage s place m.response
  let http ← m.http.mapM fun rule => buildHttp s place rule request c.maxDepth
  let encode ← buildEncode place response ((m.http.map (·.response)).getD .entire)
  return {
    id := idOf s service m c.optionsKey
    service := service.name
    method := m.name
    handlerName := Text.snakeCase m.name
    route := http.map (·.1)
    decode := http.map (·.2)
    encode
    extra := m.options }

/-- The operation of a method, or none for an unmapped method that is skipped. -/
def build (s : Schema) (service : Service) (m : Method) (c : Settings) :
    Except Issue (Option Operation) :=
  if m.isUnmapped then
    match c.unmapped with
    | .skip => .ok none
    | .error => .error ⟨(Place.service service.name).inside .method m.name, .unmapped⟩
  else some <$> buildMapped s service m c

end ServiceContract.Operation
