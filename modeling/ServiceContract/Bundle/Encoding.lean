import ServiceContract.Bundle.Basic

/-!
# Bundles as JSON values

The parts of a bundle as JSON values. The fields of a record come in a fixed order, which is the
order in which they are written.
-/

namespace ServiceContract

open Schema (BodySelector ResponseSelector OptionValue MethodOption FieldKind)

/-- A tagged value: a tag, and what it carries under a key. -/
def Json.tagged (tagKey tag valueKey : String) (value : Json) : Json :=
  .object [(tagKey, .text tag), (valueKey, value)]

/-- A list of texts. -/
def Json.ofTexts (texts : List String) : Json :=
  .array (texts.map .text)

/-- A value that may be missing. -/
def Json.ofOption {α : Type} (encode : α → Json) (value : Option α) : Json :=
  value.elim .null encode

/-- A body selector. -/
def Schema.BodySelector.toJson : BodySelector → Json
  | .entire => .object [("kind", .text "entire")]
  | .field name => .tagged "kind" "field" "field" (.text name)
  | .none => .object [("kind", .text "none")]

/-- A response selector. -/
def Schema.ResponseSelector.toJson : ResponseSelector → Json
  | .entire => .object [("kind", .text "entire")]
  | .field name => .tagged "kind" "field" "field" (.text name)

/-- The value of an option. -/
def Schema.OptionValue.toJson : OptionValue → Json
  | .flag b => .tagged "type" "flag" "value" (.bool b)
  | .text s => .tagged "type" "text" "value" (.text s)
  | .number x => .tagged "type" "number" "value" (.number (.float x))
  | .stringMap entries =>
    .tagged "type" "string_map" "value" (.object (entries.map fun (k, v) => (k, .text v)))

/-- An option. -/
def Schema.MethodOption.toJson (o : MethodOption) : Json :=
  .object [("key", .text o.key), ("value", o.value.toJson)]

/-- The type of a field. -/
def Schema.FieldKind.toJson : FieldKind → Json
  | .scalar t => .tagged "kind" "scalar" "type" (.text t)
  | .message t => .tagged "kind" "message" "type" (.text t)
  | .enum t => .tagged "kind" "enum" "type" (.text t)

/-- A location. -/
def Location.toJson (l : Location) : Json :=
  .text l.label

namespace Route

/-- A segment. -/
def Segment.toJson : Segment → Json
  | .literal s => .tagged "kind" "literal" "value" (.text s)
  | .dynamic s => .tagged "kind" "dynamic" "value" (.text s)
  | .catchAll s => .tagged "kind" "catch_all" "value" (.text s)

/-- A path binding. -/
def PathBinding.toJson (b : PathBinding) : Json :=
  .object [("name", .text b.name), ("field_path", .ofTexts b.fieldPath),
    ("catch_all", .bool b.catchAll)]

/-- A template. -/
def Template.toJson (t : Template) : Json :=
  .object [("template", .text t.source), ("segments", .array (t.segments.map (·.toJson))),
    ("bindings", .array (t.bindings.map (·.toJson)))]

end Route

namespace Binding

/-- A tag. -/
def Tag.toJson (t : Tag) : Json :=
  .object [("key", .text t.key), ("value", .text t.value)]

/-- A field binding. -/
def FieldBinding.toJson (b : FieldBinding) : Json :=
  .object [("field", .text b.field), ("wire_name", .text b.wireName),
    ("number", .ofNat b.number.toNat), ("location", b.location.toJson),
    ("source", .text b.source.label), ("tags", .array (b.tags.tags.map (·.toJson))),
    ("tag_string", .text b.tagString), ("kind", b.kind.toJson), ("repeated", .bool b.repeated)]

end Binding

namespace Operation

/-- An endpoint. -/
def Endpoint.toJson (r : Endpoint) : Json :=
  .object [("verb", .text r.verb), ("template", .text r.template), ("pattern", .text r.pattern),
    ("segments", .array (r.segments.map (·.toJson))), ("catch_all", .ofText? r.catchAll)]

/-- How a request is read. -/
def Decode.toJson (d : Decode) : Json :=
  .object [("request", .text d.request), ("body", d.body.toJson),
    ("fields", .array (d.fields.map (·.toJson))),
    ("path_bindings", .array (d.pathBindings.map (·.toJson)))]

/-- How a response is written. -/
def Encode.toJson (e : Encode) : Json :=
  .object [("response", .text e.response), ("selector", e.selector.toJson),
    ("output_type", .text e.outputType), ("repeated", .bool e.repeated)]

/-- An operation. -/
def toJson (o : Operation) : Json :=
  .object [("operation_id", .text o.id), ("service", .text o.service), ("method", .text o.method),
    ("handler_name", .text o.handlerName), ("route", .ofOption Endpoint.toJson o.route),
    ("decode", .ofOption Decode.toJson o.decode), ("encode", o.encode.toJson),
    ("extra", .array (o.extra.map (·.toJson)))]

end Operation

namespace Failure

/-- An error descriptor. -/
def ErrorDescriptor.toJson (d : ErrorDescriptor) : Json :=
  .object [("enum_name", .text d.enumName), ("name", .text d.name),
    ("code", .number (.int d.code.toInt)), ("status", .ofNat d.status),
    ("reason", .text d.reason), ("message", .text d.message),
    ("status_source", .text d.statusSource.label)]

/-- An operation on errors. -/
def ContractOperation.toJson (o : ContractOperation) : Json :=
  .object [("name", .text o.name), ("params", .ofTexts o.params),
    ("replaces_message", .bool o.replacesMessage)]

/-- An error contract. -/
def ErrorContract.toJson (c : ErrorContract) : Json :=
  .object [("enum_name", .text c.enumName), ("values", .array (c.values.map (·.toJson))),
    ("operations", .array (operations.map (·.toJson)))]

end Failure

namespace Bundle

/-- A registration. -/
def Registration.toJson (r : Registration) : Json :=
  .object [("operation_id", .text r.operationId), ("service", .text r.service),
    ("handler_name", .text r.handlerName), ("verb", .ofText? r.verb),
    ("pattern", .ofText? r.pattern)]

/-- A signature. -/
def Signature.toJson (s : Signature) : Json :=
  .object [("method", .text s.method), ("handler_name", .text s.handlerName),
    ("request", .text s.request), ("response", .text s.response),
    ("operation_id", .text s.operationId)]

/-- An interface. -/
def Interface.toJson (i : Interface) : Json :=
  .object [("name", .text i.name), ("qualified_name", .text i.qualifiedName),
    ("methods", .array (i.methods.map (·.toJson)))]

/-- The options of an operation. -/
def ExtraData.toJson (e : ExtraData) : Json :=
  .object [("operation_id", .text e.operationId), ("options", .array (e.options.map (·.toJson)))]

/-- A bundle. -/
def toJson (b : Bundle) : Json :=
  .object [("package", .text b.package), ("operations", .array (b.operations.map (·.toJson))),
    ("interfaces", .array (b.interfaces.map (·.toJson))),
    ("registrations", .array (b.registrations.map (·.toJson))),
    ("extra_data", .array (b.extraData.map (·.toJson))),
    ("errors", .array (b.errors.map (·.toJson)))]

end Bundle

end ServiceContract
