import ServiceContract.Document.Basic

/-!
# Documents as JSON values

`Document.toJson` writes every list and every extension map, also an empty one, and of the
optional parts of a field those that are present.
-/

namespace ServiceContract.Document

/-- A list of elements. -/
def listToJson {α : Type} (f : α → Json) (as : List α) : Json :=
  .array (as.map f)

/-- The entry of an optional text: none if it is absent. -/
def optionalEntry (key : String) (s : Option String) : List (String × Json) :=
  match s with
  | some s => [(key, .text s)]
  | none => []

/-- A method. -/
def Method.toJson (a : Method) : Json :=
  .object [("name", .text a.name), ("input_type", .text a.inputType),
    ("output_type", .text a.outputType), ("extensions", .object a.extensions)]

/-- A service. -/
def Service.toJson (a : Service) : Json :=
  .object [("name", .text a.name), ("extensions", .object a.extensions),
    ("methods", listToJson Method.toJson a.methods)]

/-- A group of fields. -/
def Oneof.toJson (a : Oneof) : Json :=
  .object [("name", .text a.name), ("extensions", .object a.extensions)]

/-- A field. -/
def Field.toJson (a : Field) : Json :=
  .object ([("name", .text a.name), ("number", .number (.int a.number.toNat))] ++
    optionalEntry "type" a.scalar ++ optionalEntry "type_name" a.typeName ++
    optionalEntry "label" a.label ++ optionalEntry "json_name" a.jsonName ++
    optionalEntry "oneof" a.oneof ++ [("extensions", .object a.extensions)])

/-- A message. -/
def Message.toJson (a : Message) : Json :=
  .object [("name", .text a.name), ("extensions", .object a.extensions),
    ("oneofs", listToJson Oneof.toJson a.oneofs), ("fields", listToJson Field.toJson a.fields)]

/-- A value of an enum. -/
def EnumValue.toJson (a : EnumValue) : Json :=
  .object [("name", .text a.name), ("number", .number (.int a.number.toInt)),
    ("extensions", .object a.extensions)]

/-- An enum. -/
def Enum.toJson (a : Enum) : Json :=
  .object [("name", .text a.name), ("extensions", .object a.extensions),
    ("values", listToJson EnumValue.toJson a.values)]

/-- A document. -/
def toJson (a : Document) : Json :=
  .object [("package", .text a.package), ("services", listToJson Service.toJson a.services),
    ("messages", listToJson Message.toJson a.messages), ("enums", listToJson Enum.toJson a.enums)]

end ServiceContract.Document
