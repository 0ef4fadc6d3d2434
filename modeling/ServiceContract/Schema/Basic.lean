import ServiceContract.Number.Binary64
import ServiceContract.Text.Pieces

/-!
# Schemas

A schema is a service description with its extensions interpreted: HTTP mappings, options, the
places where request fields are found, tags, and the statuses of error enums. Types are referred
to by the names of the messages and enums of the schema.
-/

namespace ServiceContract

/-- The part of a request where a field is found. -/
inductive Location where
  | uri
  | query
  | body
  | header
  | form
  deriving DecidableEq, Repr, Inhabited

namespace Location

/-- The name of a location. -/
def label : Location → String
  | .uri => "uri"
  | .query => "query"
  | .body => "body"
  | .header => "header"
  | .form => "form"

/-- The key of the tag that marks a location; a body field has none. -/
def tagKey? : Location → Option String
  | .uri => some "uri"
  | .query => some "query"
  | .header => some "header"
  | .form => some "form"
  | .body => none

/-- The location that a text names, in any case. -/
def ofText? (s : String) : Option Location :=
  match Text.upper s with
  | "URI" | "PATH" => some .uri
  | "QUERY" => some .query
  | "BODY" => some .body
  | "HEADER" => some .header
  | "FORM" => some .form
  | _ => none

/-- The words for a text that names no location. -/
def unknownMessage (s : String) : String :=
  "unknown binding location '" ++ Text.upper s ++ "'"

end Location

namespace Schema

/-- What a request carries as its body: the whole message, one field, or nothing. -/
inductive BodySelector where
  | entire
  | field (name : String)
  | none
  deriving DecidableEq, Repr, Inhabited

/-- What a response carries: the whole message or one field. -/
inductive ResponseSelector where
  | entire
  | field (name : String)
  deriving DecidableEq, Repr, Inhabited

/-- The value of an option. The entries of a map are in increasing order of keys. -/
inductive OptionValue where
  | flag (b : Bool)
  | text (s : String)
  | number (x : Binary64)
  | stringMap (entries : List (String × String))
  deriving DecidableEq, Repr, Inhabited

/-- The text of an option that is a text. -/
def OptionValue.asText? : OptionValue → Option String
  | .text s => some s
  | _ => none

/-- An option of a method. -/
structure MethodOption where
  key : String
  value : OptionValue
  deriving DecidableEq, Repr, Inhabited

/-- The HTTP mapping of a method. -/
structure HttpRule where
  verb : String
  path : String
  body : BodySelector
  response : ResponseSelector
  deriving DecidableEq, Repr, Inhabited

/-- A method, with the names of its request and response messages. -/
structure Method where
  name : String
  request : String
  response : String
  http : Option HttpRule
  options : List MethodOption
  deriving DecidableEq, Repr, Inhabited

namespace Method

/-- Whether a method has neither an HTTP mapping nor options. -/
def isUnmapped (m : Method) : Bool :=
  m.http.isNone && m.options.isEmpty

/-- The value of an option. -/
def option? (m : Method) (key : String) : Option OptionValue :=
  (m.options.find? (·.key == key)).map (·.value)

end Method

/-- A service. -/
structure Service where
  name : String
  methods : List Method
  deriving DecidableEq, Repr, Inhabited

/-- What the fields of a message or group take where they say nothing themselves. -/
structure BindingDefaults where
  location : Option Location := none
  autoTags : Option String := none
  deriving DecidableEq, Repr, Inhabited

/-- A group of fields of which one is present. -/
structure Oneof where
  name : String
  defaults : BindingDefaults
  deriving DecidableEq, Repr, Inhabited

/-- The type of a field. -/
inductive FieldKind where
  | scalar (type : String)
  | message (name : String)
  | enum (name : String)
  deriving DecidableEq, Repr, Inhabited

namespace FieldKind

/-- The name of a type. -/
def typeName : FieldKind → String
  | .scalar t | .message t | .enum t => t

/-- Whether a type is a message. -/
def isMessage : FieldKind → Bool
  | .message _ => true
  | _ => false

end FieldKind

/-- A field of a message. -/
structure Field where
  name : String
  wireName : String
  number : UInt32
  kind : FieldKind
  repeated : Bool
  oneof : Option String
  location : Option Location
  tag : Option String
  autoTags : Option String
  deriving DecidableEq, Repr, Inhabited

/-- A message. -/
structure Message where
  name : String
  fields : List Field
  oneofs : List Oneof
  defaults : BindingDefaults
  deriving DecidableEq, Repr, Inhabited

namespace Message

/-- The field of a name. -/
def field? (m : Message) (name : String) : Option Field :=
  m.fields.find? (·.name == name)

/-- The group of a name. -/
def oneof? (m : Message) (name : String) : Option Oneof :=
  m.oneofs.find? (·.name == name)

/-- The group that a field belongs to. -/
def oneofOf? (m : Message) (f : Field) : Option Oneof :=
  f.oneof.bind m.oneof?

end Message

/-- A value of an enum, with what an error made of it says. -/
structure EnumValue where
  name : String
  number : Int32
  status : Option Nat
  reason : Option String
  message : Option String
  deriving DecidableEq, Repr, Inhabited

/-- An enum. -/
structure Enum where
  name : String
  defaultStatus : Option Nat
  values : List EnumValue
  deriving DecidableEq, Repr, Inhabited

/-- Whether an enum describes errors: it or one of its values says something about them. -/
def Enum.isErrorEnum (e : Enum) : Bool :=
  e.defaultStatus.isSome ||
    e.values.any fun v => v.status.isSome || v.reason.isSome || v.message.isSome

end Schema

/-- A service description with its extensions interpreted. -/
structure Schema where
  package : String := ""
  services : List Schema.Service := []
  messages : List Schema.Message := []
  enums : List Schema.Enum := []
  deriving DecidableEq, Repr, Inhabited

namespace Schema

/-- The message of a name. -/
def message? (s : Schema) (name : String) : Option Message :=
  s.messages.find? (·.name == name)

/-- The enum of a name. -/
def enum? (s : Schema) (name : String) : Option Enum :=
  s.enums.find? (·.name == name)

/-- A name with the package before it. -/
def qualified (s : Schema) (name : String) : String :=
  if s.package.isEmpty then name else s.package ++ "." ++ name

end Schema

end ServiceContract
