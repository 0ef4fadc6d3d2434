import ServiceContract.Binding.Resolve
import ServiceContract.Json.Mismatch
import ServiceContract.Route.Template

/-!
# Issues

An issue says what is wrong with a description and where. `Cause` lists everything that can be
wrong; the kind of an issue and its words follow from the cause.
-/

namespace ServiceContract

/-- The kinds of issues. -/
inductive Issue.Kind where
  | malformedSchema
  | unresolvedReference
  | conflictingBinding
  | duplicateTagKey
  | invalidPathTemplate
  | duplicateErrorCode
  | duplicateOperation
  | schemaTooDeep
  | unmappedMethod
  deriving DecidableEq, Repr, Inhabited

/-- The name of a kind. -/
def Issue.Kind.label : Issue.Kind → String
  | .malformedSchema => "MalformedSchema"
  | .unresolvedReference => "UnresolvedReference"
  | .conflictingBinding => "ConflictingBinding"
  | .duplicateTagKey => "DuplicateTagKey"
  | .invalidPathTemplate => "InvalidPathTemplate"
  | .duplicateErrorCode => "DuplicateErrorCode"
  | .duplicateOperation => "DuplicateOperation"
  | .schemaTooDeep => "SchemaTooDeep"
  | .unmappedMethod => "UnmappedMethod"

/-- All kinds, in order. -/
def Issue.Kind.all : List Issue.Kind :=
  [.malformedSchema, .unresolvedReference, .conflictingBinding, .duplicateTagKey,
    .invalidPathTemplate, .duplicateErrorCode, .duplicateOperation, .schemaTooDeep,
    .unmappedMethod]

/-- The elements of a description that extensions can be attached to. -/
inductive Element where
  | service
  | method
  | message
  | oneof
  | field
  | enum
  | enumValue
  deriving DecidableEq, Repr, Inhabited

/-- The words for an element. -/
def Element.label : Element → String
  | .service => "service"
  | .method => "method"
  | .message => "message"
  | .oneof => "oneof"
  | .field => "field"
  | .enum => "enum"
  | .enumValue => "enum value"

/-- What a step of a place leads to. -/
inductive Place.Role where
  | service
  | method
  | message
  | enum
  | field
  | oneof
  | value
  | extension
  deriving DecidableEq, Repr, Inhabited

/-- The name of a role. -/
def Place.Role.label : Place.Role → String
  | .service => "service"
  | .method => "method"
  | .message => "message"
  | .enum => "enum"
  | .field => "field"
  | .oneof => "oneof"
  | .value => "value"
  | .extension => "extension"

/-- A step towards an element: what it is, and its name. -/
structure Place.Step where
  role : Place.Role
  name : String
  deriving DecidableEq, Repr, Inhabited

/-- A step as it is written. -/
def Place.Step.text (s : Place.Step) : String :=
  s.role.label ++ ":" ++ s.name

/-- The place of an element in a description: the steps from the root to it. -/
abbrev Place := List Place.Step

namespace Place

/-- A service. -/
def service (name : String) : Place := [⟨.service, name⟩]

/-- A message. -/
def message (name : String) : Place := [⟨.message, name⟩]

/-- An enum. -/
def enum (name : String) : Place := [⟨.enum, name⟩]

/-- The element inside this place. -/
def inside (p : Place) (role : Role) (name : String) : Place := p ++ [⟨role, name⟩]

/-- A place as it is written. -/
def text (p : Place) : String :=
  if p.isEmpty then "schema" else "/".intercalate (p.map Step.text)

end Place

/-- What can be wrong with a description. -/
inductive Cause where
  | messageRepeated
  | typeNameRepeated
  | methodRepeated
  | oneofRepeated
  | fieldRepeated
  | numberTaken (number : UInt32)
  | valueRepeated
  | misplaced (name : String) (element : Element) (allowed : List Element)
  | undecodable (name : String) (mismatch : Mismatch)
  | unknownLocation (text : String)
  | badStatus (value : Json)
  | unknownRequest (reference : String)
  | unknownResponse (reference : String)
  | unknownType (reference : String)
  | unknownOneof (name : String)
  | unknownLabel (label : String)
  | noType
  | badVerb (kind : String)
  | verbCount (count : Nat)
  | bodyNotAllowed (verb : String)
  | blankOptionKey
  | optionRepeated (key : String)
  | optionValueCount (key : String)
  | unmapped
  | messageNotLoaded (name : String)
  | template (e : Route.TemplateError)
  | pathTooDeep (path : List String) (max : Nat)
  | pathFieldMissing (parameter field message : String)
  | pathNotScalar (parameter field type : String) (repeated : Bool)
  | pathNotMessage (parameter field type : String)
  | bodyFieldMissing (field message : String)
  | responseFieldMissing (field message : String)
  | binding (e : Binding.BindingError)
  | operationIdTaken (id service method : String)
  | routeTaken (verb pattern service method : String)
  | codeTaken (code : Int) (holder : String)
  deriving DecidableEq, Repr

namespace Cause

/-- The kind of a refused template. -/
def kindOfTemplate : Route.Fault → Issue.Kind
  | .tooDeep _ _ _ => .schemaTooDeep
  | _ => .invalidPathTemplate

/-- The kind of a field that cannot be bound. -/
def kindOfBinding : Binding.BindingFault → Issue.Kind
  | .conflicting _ | .bodyFromPath => .conflictingBinding
  | .repeatedTagKey _ => .duplicateTagKey
  | .malformedTag _ => .malformedSchema

/-- The kind of a cause. -/
def kind : Cause → Issue.Kind
  | .unknownRequest _ | .unknownResponse _ | .unknownType _ | .unknownOneof _
  | .messageNotLoaded _ | .pathFieldMissing _ _ _ | .pathNotScalar _ _ _ _
  | .pathNotMessage _ _ _ | .bodyFieldMissing _ _ | .responseFieldMissing _ _ =>
    .unresolvedReference
  | .unmapped => .unmappedMethod
  | .template e => kindOfTemplate e.fault
  | .pathTooDeep _ _ => .schemaTooDeep
  | .binding e => kindOfBinding e.fault
  | .operationIdTaken _ _ _ | .routeTaken _ _ _ _ => .duplicateOperation
  | .codeTaken _ _ => .duplicateErrorCode
  | _ => .malformedSchema

/-- The words for a cause. -/
def message : Cause → String
  | .messageRepeated => "message declared more than once"
  | .typeNameRepeated => "type name declared more than once"
  | .methodRepeated => "method declared more than once in service"
  | .oneofRepeated => "oneof declared more than once"
  | .fieldRepeated => "field declared more than once"
  | .numberTaken number =>
    "wire number " ++ toString number.toNat ++ " is already used in this message"
  | .valueRepeated => "enum value declared more than once"
  | .misplaced name element allowed =>
    "extension '" ++ name ++ "' cannot be attached to a " ++ element.label ++ " (allowed on: " ++
      ", ".intercalate (allowed.map Element.label) ++ ")"
  | .undecodable name mismatch =>
    "invalid value for extension '" ++ name ++ "': " ++ mismatch.message
  | .unknownLocation text => Location.unknownMessage text
  | .badStatus value => "'" ++ value.compact ++ "' is not an HTTP status code (100-599)"
  | .unknownRequest reference => "request type '" ++ reference ++ "' is not a known message"
  | .unknownResponse reference => "response type '" ++ reference ++ "' is not a known message"
  | .unknownType reference => "type '" ++ reference ++ "' is not a known message or enum"
  | .unknownOneof name => "oneof '" ++ name ++ "' is not declared in the message"
  | .unknownLabel label => "unknown field label '" ++ label ++ "'"
  | .noType => "field declares neither a scalar type nor a type reference"
  | .badVerb kind => "'" ++ kind ++ "' is not a valid HTTP verb"
  | .verbCount count =>
    "HTTP mapping must declare exactly one verb, found " ++ toString count
  | .bodyNotAllowed verb => verb ++ " mappings cannot carry a request body"
  | .blankOptionKey => "option key must not be empty"
  | .optionRepeated key => "option '" ++ key ++ "' declared more than once"
  | .optionValueCount key =>
    "option '" ++ key ++ "' must carry exactly one of flag, text, number or map"
  | .unmapped => "method has neither an HTTP mapping nor generic options"
  | .messageNotLoaded name => "message '" ++ name ++ "' is not loaded"
  | .template e => e.message
  | .pathTooDeep path max =>
    "path field '" ++ ".".intercalate path ++ "' is nested deeper than " ++ toString max ++
      " levels"
  | .pathFieldMissing parameter field message =>
    "path placeholder '" ++ parameter ++ "' names no field '" ++ field ++ "' in " ++ message
  | .pathNotScalar parameter field type repeated =>
    "path placeholder '" ++ parameter ++ "' names '" ++ field ++ "', which is a " ++
      (if repeated then "repeated " else "") ++ type ++ " and not a scalar"
  | .pathNotMessage parameter field type =>
    "path placeholder '" ++ parameter ++ "' descends into '" ++ field ++ "', which is a " ++
      type ++ " and not a message"
  | .bodyFieldMissing field message =>
    "body field '" ++ field ++ "' is not a field of " ++ message
  | .responseFieldMissing field message =>
    "response field '" ++ field ++ "' is not a field of " ++ message
  | .binding e => e.message
  | .operationIdTaken id service method =>
    "operation id '" ++ id ++ "' is already used by " ++ service ++ "." ++ method
  | .routeTaken verb pattern service method =>
    "route " ++ verb ++ " " ++ pattern ++ " conflicts with " ++ service ++ "." ++ method
  | .codeTaken code holder => "code " ++ toString code ++ " is already used by " ++ holder

end Cause

/-- What is wrong, and where. -/
structure Issue where
  place : Place
  cause : Cause
  deriving DecidableEq, Repr

namespace Issue

/-- The kind of an issue. -/
def kind (i : Issue) : Kind := i.cause.kind

/-- The words for what is wrong. -/
def message (i : Issue) : String := i.cause.message

/-- An issue as it is shown. -/
def text (i : Issue) : String :=
  "[" ++ i.kind.label ++ "] " ++ i.place.text ++ ": " ++ i.message

/-- The words for a number of issues. -/
def summary (issues : List Issue) : String :=
  toString issues.length ++ " schema issue(s) found"

/-- The report of issues that stop a run. -/
def report (issues : List Issue) : String :=
  "\n❌ Schema generation failed. " ++ toString issues.length ++ " issue(s) found:\n\n" ++
    String.join (issues.map fun i => i.text ++ "\n") ++
    "\nPlease fix the issues in your schema before generating.\n\n"

end Issue

end ServiceContract
