import ServiceContract.Json.Basic

/-!
# Documents

A document is a service description as it is written: services with methods, messages with
fields, enums with values, and on each element a map of extensions whose values are not
interpreted yet. The entries of such a map are in increasing order of keys.
-/

namespace ServiceContract.Document

/-- Named values attached to an element. -/
abbrev Extensions := List (String × Json)

/-- A method of a service, with the names of its request and response types. -/
structure Method where
  name : String := ""
  inputType : String := ""
  outputType : String := ""
  extensions : Extensions := []
  deriving DecidableEq, Repr, Inhabited

/-- A service. -/
structure Service where
  name : String := ""
  extensions : Extensions := []
  methods : List Method := []
  deriving DecidableEq, Repr, Inhabited

/-- A group of fields of which one is present. -/
structure Oneof where
  name : String := ""
  extensions : Extensions := []
  deriving DecidableEq, Repr, Inhabited

/-- A field of a message. It has a scalar type or the name of a message or enum. -/
structure Field where
  name : String := ""
  number : UInt32 := 0
  scalar : Option String := none
  typeName : Option String := none
  label : Option String := none
  jsonName : Option String := none
  oneof : Option String := none
  extensions : Extensions := []
  deriving DecidableEq, Repr, Inhabited

/-- A message. -/
structure Message where
  name : String := ""
  extensions : Extensions := []
  oneofs : List Oneof := []
  fields : List Field := []
  deriving DecidableEq, Repr, Inhabited

/-- A value of an enum. -/
structure EnumValue where
  name : String := ""
  number : Int32 := 0
  extensions : Extensions := []
  deriving DecidableEq, Repr, Inhabited

/-- An enum. -/
structure Enum where
  name : String := ""
  extensions : Extensions := []
  values : List EnumValue := []
  deriving DecidableEq, Repr, Inhabited

end ServiceContract.Document

namespace ServiceContract

/-- A service description as it is written. -/
structure Document where
  package : String := ""
  services : List Document.Service := []
  messages : List Document.Message := []
  enums : List Document.Enum := []
  deriving DecidableEq, Repr, Inhabited

end ServiceContract
