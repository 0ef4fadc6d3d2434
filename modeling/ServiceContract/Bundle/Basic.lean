import ServiceContract.Failure.Contract
import ServiceContract.Operation.Basic

/-!
# Bundles

A bundle is everything that is generated from a schema: its operations, the interface of each
service, the registrations by which calls reach their handlers, the options of operations, and
the error contracts. All tables are in the order of the schema.
-/

namespace ServiceContract

open Schema (MethodOption)

/-- How an operation is registered, with verb and pattern if it has a route. -/
structure Bundle.Registration where
  operationId : String
  service : String
  handlerName : String
  verb : Option String
  pattern : Option String
  deriving DecidableEq, Repr, Inhabited

/-- A method that an implementation of a service provides. -/
structure Bundle.Signature where
  method : String
  handlerName : String
  request : String
  response : String
  operationId : String
  deriving DecidableEq, Repr, Inhabited

/-- What an implementation of a service provides. -/
structure Bundle.Interface where
  name : String
  qualifiedName : String
  methods : List Bundle.Signature
  deriving DecidableEq, Repr, Inhabited

/-- The options of an operation. -/
structure Bundle.ExtraData where
  operationId : String
  options : List MethodOption
  deriving DecidableEq, Repr, Inhabited

/-- Everything that is generated from a schema. -/
structure Bundle where
  package : String
  operations : List Operation
  interfaces : List Bundle.Interface
  registrations : List Bundle.Registration
  extraData : List Bundle.ExtraData
  errors : List Failure.ErrorContract
  deriving DecidableEq, Repr, Inhabited

namespace Bundle

/-- The operation of an identifier. -/
def operation? (b : Bundle) (id : String) : Option Operation :=
  b.operations.find? (·.id == id)

/-- The registration of an operation. -/
def registration? (b : Bundle) (id : String) : Option Registration :=
  b.registrations.find? (·.operationId == id)

/-- The options of an operation that has some. -/
def extraData? (b : Bundle) (id : String) : Option (List MethodOption) :=
  (b.extraData.find? (·.operationId == id)).map (·.options)

/-- The interface of a service. -/
def interface? (b : Bundle) (service : String) : Option Interface :=
  b.interfaces.find? (·.name == service)

/-- The error contract of an enum. -/
def errorContract? (b : Bundle) (enumName : String) : Option Failure.ErrorContract :=
  b.errors.find? (·.enumName == enumName)

/-- The registration of an operation. -/
def Registration.ofOperation (o : Operation) : Registration :=
  ⟨o.id, o.service, o.handlerName, o.route.map (·.verb), o.route.map (·.pattern)⟩

/-- The options of an operation, if it has some. -/
def ExtraData.ofOperation? (o : Operation) : Option ExtraData :=
  if o.extra.isEmpty then none else some ⟨o.id, o.extra⟩

/-- The signature of a method that has an operation. -/
def Signature.ofOperation (m : Schema.Method) (o : Operation) : Signature :=
  ⟨o.method, o.handlerName, m.request, m.response, o.id⟩

end Bundle

end ServiceContract
