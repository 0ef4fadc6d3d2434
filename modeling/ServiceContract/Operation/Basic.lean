import ServiceContract.Issue

/-!
# Operations

An operation is a callable method with what its handler is given: the route by which it is
reached, how the request is read, and how the response is written.
-/

namespace ServiceContract

open Schema (BodySelector ResponseSelector MethodOption)

/-- The route of an operation: its verb, the path as it is described, and the same path as
pattern and segments, with the name of the parameter that takes the rest of the path. -/
structure Operation.Endpoint where
  verb : String
  template : String
  pattern : String
  segments : List Route.Segment
  catchAll : Option String
  deriving DecidableEq, Repr, Inhabited

/-- How a request is read. -/
structure Operation.Decode where
  request : String
  body : BodySelector
  fields : List Binding.FieldBinding
  pathBindings : List Route.PathBinding
  deriving DecidableEq, Repr, Inhabited

/-- The binding of a field. -/
def Operation.Decode.field? (d : Operation.Decode) (name : String) :
    Option Binding.FieldBinding :=
  d.fields.find? (·.field == name)

/-- How a response is written; `outputType` is the type of what is written. -/
structure Operation.Encode where
  response : String
  selector : ResponseSelector
  outputType : String
  repeated : Bool
  deriving DecidableEq, Repr, Inhabited

/-- A callable method. It has a route and a way to read requests if it is mapped to HTTP. -/
structure Operation where
  id : String
  service : String
  method : String
  handlerName : String
  route : Option Operation.Endpoint
  decode : Option Operation.Decode
  encode : Operation.Encode
  extra : List MethodOption
  deriving DecidableEq, Repr, Inhabited

/-- The place of the method that an operation calls. -/
def Operation.place (o : Operation) : Place :=
  (Place.service o.service).inside .method o.method

end ServiceContract
