import ServiceContract.Attempts
import ServiceContract.Before
import ServiceContract.Failure.Status
import ServiceContract.Issue

/-!
# Error contracts

An enum that describes errors becomes a contract: for each value the code, status, reason and
message of its errors. Codes differ within a contract; they may be asked to differ among all
contracts of a schema.

* `ErrorContract.ofEnum`: the contract of an enum, or the first value whose code is taken.
* `ErrorContract.sharedCodes`: the values whose code an earlier value has.
-/

namespace ServiceContract.Failure

open Schema (Enum EnumValue)

/-- Where the status of an error comes from. -/
inductive StatusSource where
  | value
  | enum
  | fallback
  deriving DecidableEq, Repr, Inhabited

/-- The name of a source. -/
def StatusSource.label : StatusSource → String
  | .value => "value"
  | .enum => "enum"
  | .fallback => "fallback"

/-- What the errors of an enum value say. -/
structure ErrorDescriptor where
  enumName : String
  name : String
  code : Int32
  status : Nat
  reason : String
  message : String
  statusSource : StatusSource
  deriving DecidableEq, Repr, Inhabited

/-- The error that a descriptor describes. -/
def StatusError.ofDescriptor (d : ErrorDescriptor) : StatusError :=
  .new d.code.toInt d.status d.reason d.message

/-- An operation on errors, with its parameters and whether the result has a message of its
own. -/
structure ContractOperation where
  name : String
  params : List String
  replacesMessage : Bool
  deriving DecidableEq, Repr, Inhabited

/-- The errors of an enum. -/
structure ErrorContract where
  enumName : String
  values : List ErrorDescriptor
  deriving DecidableEq, Repr, Inhabited

namespace ErrorContract

/-- The operations that every contract offers. -/
def operations : List ContractOperation :=
  [⟨"join", ["causes..."], false⟩,
    ⟨"join_with_message", ["message", "causes..."], true⟩,
    ⟨"is", ["target"], false⟩]

/-- The descriptor of a name. -/
def value? (c : ErrorContract) (name : String) : Option ErrorDescriptor :=
  c.values.find? (·.name == name)

/-- The status of a value and where it comes from: the value, its enum, or the fallback. -/
def statusOf (e : Enum) (v : EnumValue) (fallback : Nat) : Nat × StatusSource :=
  match v.status, e.defaultStatus with
  | some s, _ => (s, .value)
  | none, some s => (s, .enum)
  | none, none => (fallback, .fallback)

/-- The reason of a value: its own if it is not empty, else its name. -/
def reasonOf (v : EnumValue) : String :=
  match v.reason with
  | some r => if r.isEmpty then v.name else r
  | none => v.name

/-- What the errors of a value say. -/
def describe (e : Enum) (fallback : Nat) (v : EnumValue) : ErrorDescriptor :=
  let (status, source) := statusOf e v fallback
  { enumName := e.name
    name := v.name
    code := v.number
    status
    reason := reasonOf v
    message := v.message.getD ""
    statusSource := source }

/-- The contract of an enum. -/
def ofEnum (e : Enum) (fallback : Nat) : Except Issue ErrorContract :=
  match repeats (·.number) e.values with
  | (v, first) :: _ =>
    .error ⟨(Place.enum e.name).inside .value v.name, .codeTaken v.number.toInt first.name⟩
  | [] => .ok ⟨e.name, e.values.map (describe e fallback)⟩

/-- An attempt at the contract of each enum that describes errors. -/
def attempts (enums : List Enum) (fallback : Nat) : List (Except Issue ErrorContract) :=
  (enums.filter (·.isErrorEnum)).map (ofEnum · fallback)

/-- An issue for each value whose code an earlier value has. -/
def sharedCodes (contracts : List ErrorContract) : List Issue :=
  (repeats (·.code) (contracts.flatMap (·.values))).map fun (d, first) =>
    ⟨(Place.enum d.enumName).inside .value d.name,
      .codeTaken d.code.toInt (first.enumName ++ "." ++ first.name)⟩

end ErrorContract

end ServiceContract.Failure
