import ServiceContract.Document.Basic
import ServiceContract.Json.Reading
import ServiceContract.Noted

/-!
# Extensions

The extensions that have a meaning here, the elements each may be attached to, and how their
values are read. Extensions of other names are left alone.

* `Extension.misplaced`: the issues of extensions attached to an element that does not allow them.
* `Extension.interpret`: the value of an extension, if the element has it.
-/

namespace ServiceContract

/-- The extensions that have a meaning. -/
inductive Extension where
  | http
  | extra
  | location
  | tag
  | autoTags
  | defaultLocation
  | defaultAutoTags
  | defaultStatus
  | status
  | reason
  | message
  deriving DecidableEq, Repr, Inhabited

namespace Extension

/-- The name of an extension. -/
def name : Extension → String
  | .http => "http"
  | .extra => "extra"
  | .location => "location"
  | .tag => "tag"
  | .autoTags => "auto_tags"
  | .defaultLocation => "default_location"
  | .defaultAutoTags => "default_auto_tags"
  | .defaultStatus => "default_status"
  | .status => "status"
  | .reason => "reason"
  | .message => "message"

/-- All extensions. -/
def all : List Extension :=
  [.http, .extra, .location, .tag, .autoTags, .defaultLocation, .defaultAutoTags,
    .defaultStatus, .status, .reason, .message]

/-- The extension of a name. -/
def ofName? (name : String) : Option Extension :=
  all.find? (·.name == name)

/-- The elements that an extension may be attached to. -/
def allowedOn : Extension → List Element
  | .http | .extra => [.method]
  | .location | .tag | .autoTags => [.field]
  | .defaultLocation | .defaultAutoTags => [.message, .oneof]
  | .defaultStatus => [.enum]
  | .status | .reason | .message => [.enumValue]

/-- The issues of extensions that the element does not allow. -/
def misplaced (element : Element) (extensions : Document.Extensions) (place : Place) :
    List Issue :=
  extensions.filterMap fun (name, _) =>
    match ofName? name with
    | none => none
    | some x =>
      if x.allowedOn.contains element then none
      else some ⟨place.inside .extension name, .misplaced name element x.allowedOn⟩

/-- A value read as what an extension takes. -/
def decode {α : Type} (read : Json → Except Mismatch α) (name : String) (v : Json) :
    Except Cause α :=
  (read v).mapError (.undecodable name)

/-- A text. -/
def decodeText (name : String) (v : Json) : Except Cause String :=
  decode Json.readText name v

/-- The name of a location. -/
def decodeLocation (name : String) (v : Json) : Except Cause Location := do
  let text ← decodeText name v
  match Location.ofText? text with
  | some l => .ok l
  | none => .error (.unknownLocation text)

/-- The number that a status is given by: a number, or a text that is one. -/
def statusNumber? : Json → Option Nat
  | .number (.int (.ofNat n)) => some n
  | .text s => Text.natural? (Text.trim s.toList)
  | _ => none

/-- Whether a number is an HTTP status. -/
def isStatus (n : Nat) : Bool :=
  100 ≤ n && n ≤ 599

/-- An HTTP status. -/
def decodeStatus (_name : String) (v : Json) : Except Cause Nat :=
  match statusNumber? v with
  | some n => if isStatus n then .ok n else .error (.badStatus v)
  | none => .error (.badStatus v)

/-- The value of the extension of a name, if the element has it. -/
def interpretNamed {α : Type} (decode : String → Json → Except Cause α) (name : String)
    (extensions : Document.Extensions) (place : Place) : Noted (Option α) :=
  match Json.find? name extensions with
  | none => pure none
  | some v => .attempt (place.inside .extension name) (decode name v)

/-- The value of an extension, if the element has it. -/
def interpret {α : Type} (x : Extension) (decode : String → Json → Except Cause α)
    (extensions : Document.Extensions) (place : Place) : Noted (Option α) :=
  interpretNamed decode x.name extensions place

end Extension

end ServiceContract
