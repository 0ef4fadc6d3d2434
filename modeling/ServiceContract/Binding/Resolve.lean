import ServiceContract.Binding.Tag
import ServiceContract.Schema.Basic

/-!
# Field bindings

Each field of a request is bound to a location. A field that the path fills is bound to the path.
Any other field takes the first location that is given: by itself, by its group, by its message,
or by the HTTP mapping. Its tags are, in order: the wire name under `json` for a body field, the
tags that the field sets for itself or else the tag of its location, and the further tags given
by the field, its group or its message. No key may occur twice.

* `resolveField`: the binding of a field.
* `resolveMessage`: the bindings of all fields of a message.
-/

namespace ServiceContract.Binding

open Schema

/-- What decided the location of a field. -/
inductive LocationSource where
  | path
  | field
  | oneof
  | message
  | methodDefault
  deriving DecidableEq, Repr, Inhabited

/-- The name of a source. -/
def LocationSource.label : LocationSource → String
  | .path => "path"
  | .field => "field"
  | .oneof => "oneof"
  | .message => "message"
  | .methodDefault => "method_default"

/-- Where a field of a request is found and how it is tagged. -/
structure FieldBinding where
  field : String
  wireName : String
  number : UInt32
  location : Location
  source : LocationSource
  tags : TagSet
  kind : FieldKind
  repeated : Bool
  deriving DecidableEq, Repr, Inhabited

/-- The tags of a binding as they are written. -/
def FieldBinding.tagString (b : FieldBinding) : String :=
  b.tags.render

/-- What a request offers: its body and the fields that its path fills. -/
structure Context where
  body : BodySelector
  pathFields : List String
  deriving DecidableEq, Repr

/-- Why a field cannot be bound. -/
inductive BindingFault where
  | conflicting (location : Location)
  | bodyFromPath
  | repeatedTagKey (key : String)
  | malformedTag (fault : FragmentFault)
  deriving DecidableEq, Repr

/-- A field that cannot be bound, and why. -/
structure BindingError where
  field : String
  fault : BindingFault
  deriving DecidableEq, Repr

/-- The words for a field that cannot be bound. -/
def BindingError.message (e : BindingError) : String :=
  match e.fault with
  | .conflicting location =>
    "field '" ++ e.field ++ "' is bound by the path but annotated as " ++ location.label
  | .bodyFromPath => "field '" ++ e.field ++ "' is bound by the path and also selected as the body"
  | .repeatedTagKey key =>
    "tag key '" ++ key ++ "' appears more than once on field '" ++ e.field ++ "'"
  | .malformedTag fault =>
    "malformed tag fragment on field '" ++ e.field ++ "': " ++ fault.message

/-- The location of a field for which nothing else is said. -/
def implicitLocation (body : BodySelector) (f : Field) : Location :=
  match body with
  | .entire => .body
  | .field name => if name = f.name then .body else .query
  | .none => .query

/-- The location of a field and what decided it. -/
def locate (m : Message) (f : Field) (ctx : Context) :
    Except BindingFault (Location × LocationSource) :=
  if ctx.pathFields.contains f.name then
    if ctx.body = .field f.name then .error .bodyFromPath
    else match f.location with
      | none | some .uri => .ok (.uri, .path)
      | some explicit => .error (.conflicting explicit)
  else
    let chosen :=
      (f.location.map (·, LocationSource.field)).or <|
      ((m.oneofOf? f).bind (·.defaults.location) |>.map (·, LocationSource.oneof)).or <|
      m.defaults.location.map (·, LocationSource.message)
    .ok (chosen.getD (implicitLocation ctx.body f, .methodDefault))

/-- The further tags of a field: its own, else those of its group, else those of its message. -/
def furtherTags (m : Message) (f : Field) : Option String :=
  f.autoTags.or (((m.oneofOf? f).bind (·.defaults.autoTags)).or m.defaults.autoTags)

/-- Adds tags one after the other. -/
def pushAll (s : TagSet) : List Tag → Except BindingFault TagSet
  | [] => .ok s
  | t :: ts =>
    match s.push t with
    | .ok s => pushAll s ts
    | .error t => .error (.repeatedTagKey t.key)

/-- The tags of a fragment. -/
def fragmentTags (fragment : String) : Except BindingFault (List Tag) :=
  match Tag.parseFragment fragment with
  | .ok tags => .ok tags
  | .error fault => .error (.malformedTag fault)

/-- The tags of a field at a location. -/
def buildTags (f : Field) (location : Location) (further : Option String) :
    Except BindingFault TagSet := do
  let set ← pushAll {} (if location = .body then [⟨"json", f.wireName⟩] else [])
  let set ← match f.tag with
    | some fragment => do pushAll set (← fragmentTags fragment)
    | none => pushAll set (location.tagKey?.toList.map (⟨·, f.wireName⟩))
  match further with
  | some fragment => do pushAll set (← fragmentTags fragment)
  | none => return set

/-- The binding of a field of a message. -/
def resolveField (m : Message) (f : Field) (ctx : Context) : Except BindingError FieldBinding :=
  let attempt : Except BindingFault FieldBinding := do
    let (location, source) ← locate m f ctx
    let tags ← buildTags f location (furtherTags m f)
    return ⟨f.name, f.wireName, f.number, location, source, tags, f.kind, f.repeated⟩
  match attempt with
  | .ok b => .ok b
  | .error fault => .error ⟨f.name, fault⟩

/-- The bindings of all fields of a message, or the first failure. -/
def resolveMessage (m : Message) (ctx : Context) : Except BindingError (List FieldBinding) :=
  m.fields.mapM fun f => resolveField m f ctx

end ServiceContract.Binding
