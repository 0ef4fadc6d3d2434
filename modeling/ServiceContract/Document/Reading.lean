import ServiceContract.Document.Basic
import ServiceContract.Json.DraftReading
import ServiceContract.Json.Reading

/-!
# Reading documents

The records of a document, described once for every format. Fields of other names are passed
over, lists and maps may be left out.

* `Document.ofJson`: the document in a JSON value.
* `Document.ofJsonText`: the document in a JSON text.
-/

namespace ServiceContract.Document

variable {m : Type → Type} [Monad m] {ν : Type}

/-- A field that must be present. -/
def needed {α β : Type} (key : String) (read : ν → m β) (set : α → β → α) : Slot m ν α :=
  ⟨key, true, fun v a => do return set a (← read v)⟩

/-- A field that may be left out. -/
def allowed {α β : Type} (key : String) (read : ν → m β) (set : α → β → α) : Slot m ν α :=
  ⟨key, false, fun v a => do return set a (← read v)⟩

/-- Methods. -/
def Method.record (r : Reader m ν) : Record m ν Method where
  title := "struct RawMethod"
  blank := {}
  slots := [
    needed "name" r.text fun a s => { a with name := s },
    needed "input_type" r.text fun a s => { a with inputType := s },
    needed "output_type" r.text fun a s => { a with outputType := s },
    allowed "extensions" r.values fun a e => { a with extensions := e }]

/-- Services. -/
def Service.record (r : Reader m ν) : Record m ν Service where
  title := "struct RawService"
  blank := {}
  slots := [
    needed "name" r.text fun a s => { a with name := s },
    allowed "extensions" r.values fun a e => { a with extensions := e },
    allowed "methods" (r.list (r.record (Method.record r))) fun a x => { a with methods := x }]

/-- Groups of fields. -/
def Oneof.record (r : Reader m ν) : Record m ν Oneof where
  title := "struct RawOneof"
  blank := {}
  slots := [
    needed "name" r.text fun a s => { a with name := s },
    allowed "extensions" r.values fun a e => { a with extensions := e }]

/-- Fields. -/
def Field.record (r : Reader m ν) : Record m ν Field where
  title := "struct RawField"
  blank := {}
  slots := [
    needed "name" r.text fun a s => { a with name := s },
    needed "number" r.natural32 fun a n => { a with number := n },
    allowed "type" r.optionalText fun a s => { a with scalar := s },
    allowed "type_name" r.optionalText fun a s => { a with typeName := s },
    allowed "label" r.optionalText fun a s => { a with label := s },
    allowed "json_name" r.optionalText fun a s => { a with jsonName := s },
    allowed "oneof" r.optionalText fun a s => { a with oneof := s },
    allowed "extensions" r.values fun a e => { a with extensions := e }]

/-- Messages. -/
def Message.record (r : Reader m ν) : Record m ν Message where
  title := "struct RawMessage"
  blank := {}
  slots := [
    needed "name" r.text fun a s => { a with name := s },
    allowed "extensions" r.values fun a e => { a with extensions := e },
    allowed "oneofs" (r.list (r.record (Oneof.record r))) fun a x => { a with oneofs := x },
    allowed "fields" (r.list (r.record (Field.record r))) fun a x => { a with fields := x }]

/-- Values of enums. -/
def EnumValue.record (r : Reader m ν) : Record m ν EnumValue where
  title := "struct RawEnumValue"
  blank := {}
  slots := [
    needed "name" r.text fun a s => { a with name := s },
    needed "number" r.integer32 fun a n => { a with number := n },
    allowed "extensions" r.values fun a e => { a with extensions := e }]

/-- Enums. -/
def Enum.record (r : Reader m ν) : Record m ν Enum where
  title := "struct RawEnum"
  blank := {}
  slots := [
    needed "name" r.text fun a s => { a with name := s },
    allowed "extensions" r.values fun a e => { a with extensions := e },
    allowed "values" (r.list (r.record (EnumValue.record r))) fun a x => { a with values := x }]

/-- Documents. -/
def record (r : Reader m ν) : Record m ν Document where
  title := "struct RawSchema"
  blank := {}
  slots := [
    allowed "package" r.text fun a s => { a with package := s },
    allowed "services" (r.list (r.record (Service.record r))) fun a x => { a with services := x },
    allowed "messages" (r.list (r.record (Message.record r))) fun a x => { a with messages := x },
    allowed "enums" (r.list (r.record (Enum.record r))) fun a x => { a with enums := x }]

/-- Reads a document in a format. -/
def read (r : Reader m ν) : ν → m Document :=
  r.record (record r)

/-- The document in a JSON value. -/
def ofJson : Json → Except Mismatch Document :=
  read Json.reader

/-- The document in a JSON text. -/
def ofJsonText (s : String) : Except Json.TextError Document :=
  Json.readAll (read Json.Draft.reader) s

end ServiceContract.Document
