import Mathlib.Data.List.Forall2
import ServiceContract.Document.Encoding
import ServiceContract.Document.Reading
import ServiceContract.Proofs.Members

/-!
# Values that write a document

A value writes a record by its parts: as an object, where each part stands under its key, or as an
array, where they stand in order. Some parts may be left out, and in an object there may be others.
A document can be written in many ways; each is read as that document.

* `Written`: the values that write the parts of a record.
* `Reader.ReadsJson`: what a format offers if it is one of JSON values.
* `Document.WrittenAs`: the values that write a document.
* `read_eq_ok_iff`: such a format reads a document from exactly the values that write it.
-/

namespace ServiceContract

/-- A part of a record: its key, the values that write it, and when it may be left out. -/
structure Part where
  key : String
  writes : Json → Prop
  omissible : Prop

/-- A list writes parts in order; some may be left out at its end. -/
def WrittenItems : List Part → List Json → Prop
  | [], [] => True
  | [], _ :: _ => False
  | p :: parts, [] => p.omissible ∧ WrittenItems parts []
  | p :: parts, v :: items => p.writes v ∧ WrittenItems parts items

/-- **A value that writes the parts of a record.** In an object each part has one value under its
key, or none if it may be left out, whatever else is there. -/
def Written (parts : List Part) : Json → Prop
  | .object entries => ∀ p ∈ parts,
      (valuesAt p.key entries = [] ∧ p.omissible) ∨
        ∃ v, valuesAt p.key entries = [v] ∧ p.writes v
  | .array items => WrittenItems parts items
  | _ => False

theorem written_object_iff {parts : List Part} {entries : List (String × Json)} :
    Written parts (.object entries) ↔ ∀ p ∈ parts,
      (valuesAt p.key entries = [] ∧ p.omissible) ∨
        ∃ v, valuesAt p.key entries = [v] ∧ p.writes v := Iff.rfl

/-- A value that writes a list. -/
def WrittenList {α : Type} (writes : α → Json → Prop) (as : List α) (v : Json) : Prop :=
  ∃ items, v = .array items ∧ List.Forall₂ writes as items

/-! ## Formats of JSON values -/

section Formats

variable {ε ν α : Type}

/-- What a member says of a record in a format that has JSON values as `embed` gives them. -/
def Member.part (p : Member ε ν α) (embed : Json → ν) (blank a : α) : Part where
  key := p.key
  writes v := p.read (embed v) = .ok (p.get a)
  omissible := p.required = false ∧ p.get a = p.get blank

/-- **A format of JSON values.** The value `v` stands in it as `embed v`, and of a map of untyped
values `keep` is what it reads. -/
structure Reader.ReadsJson (r : Reader (Except ε) ν) (embed : Json → ν)
    (keep : Document.Extensions → Document.Extensions) : Prop where
  text : ∀ v s, r.text (embed v) = .ok s ↔ v = .text s
  optionalText : ∀ v s, r.optionalText (embed v) = .ok s ↔ v = Json.ofText? s
  natural32 : ∀ v n, r.natural32 (embed v) = .ok n ↔ v = .number (.int n.toNat)
  integer32 : ∀ v n, r.integer32 (embed v) = .ok n ↔ v = .number (.int n.toInt)
  list : ∀ {α : Type} (read : ν → Except ε α) v as, r.list read (embed v) = .ok as ↔
    WrittenList (fun a v => read (embed v) = .ok a) as v
  record : ∀ {α : Type} (rec : Record (Except ε) ν α) (members : List (Member ε ν α)),
    rec.MadeOf members → ∀ v a, r.record rec (embed v) = .ok a ↔
      Written (members.map (·.part embed rec.blank a)) v
  values : ∀ v e, r.values (embed v) = .ok e ↔ ∃ entries, v = .object entries ∧ keep entries = e

variable {embed : Json → ν} {rec : Record (Except ε) ν α} {members : List (Member ε ν α)}
  {fail : {β : Type} → Mismatch → Except ε β} {blank a : α}

theorem inItems_map_iff {items : List Json} :
    Member.InItems blank a members (items.map embed) ↔
      WrittenItems (members.map (·.part embed blank a)) items := by
  induction members generalizing items with
  | nil => cases items <;> rfl
  | cons p members ih =>
    cases items with
    | nil =>
      have hrest : Member.InItems blank a members [] ↔
          WrittenItems (members.map (·.part embed blank a)) [] := @ih []
      rw [List.map_nil, Member.inItems_nil, hrest, ← and_assoc]
      rfl
    | cons v items =>
      rw [List.map_cons, Member.inItems_cons, ih]
      rfl

theorem inObject_map_iff {p : Member ε ν α} {entries : List (String × Json)} :
    p.InObject blank (entries.map fun e => (e.1, embed e.2)) a ↔
      (valuesAt p.key entries = [] ∧ (p.part embed blank a).omissible) ∨
        ∃ v, valuesAt p.key entries = [v] ∧ (p.part embed blank a).writes v := by
  unfold Member.InObject
  rw [valuesAt_map, List.map_eq_nil_iff]
  simp only [List.map_eq_singleton_iff, Member.part]
  apply or_congr_right
  constructor
  · rintro ⟨-, ⟨v, hv, rfl⟩, hread⟩
    exact ⟨v, hv, hread⟩
  · rintro ⟨v, hv, hread⟩
    exact ⟨_, ⟨v, hv, rfl⟩, hread⟩

/-- A record is read from an object exactly when this writes each member. -/
theorem Record.MadeOf.object_iff_written (h : rec.MadeOf members) (hfail : Refuses fail)
    (skip : ν → Except ε Unit) (hskip : ∀ v, skip (embed v) = .ok ())
    {entries : List (String × Json)} :
    (rec.takeIn fail skip (entries.map fun e => (e.1, embed e.2)) >>= rec.finish fail) = .ok a ↔
      Written (members.map (·.part embed rec.blank a)) (.object entries) := by
  rw [h.object_eq_ok_iff hfail (List.forall_mem_map.2 fun e _ => hskip e.2), written_object_iff,
    List.forall_mem_map]
  exact forall₂_congr fun p _ => inObject_map_iff

/-- A record is read from an array exactly when this writes the members in order. -/
theorem Record.MadeOf.array_iff_written (h : rec.MadeOf members) (hfail : Refuses fail)
    {ended : Except ε Unit} (hended : ended = .ok ()) {items : List Json} :
    rec.fillItems fail ended 0 rec.slots (items.map embed) rec.blank = .ok (a, []) ↔
      Written (members.map (·.part embed rec.blank a)) (.array items) := by
  rw [h.items_eq_ok_iff hfail hended]
  exact inItems_map_iff

end Formats

/-! ## JSON values themselves -/

namespace Json

theorem readText_eq_ok_iff {v : Json} {s : String} : readText v = .ok s ↔ v = .text s := by
  cases v <;> simp [readText, wrongType, refuse]

theorem readInt_eq_ok_iff {lo hi n : Int} {expected : String} {v : Json} :
    readInt lo hi expected v = .ok n ↔ v = .number (.int n) ∧ lo ≤ n ∧ n ≤ hi := by
  unfold readInt
  split
  · next k =>
    simp only [Bool.and_eq_true, decide_eq_true_eq, Json.number.injEq, Number.int.injEq]
    split_ifs with hrange
    · rw [Except.ok.injEq]
      exact ⟨fun h => ⟨h, h ▸ hrange⟩, And.left⟩
    · simp only [refuse, reduceCtorEq, false_iff]
      rintro ⟨rfl, h⟩
      exact hrange h
  · next hnot =>
    simp only [wrongType, refuse, reduceCtorEq, false_iff]
    exact fun h => hnot n h.1

/-- The whole numbers of 32 bits without a sign. -/
theorem exists_natural32_iff {v : Json} {n : UInt32} :
    (∃ k : Int, (v = .number (.int k) ∧ 0 ≤ k ∧ k ≤ Int.pow 2 32 - 1) ∧ UInt32.ofNat k.toNat = n) ↔
      v = .number (.int n.toNat) := by
  have hmax : (Int.pow 2 32 - 1 : Int) = 4294967295 := by decide
  rw [hmax]
  constructor
  · rintro ⟨k, ⟨rfl, hlo, hhi⟩, rfl⟩
    have hsize : k.toNat < UInt32.size := by
      simp only [UInt32.size]
      omega
    rw [UInt32.toNat_ofNat_of_lt' hsize, Int.toNat_of_nonneg hlo]
  · rintro rfl
    have hlt := n.toNat_lt
    refine ⟨n.toNat, ⟨rfl, by omega, by omega⟩, ?_⟩
    rw [Int.toNat_natCast, UInt32.ofNat_toNat]

/-- The whole numbers of 32 bits with a sign. -/
theorem exists_integer32_iff {v : Json} {n : Int32} :
    (∃ k : Int, (v = .number (.int k) ∧ -Int.pow 2 31 ≤ k ∧ k ≤ Int.pow 2 31 - 1) ∧
      Int32.ofInt k = n) ↔ v = .number (.int n.toInt) := by
  have hpow : (Int.pow 2 31 : Int) = 2147483648 := by decide
  rw [hpow]
  constructor
  · rintro ⟨k, ⟨rfl, hlo, hhi⟩, rfl⟩
    rw [Int32.toInt_ofInt_of_le (by omega) (by omega)]
  · rintro rfl
    have hlo := n.le_toInt
    have hhi := n.toInt_lt
    exact ⟨n.toInt, ⟨rfl, by omega, by omega⟩, Int32.ofInt_toInt n⟩

theorem refuses_refuse : Refuses (@refuse) := by
  intro β m y h
  cases h

theorem readList_eq_ok_iff {α : Type} {read : Json → Except Mismatch α} {v : Json} {as : List α} :
    readList read v = .ok as ↔ WrittenList (fun a v => read v = .ok a) as v := by
  unfold readList WrittenList
  split
  · next items =>
    simp only [mapM_eq_ok_iff, Json.array.injEq, exists_eq_left']
    exact ⟨List.Forall₂.flip, List.Forall₂.flip⟩
  · next hnot =>
    simp only [wrongType, refuse, reduceCtorEq, false_iff, not_exists, not_and]
    exact fun items h => absurd h (hnot items)

/-- A record is read from the values that write its members. -/
theorem readRecord_eq_ok_iff {α : Type} {rec : Record (Except Mismatch) Json α}
    {members : List (Member Mismatch Json α)} (h : rec.MadeOf members) {v : Json} {a : α} :
    readRecord rec v = .ok a ↔ Written (members.map (·.part id rec.blank a)) v := by
  cases v with
  | object entries =>
    have hsame : (entries.map fun e => (e.1, id e.2)) = entries := List.map_id _
    rw [← h.object_iff_written refuses_refuse (fun _ => .ok ()) (fun _ => rfl), hsame]
    rfl
  | array items =>
    rw [← h.array_iff_written refuses_refuse rfl, List.map_id]
    unfold readRecord
    rw [bind_eq_ok]
    constructor
    · rintro ⟨⟨b, left⟩, hfill, hok⟩
      -- values left over are refused
      cases left with
      | nil =>
        obtain rfl : b = a := Except.ok.inj hok
        exact hfill
      | cons x left => cases hok
    · intro hfill
      exact ⟨_, hfill, rfl⟩
  | _ => simp [readRecord, wrongType, refuse, Written]

/-- **JSON values are a format of themselves.** -/
theorem readsJson_reader : Json.reader.ReadsJson id id where
  text v s := readText_eq_ok_iff
  optionalText v s := by
    cases s <;> cases v <;> simp [reader, readOptional, readText, wrongType, refuse, ofText?, bind,
      Except.bind, pure, Except.pure]
  natural32 v n := by
    rw [← exists_natural32_iff]
    simp only [reader, readNatural32, bind_eq_ok, id, readInt_eq_ok_iff, pure, Except.pure,
      Except.ok.injEq]
  integer32 v n := by
    rw [← exists_integer32_iff]
    simp only [reader, readInteger32, bind_eq_ok, id, readInt_eq_ok_iff, pure, Except.pure,
      Except.ok.injEq]
  list read v as := readList_eq_ok_iff
  record rec members h v a := readRecord_eq_ok_iff h
  values v e := by
    cases v <;> simp [reader, readEntries, wrongType, refuse]

end Json

/-! ## Parts of documents -/

namespace Part

/-- A text that must be present. -/
def text (key s : String) : Part := ⟨key, (· = .text s), False⟩

/-- A text that may be left out, or be null. -/
def optional (key : String) (s : Option String) : Part := ⟨key, (· = Json.ofText? s), s = none⟩

/-- A whole number that must be present. -/
def number (key : String) (n : Int) : Part := ⟨key, (· = .number (.int n)), False⟩

/-- A list that may be left out. -/
def list {α : Type} (key : String) (writes : α → Json → Prop) (as : List α) : Part :=
  ⟨key, WrittenList writes as, as = []⟩

/-- A map of extensions, which may be left out. -/
def extensions (keep : Document.Extensions → Document.Extensions) (e : Document.Extensions) :
    Part :=
  ⟨"extensions", fun v => ∃ entries, v = .object entries ∧ keep entries = e, e = []⟩

end Part

namespace Document

variable (keep : Extensions → Extensions)

/-- The parts of a method. -/
def Method.parts (m : Method) : List Part :=
  [.text "name" m.name, .text "input_type" m.inputType, .text "output_type" m.outputType,
    .extensions keep m.extensions]

/-- A value that writes a method. -/
def Method.WrittenAs (m : Method) (v : Json) : Prop := Written (m.parts keep) v

/-- The parts of a service. -/
def Service.parts (s : Service) : List Part :=
  [.text "name" s.name, .extensions keep s.extensions,
    .list "methods" (Method.WrittenAs keep) s.methods]

/-- A value that writes a service. -/
def Service.WrittenAs (s : Service) (v : Json) : Prop := Written (s.parts keep) v

/-- The parts of a group of fields. -/
def Oneof.parts (o : Oneof) : List Part :=
  [.text "name" o.name, .extensions keep o.extensions]

/-- A value that writes a group of fields. -/
def Oneof.WrittenAs (o : Oneof) (v : Json) : Prop := Written (o.parts keep) v

/-- The parts of a field. -/
def Field.parts (f : Field) : List Part :=
  [.text "name" f.name, .number "number" f.number.toNat, .optional "type" f.scalar,
    .optional "type_name" f.typeName, .optional "label" f.label, .optional "json_name" f.jsonName,
    .optional "oneof" f.oneof, .extensions keep f.extensions]

/-- A value that writes a field. -/
def Field.WrittenAs (f : Field) (v : Json) : Prop := Written (f.parts keep) v

/-- The parts of a message. -/
def Message.parts (m : Message) : List Part :=
  [.text "name" m.name, .extensions keep m.extensions,
    .list "oneofs" (Oneof.WrittenAs keep) m.oneofs, .list "fields" (Field.WrittenAs keep) m.fields]

/-- A value that writes a message. -/
def Message.WrittenAs (m : Message) (v : Json) : Prop := Written (m.parts keep) v

/-- The parts of a value of an enum. -/
def EnumValue.parts (x : EnumValue) : List Part :=
  [.text "name" x.name, .number "number" x.number.toInt, .extensions keep x.extensions]

/-- A value that writes a value of an enum. -/
def EnumValue.WrittenAs (x : EnumValue) (v : Json) : Prop := Written (x.parts keep) v

/-- The parts of an enum. -/
def Enum.parts (e : Enum) : List Part :=
  [.text "name" e.name, .extensions keep e.extensions,
    .list "values" (EnumValue.WrittenAs keep) e.values]

/-- A value that writes an enum. -/
def Enum.WrittenAs (e : Enum) (v : Json) : Prop := Written (e.parts keep) v

/-- The parts of a document. -/
def parts (d : Document) : List Part :=
  [⟨"package", (· = .text d.package), d.package = ""⟩,
    .list "services" (Service.WrittenAs keep) d.services,
    .list "messages" (Message.WrittenAs keep) d.messages,
    .list "enums" (Enum.WrittenAs keep) d.enums]

/-- **A value that writes a document**, where `keep` is what is kept of a map of extensions. -/
def WrittenAs (d : Document) (v : Json) : Prop := Written (d.parts keep) v

/-! ## Reading documents -/

section Reading

variable {ε ν : Type} (r : Reader (Except ε) ν)

/-- The members of a method. -/
@[simp] def Method.members : List (Member ε ν Method) :=
  [⟨"name", true, r.text, (·.name), fun a s => { a with name := s }⟩,
    ⟨"input_type", true, r.text, (·.inputType), fun a s => { a with inputType := s }⟩,
    ⟨"output_type", true, r.text, (·.outputType), fun a s => { a with outputType := s }⟩,
    ⟨"extensions", false, r.values, (·.extensions), fun a e => { a with extensions := e }⟩]

/-- The members of a service. -/
@[simp] def Service.members : List (Member ε ν Service) :=
  [⟨"name", true, r.text, (·.name), fun a s => { a with name := s }⟩,
    ⟨"extensions", false, r.values, (·.extensions), fun a e => { a with extensions := e }⟩,
    ⟨"methods", false, r.list (r.record (Method.record r)), (·.methods),
      fun a x => { a with methods := x }⟩]

/-- The members of a group of fields. -/
@[simp] def Oneof.members : List (Member ε ν Oneof) :=
  [⟨"name", true, r.text, (·.name), fun a s => { a with name := s }⟩,
    ⟨"extensions", false, r.values, (·.extensions), fun a e => { a with extensions := e }⟩]

/-- The members of a field. -/
@[simp] def Field.members : List (Member ε ν Field) :=
  [⟨"name", true, r.text, (·.name), fun a s => { a with name := s }⟩,
    ⟨"number", true, r.natural32, (·.number), fun a n => { a with number := n }⟩,
    ⟨"type", false, r.optionalText, (·.scalar), fun a s => { a with scalar := s }⟩,
    ⟨"type_name", false, r.optionalText, (·.typeName), fun a s => { a with typeName := s }⟩,
    ⟨"label", false, r.optionalText, (·.label), fun a s => { a with label := s }⟩,
    ⟨"json_name", false, r.optionalText, (·.jsonName), fun a s => { a with jsonName := s }⟩,
    ⟨"oneof", false, r.optionalText, (·.oneof), fun a s => { a with oneof := s }⟩,
    ⟨"extensions", false, r.values, (·.extensions), fun a e => { a with extensions := e }⟩]

/-- The members of a message. -/
@[simp] def Message.members : List (Member ε ν Message) :=
  [⟨"name", true, r.text, (·.name), fun a s => { a with name := s }⟩,
    ⟨"extensions", false, r.values, (·.extensions), fun a e => { a with extensions := e }⟩,
    ⟨"oneofs", false, r.list (r.record (Oneof.record r)), (·.oneofs),
      fun a x => { a with oneofs := x }⟩,
    ⟨"fields", false, r.list (r.record (Field.record r)), (·.fields),
      fun a x => { a with fields := x }⟩]

/-- The members of a value of an enum. -/
@[simp] def EnumValue.members : List (Member ε ν EnumValue) :=
  [⟨"name", true, r.text, (·.name), fun a s => { a with name := s }⟩,
    ⟨"number", true, r.integer32, (·.number), fun a n => { a with number := n }⟩,
    ⟨"extensions", false, r.values, (·.extensions), fun a e => { a with extensions := e }⟩]

/-- The members of an enum. -/
@[simp] def Enum.members : List (Member ε ν Enum) :=
  [⟨"name", true, r.text, (·.name), fun a s => { a with name := s }⟩,
    ⟨"extensions", false, r.values, (·.extensions), fun a e => { a with extensions := e }⟩,
    ⟨"values", false, r.list (r.record (EnumValue.record r)), (·.values),
      fun a x => { a with values := x }⟩]

/-- The members of a document. -/
@[simp] def members : List (Member ε ν Document) :=
  [⟨"package", false, r.text, (·.package), fun a s => { a with package := s }⟩,
    ⟨"services", false, r.list (r.record (Service.record r)), (·.services),
      fun a x => { a with services := x }⟩,
    ⟨"messages", false, r.list (r.record (Message.record r)), (·.messages),
      fun a x => { a with messages := x }⟩,
    ⟨"enums", false, r.list (r.record (Enum.record r)), (·.enums),
      fun a x => { a with enums := x }⟩]

theorem Method.madeOf : (Method.record r).MadeOf (Method.members r) := {}

theorem Service.madeOf : (Service.record r).MadeOf (Service.members r) := {}

theorem Oneof.madeOf : (Oneof.record r).MadeOf (Oneof.members r) := {}

theorem Field.madeOf : (Field.record r).MadeOf (Field.members r) := {}

theorem Message.madeOf : (Message.record r).MadeOf (Message.members r) := {}

theorem EnumValue.madeOf : (EnumValue.record r).MadeOf (EnumValue.members r) := {}

theorem Enum.madeOf : (Enum.record r).MadeOf (Enum.members r) := {}

theorem madeOf : (record r).MadeOf (members r) := {}

variable {keep} {r} {embed : Json → ν} (hr : r.ReadsJson embed keep) {v : Json}

include hr

theorem Method.read_eq_ok_iff {m : Method} :
    r.record (Method.record r) (embed v) = .ok m ↔ m.WrittenAs keep v := by
  rw [hr.record _ _ (Method.madeOf r)]
  simp [WrittenAs, parts, Member.part, Part.text, Part.extensions, hr.text, hr.values,
    Method.record]

theorem Service.read_eq_ok_iff {s : Service} :
    r.record (Service.record r) (embed v) = .ok s ↔ s.WrittenAs keep v := by
  rw [hr.record _ _ (Service.madeOf r)]
  simp [WrittenAs, parts, Member.part, Part.text, Part.extensions, Part.list, hr.text, hr.values,
    hr.list, Method.read_eq_ok_iff hr, Service.record]

theorem Oneof.read_eq_ok_iff {o : Oneof} :
    r.record (Oneof.record r) (embed v) = .ok o ↔ o.WrittenAs keep v := by
  rw [hr.record _ _ (Oneof.madeOf r)]
  simp [WrittenAs, parts, Member.part, Part.text, Part.extensions, hr.text, hr.values, Oneof.record]

theorem Field.read_eq_ok_iff {f : Field} :
    r.record (Field.record r) (embed v) = .ok f ↔ f.WrittenAs keep v := by
  rw [hr.record _ _ (Field.madeOf r)]
  simp [WrittenAs, parts, Member.part, Part.text, Part.extensions, Part.number, Part.optional,
    hr.text, hr.values, hr.natural32, hr.optionalText, Field.record]

theorem Message.read_eq_ok_iff {m : Message} :
    r.record (Message.record r) (embed v) = .ok m ↔ m.WrittenAs keep v := by
  rw [hr.record _ _ (Message.madeOf r)]
  simp [WrittenAs, parts, Member.part, Part.text, Part.extensions, Part.list, hr.text, hr.values,
    hr.list, Oneof.read_eq_ok_iff hr, Field.read_eq_ok_iff hr, Message.record]

theorem EnumValue.read_eq_ok_iff {x : EnumValue} :
    r.record (EnumValue.record r) (embed v) = .ok x ↔ x.WrittenAs keep v := by
  rw [hr.record _ _ (EnumValue.madeOf r)]
  simp [WrittenAs, parts, Member.part, Part.text, Part.extensions, Part.number, hr.text, hr.values,
    hr.integer32, EnumValue.record]

theorem Enum.read_eq_ok_iff {e : Enum} :
    r.record (Enum.record r) (embed v) = .ok e ↔ e.WrittenAs keep v := by
  rw [hr.record _ _ (Enum.madeOf r)]
  simp [WrittenAs, parts, Member.part, Part.text, Part.extensions, Part.list, hr.text, hr.values,
    hr.list, EnumValue.read_eq_ok_iff hr, Enum.record]

/-- **A document is read from exactly the values that write it.** -/
theorem read_eq_ok_iff {d : Document} : read r (embed v) = .ok d ↔ d.WrittenAs keep v := by
  unfold read
  rw [hr.record _ _ (madeOf r)]
  simp [WrittenAs, parts, Member.part, Part.list, hr.text, hr.list, Service.read_eq_ok_iff hr,
    Message.read_eq_ok_iff hr, Enum.read_eq_ok_iff hr, record]

end Reading

theorem ofJson_eq_ok_iff {v : Json} {d : Document} : ofJson v = .ok d ↔ d.WrittenAs id v :=
  read_eq_ok_iff Json.readsJson_reader

end Document

end ServiceContract
