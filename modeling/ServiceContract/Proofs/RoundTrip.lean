import ServiceContract.Proofs.Arranged

/-!
# Documents written and read back

The value of a document has every field in order and nothing else. It is one of the many values
that write the document, so it is read back; all others are read as the same document, and their
unknown fields, missing parts and arrays in place of objects are gone once it is written again.

* `InOrder`: entries that write parts in order, and nothing else.
* `writtenAs_toJson`: the value of a document writes it.
* `documents_roundTrip`: what is written is read back, and what is read is written so.
-/

namespace ServiceContract

/-- **Entries that write parts in order**, each at most once, and nothing else. -/
inductive InOrder : List Part → List (String × Json) → Prop
  | nil : InOrder [] []
  | leave {p : Part} {parts : List Part} {entries : List (String × Json)} :
      p.omissible → InOrder parts entries → InOrder (p :: parts) entries
  | write {p : Part} {parts : List Part} {entries : List (String × Json)} {v : Json} :
      p.writes v → InOrder parts entries → InOrder (p :: parts) ((p.key, v) :: entries)

variable {parts : List Part} {entries : List (String × Json)} {key : String}

theorem InOrder.valuesAt_eq_nil (h : InOrder parts entries) (hkey : key ∉ parts.map (·.key)) :
    valuesAt key entries = [] := by
  induction h with
  | nil => rfl
  | leave _ _ ih => exact ih (List.not_mem_of_not_mem_cons hkey)
  | write _ _ ih =>
    rw [valuesAt_cons_of_ne (Ne.symm (List.ne_of_not_mem_cons hkey))]
    exact ih (List.not_mem_of_not_mem_cons hkey)

/-- An object of such entries writes the parts. -/
theorem InOrder.written (h : InOrder parts entries) (hkeys : (parts.map (·.key)).Nodup) :
    Written parts (.object entries) := by
  rw [written_object_iff]
  induction h with
  | nil => exact fun p hp => absurd hp List.not_mem_nil
  | @leave p parts entries hp horder ih =>
    rw [List.map_cons, List.nodup_cons] at hkeys
    refine List.forall_mem_cons.2 ⟨.inl ⟨horder.valuesAt_eq_nil hkeys.1, hp⟩, ih hkeys.2⟩
  | @write p parts entries v hp horder ih =>
    rw [List.map_cons, List.nodup_cons] at hkeys
    refine List.forall_mem_cons.2 ⟨.inr ⟨v, ?_, hp⟩, fun q hq => ?_⟩
    · rw [valuesAt_cons_self, horder.valuesAt_eq_nil hkeys.1]
    · have hne : p.key ≠ q.key := fun heq => hkeys.1 (heq ▸ List.mem_map_of_mem hq)
      rw [valuesAt_cons_of_ne hne]
      exact ih hkeys.2 q hq

namespace Document

/-- An optional text is written if it is there, and otherwise left out. -/
theorem inOrder_optional (h : InOrder parts entries) (key : String) (s : Option String) :
    InOrder (.optional key s :: parts) (optionalEntry key s ++ entries) := by
  cases s with
  | none => exact .leave rfl h
  | some s => exact .write rfl h

theorem writtenList_listToJson {α : Type} {writes : α → Json → Prop} {f : α → Json} {as : List α}
    (h : ∀ a ∈ as, writes a (f a)) : WrittenList writes as (listToJson f as) :=
  ⟨_, rfl, List.forall₂_map_right_iff.2 (List.forall₂_same.2 h)⟩

/-! ## Maps of extensions -/

/-- The maps of extensions in a service. -/
def Service.extensionMaps (s : Service) : List Extensions :=
  s.extensions :: s.methods.map (·.extensions)

/-- The maps of extensions in a message. -/
def Message.extensionMaps (m : Message) : List Extensions :=
  m.extensions :: (m.oneofs.map (·.extensions) ++ m.fields.map (·.extensions))

/-- The maps of extensions in an enum. -/
def Enum.extensionMaps (e : Enum) : List Extensions :=
  e.extensions :: e.values.map (·.extensions)

/-- The maps of extensions in a document. -/
def extensionMaps (d : Document) : List Extensions :=
  d.services.flatMap (·.extensionMaps) ++ d.messages.flatMap (·.extensionMaps) ++
    d.enums.flatMap (·.extensionMaps)

/-- **Every map of extensions is in order of keys**, and so are the objects in it. -/
def Ordered (d : Document) : Prop := ∀ e ∈ d.extensionMaps, Json.arrange e = e

instance (d : Document) : Decidable d.Ordered :=
  inferInstanceAs (Decidable (∀ e ∈ d.extensionMaps, Json.arrange e = e))

/-! ## The value of a document -/

variable {keep : Extensions → Extensions}

theorem writes_extensions {e : Extensions} (h : keep e = e) :
    (Part.extensions keep e).writes (.object e) := ⟨e, rfl, h⟩

theorem Method.writtenAs_toJson {m : Method} (h : keep m.extensions = m.extensions) :
    m.WrittenAs keep m.toJson := by
  have horder : InOrder (m.parts keep) _ :=
    .write rfl <| .write rfl <| .write rfl <| .write (writes_extensions h) .nil
  exact horder.written (by simp [parts, Part.text, Part.extensions])

theorem Service.writtenAs_toJson {s : Service} (h : ∀ e ∈ s.extensionMaps, keep e = e) :
    s.WrittenAs keep s.toJson := by
  obtain ⟨hown, hmethods⟩ := List.forall_mem_cons.1 h
  have hlist := writtenList_listToJson fun m hm =>
    Method.writtenAs_toJson (List.forall_mem_map.1 hmethods m hm)
  have horder : InOrder (s.parts keep) _ :=
    .write rfl <| .write (writes_extensions hown) <| .write hlist .nil
  exact horder.written (by simp [parts, Part.text, Part.extensions, Part.list])

theorem Oneof.writtenAs_toJson {o : Oneof} (h : keep o.extensions = o.extensions) :
    o.WrittenAs keep o.toJson := by
  have horder : InOrder (o.parts keep) _ := .write rfl <| .write (writes_extensions h) .nil
  exact horder.written (by simp [parts, Part.text, Part.extensions])

theorem Field.writtenAs_toJson {f : Field} (h : keep f.extensions = f.extensions) :
    f.WrittenAs keep f.toJson := by
  have horder : InOrder (f.parts keep) _ :=
    .write rfl <| .write rfl <|
      inOrder_optional (inOrder_optional (inOrder_optional (inOrder_optional (inOrder_optional
        (.write (writes_extensions h) .nil) _ _) _ _) _ _) _ _) _ _
  have hwritten := horder.written
    (by simp [parts, Part.text, Part.number, Part.optional, Part.extensions])
  unfold toJson
  simp only [List.append_assoc, List.cons_append, List.nil_append]
  exact hwritten

theorem Message.writtenAs_toJson {m : Message} (h : ∀ e ∈ m.extensionMaps, keep e = e) :
    m.WrittenAs keep m.toJson := by
  obtain ⟨hown, hrest⟩ := List.forall_mem_cons.1 h
  obtain ⟨honeofs, hfields⟩ := List.forall_mem_append.1 hrest
  have hoList := writtenList_listToJson fun o ho =>
    Oneof.writtenAs_toJson (List.forall_mem_map.1 honeofs o ho)
  have hfList := writtenList_listToJson fun f hf =>
    Field.writtenAs_toJson (List.forall_mem_map.1 hfields f hf)
  have horder : InOrder (m.parts keep) _ :=
    .write rfl <| .write (writes_extensions hown) <| .write hoList <| .write hfList .nil
  exact horder.written (by simp [parts, Part.text, Part.extensions, Part.list])

theorem EnumValue.writtenAs_toJson {x : EnumValue} (h : keep x.extensions = x.extensions) :
    x.WrittenAs keep x.toJson := by
  have horder : InOrder (x.parts keep) _ :=
    .write rfl <| .write rfl <| .write (writes_extensions h) .nil
  exact horder.written (by simp [parts, Part.text, Part.number, Part.extensions])

theorem Enum.writtenAs_toJson {e : Enum} (h : ∀ x ∈ e.extensionMaps, keep x = x) :
    e.WrittenAs keep e.toJson := by
  obtain ⟨hown, hvalues⟩ := List.forall_mem_cons.1 h
  have hlist := writtenList_listToJson fun x hx =>
    EnumValue.writtenAs_toJson (List.forall_mem_map.1 hvalues x hx)
  have horder : InOrder (e.parts keep) _ :=
    .write rfl <| .write (writes_extensions hown) <| .write hlist .nil
  exact horder.written (by simp [parts, Part.text, Part.extensions, Part.list])

/-- **The value of a document writes it**, if nothing of its maps of extensions is lost. -/
theorem writtenAs_toJson {d : Document} (h : ∀ e ∈ d.extensionMaps, keep e = e) :
    d.WrittenAs keep d.toJson := by
  obtain ⟨hfirst, henums⟩ := List.forall_mem_append.1 h
  obtain ⟨hservices, hmessages⟩ := List.forall_mem_append.1 hfirst
  have hsList := writtenList_listToJson fun s hs => Service.writtenAs_toJson fun e he =>
    hservices e (List.mem_flatMap.2 ⟨s, hs, he⟩)
  have hmList := writtenList_listToJson fun m hm => Message.writtenAs_toJson fun e he =>
    hmessages e (List.mem_flatMap.2 ⟨m, hm, he⟩)
  have heList := writtenList_listToJson fun x hx => Enum.writtenAs_toJson fun e he =>
    henums e (List.mem_flatMap.2 ⟨x, hx, he⟩)
  have horder : InOrder (d.parts keep) _ :=
    .write rfl <| .write hsList <| .write hmList <| .write heList .nil
  exact horder.written (by simp [parts, Part.list])

theorem ofJson_toJson (d : Document) : ofJson d.toJson = .ok d :=
  ofJson_eq_ok_iff.2 (writtenAs_toJson fun _ _ => rfl)

theorem ofJson_arranged_toJson {d : Document} (h : d.Ordered) : ofJson d.toJson.arranged = .ok d :=
  ofJson_eq_ok_iff.2 (writtenAs_toJson h).arranged

/-- **Documents are read back.** Every document is read from its value, as it is written and in
order of keys. So is whatever was read from another value, and the values that are read as a
document are those that write it. A text is read as the value in it is. -/
theorem documents_roundTrip :
    (∀ d : Document, ofJson d.toJson = .ok d) ∧
    (∀ d : Document, d.Ordered → ofJson d.toJson.arranged = .ok d) ∧
    (∀ (v : Json) (d : Document), ofJson v = .ok d → ofJson d.toJson = .ok d) ∧
    (∀ (v : Json) (d : Document), ofJson v = .ok d ↔ d.WrittenAs id v) ∧
    (∀ (text : String) (v : Json) (d : Document), Json.ofText text = .ok v →
      ofJsonText text = .ok d → ofJson v = .ok d) := by
  refine ⟨ofJson_toJson, fun d h => ofJson_arranged_toJson h, ?_, ?_, ?_⟩
  · intro v d _
    exact ofJson_toJson d
  · intro v d
    exact ofJson_eq_ok_iff
  · intro text v d hv hd
    exact ofJson_of_ofJsonText hv hd

/-- A document with fields of every kind. -/
def shelves : Document where
  services := [{ name := "Shelves", methods := [⟨"Get", "Shelf", "Shelf", []⟩] }]
  messages := [{
    name := "Shelf"
    fields := [{
      name := "id", number := 4294967295, label := some "repeated"
      extensions := [("location", .text "body"),
        ("tag", .object [("a", .null), ("b", .bool true)])] }] }]
  enums := [{ name := "Size", values := [⟨"TINY", -2147483648, []⟩] }]

/-- The same document with an unknown field, arrays in place of objects, a null, and parts left
out. -/
def looseShelves : Json :=
  .object [("syntax", .text "proto3"),
    ("enums", .array [.array [.text "Size", .object [],
      .array [.object [("number", .number (.int (-2147483648))), ("name", .text "TINY")]]]]),
    ("messages", .array [.object [("fields", .array [.object [("name", .text "id"),
      ("label", .text "repeated"), ("type", .null), ("number", .number (.int 4294967295)),
      ("extensions", .object [("location", .text "body"),
        ("tag", .object [("a", .null), ("b", .bool true)])])]]), ("name", .text "Shelf")]]),
    ("services", .array [.array [.text "Shelves", .object [],
      .array [.array [.text "Get", .text "Shelf", .text "Shelf"]]]])]

/-- The theorem at a document, at a value that writes it loosely, and at a text. -/
theorem documents_roundTrip_shelves :
    ofJson looseShelves = .ok shelves ∧ looseShelves ≠ shelves.toJson ∧
    ofJson shelves.toJson = .ok shelves ∧ shelves.Ordered ∧
    ofJson shelves.toJson.arranged = .ok shelves ∧
    ofJsonText "[\"p\"]" = .ok { package := "p" } ∧
    ofJson (.array [.text "p"]) = .ok { package := "p" } := by
  obtain ⟨-, harranged, hread, -, htext⟩ := documents_roundTrip
  have hloose : ofJson looseShelves = .ok shelves := by rfl
  have hordered : shelves.Ordered := by decide
  have hp : ofJsonText "[\"p\"]" = .ok { package := "p" } := by decide +kernel
  exact ⟨hloose, by decide, hread _ _ hloose, hordered, harranged _ hordered, hp,
    htext "[\"p\"]" _ _ (by decide +kernel) hp⟩

end Document

end ServiceContract
