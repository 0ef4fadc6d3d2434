import ServiceContract.Proofs.Closed
import ServiceContract.Proofs.Pointwise
import ServiceContract.Proofs.WellFormed

/-!
# Schemas as images of documents

The schema of a document has its elements one for one and in order, with what their extensions
say. `IsImage` relates an element of a document to the one of the schema.

* `isImage_loadMethod` and its like: an element that is loaded without issue gives its image.
* `load_image`: the schema of a document is its image and is closed, so that building operations
  never misses a message.
-/

namespace ServiceContract.Schema

open Document (Labels)
open Extension (SaysText SaysLocation SaysStatus carries_interpret decodes_text decodes_location
  decodes_status)

/-- The image of a method: its messages are those that its references stand for, and its HTTP rule
and its options are there as the extensions are. -/
structure Method.IsImage (n : Names) (m : Document.Method) (r : Method) : Prop where
  name : r.name = m.name
  request : n.Resolves n.messages m.inputType r.request
  response : n.Resolves n.messages m.outputType r.response
  http : Extension.http.Carries (fun v rule => ∃ h, SaysMapping v h ∧ h.Means rule) m.extensions
    r.http
  options : ∃ entries, Extension.extra.Carries SaysEntries m.extensions entries ∧
    List.Forall₂ OptionEntry.Means (entries.getD []) r.options

structure Service.IsImage (n : Names) (s : Document.Service) (r : Service) : Prop where
  name : r.name = s.name
  methods : List.Forall₂ (Method.IsImage n) s.methods r.methods

/-- Defaults, with the extensions that give them. -/
structure BindingDefaults.IsImage (xs : Document.Extensions) (r : BindingDefaults) : Prop where
  location : Extension.defaultLocation.Carries SaysLocation xs r.location
  autoTags : Extension.defaultAutoTags.Carries SaysText xs r.autoTags

structure Oneof.IsImage (o : Document.Oneof) (r : Oneof) : Prop where
  name : r.name = o.name
  defaults : r.defaults.IsImage o.extensions

/-- The image of a field: its name on the wire is the given one or else its own. -/
structure Field.IsImage (n : Names) (f : Document.Field) (r : Field) : Prop where
  name : r.name = f.name
  wireName : r.wireName = f.jsonName.getD f.name
  number : r.number = f.number
  kind : f.HasKind n r.kind
  repeated : Labels f.label r.repeated
  oneof : r.oneof = f.oneof
  location : Extension.location.Carries SaysLocation f.extensions r.location
  tag : Extension.tag.Carries SaysText f.extensions r.tag
  autoTags : Extension.autoTags.Carries SaysText f.extensions r.autoTags

structure Message.IsImage (n : Names) (m : Document.Message) (r : Message) : Prop where
  name : r.name = m.name
  fields : List.Forall₂ (Field.IsImage n) m.fields r.fields
  oneofs : List.Forall₂ Oneof.IsImage m.oneofs r.oneofs
  defaults : r.defaults.IsImage m.extensions

structure EnumValue.IsImage (v : Document.EnumValue) (r : EnumValue) : Prop where
  name : r.name = v.name
  number : r.number = v.number
  status : Extension.status.Carries SaysStatus v.extensions r.status
  reason : Extension.reason.Carries SaysText v.extensions r.reason
  message : Extension.message.Carries SaysText v.extensions r.message

structure Enum.IsImage (e : Document.Enum) (r : Enum) : Prop where
  name : r.name = e.name
  defaultStatus : Extension.defaultStatus.Carries SaysStatus e.extensions r.defaultStatus
  values : List.Forall₂ EnumValue.IsImage e.values r.values

/-- **The image of a document.** -/
structure IsImage (d : Document) (s : Schema) : Prop where
  package : s.package = d.package
  services : List.Forall₂ (Service.IsImage (Names.ofDocument d)) d.services s.services
  messages : List.Forall₂ (Message.IsImage (Names.ofDocument d)) d.messages s.messages
  enums : List.Forall₂ Enum.IsImage d.enums s.enums

variable {n : Names} {place : Place} {xs : Document.Extensions}

/-! ## Methods and services -/

theorem value_orNote {α : Type} {found : Option α} {cause : Cause} :
    (orNote found place cause).value = found := by
  cases found <;> rfl

theorem carries_http (h : (Extension.http.interpret decodeHttpRule xs place).issues = []) :
    Extension.http.Carries (fun v rule => ∃ m, SaysMapping v m ∧ m.Means rule) xs
      (Extension.http.interpret decodeHttpRule xs place).value := by
  apply (carries_interpret decodes_httpRule h).imp
  rintro v rule ⟨m, hm, hrule⟩
  exact ⟨m, hm, HttpMapping.means_of_rule hrule⟩

theorem isImage_loadMethod {m : Document.Method} (h : (loadMethod n place m).issues = []) :
    ∃ r, (loadMethod n place m).value = some r ∧ Method.IsImage n m r := by
  obtain ⟨-, ⟨request, hrequest⟩, ⟨response, hresponse⟩, -, -⟩ :=
    issues_loadMethod_eq_nil_iff.1 h
  unfold loadMethod at h ⊢
  simp only [Noted.issues_bind_eq_nil_iff] at h
  obtain ⟨-, -, -, hhttp, hextra, hoptions, -⟩ := h
  simp only [Noted.value_bind, Noted.value_pure, value_orNote,
    Names.message?_eq_some_iff.2 hrequest, Names.message?_eq_some_iff.2 hresponse]
  refine ⟨_, rfl, rfl, hrequest, hresponse, carries_http hhttp, _,
    carries_interpret decodes_optionEntries hextra, ?_⟩
  exact OptionEntry.forall₂_options (OptionEntry.issues_options_eq_nil_iff.1 hoptions)

theorem isImage_loadService {s : Document.Service} (h : (loadService n s).issues = []) :
    Service.IsImage n s (loadService n s).value := by
  unfold loadService at h ⊢
  simp only [Noted.issues_bind_eq_nil_iff, Noted.issues_keep_eq_nil_iff] at h
  obtain ⟨-, hmethods, -⟩ := h
  refine ⟨rfl, ?_⟩
  rw [← forall₂_withBefore_iff]
  exact Noted.forall₂_keep fun p hp => Noted.exists_value_unless (hmethods p hp) isImage_loadMethod

/-! ## Messages -/

theorem isImage_loadDefaults (h : (loadDefaults xs place).issues = []) :
    (loadDefaults xs place).value.IsImage xs := by
  unfold loadDefaults at h ⊢
  simp only [Noted.issues_bind_eq_nil_iff] at h
  obtain ⟨hlocation, hautoTags, -⟩ := h
  exact ⟨carries_interpret decodes_location hlocation, carries_interpret decodes_text hautoTags⟩

theorem isImage_loadOneof {o : Document.Oneof} (h : (loadOneof place o).issues = []) :
    Oneof.IsImage o (loadOneof place o).value := by
  unfold loadOneof at h ⊢
  simp only [Noted.issues_bind_eq_nil_iff] at h
  obtain ⟨-, hdefaults, -⟩ := h
  exact ⟨rfl, isImage_loadDefaults hdefaults⟩

theorem isImage_loadField {f : Document.Field} (h : (loadField n place f).issues = []) :
    ∃ r, (loadField n place f).value = some r ∧ Field.IsImage n f r := by
  obtain ⟨-, ⟨repeated, hrepeated⟩, ⟨kind, hkind⟩, -, -, -⟩ := issues_loadField_eq_nil_iff.1 h
  unfold loadField at h ⊢
  simp only [Noted.issues_bind_eq_nil_iff, Noted.value_bind,
    Noted.value_attempt_of_ok (fieldKind_eq_ok_iff.2 hkind),
    Noted.value_attempt_of_ok (repeatedOfLabel_eq_ok_iff.2 hrepeated)] at h ⊢
  obtain ⟨-, -, -, hlocation, htag, hautoTags, -⟩ := h
  exact ⟨_, rfl, rfl, rfl, rfl, hkind, hrepeated, rfl,
    carries_interpret decodes_location hlocation, carries_interpret decodes_text htag,
    carries_interpret decodes_text hautoTags⟩

theorem isImage_loadMessage {m : Document.Message} (h : (loadMessage n m).issues = []) :
    Message.IsImage n m (loadMessage n m).value := by
  unfold loadMessage at h ⊢
  simp only [Noted.issues_bind_eq_nil_iff, Noted.issues_keep_eq_nil_iff] at h
  obtain ⟨-, hdefaults, honeofs, hfields, -⟩ := h
  refine ⟨rfl, ?_, ?_, isImage_loadDefaults hdefaults⟩
  · rw [← forall₂_withBefore_iff]
    refine Noted.forall₂_keep fun p hp => ?_
    -- a field without issue clashes with none before it, so it is loaded and kept
    obtain ⟨hclash, hfield⟩ := issues_clash_eq_nil_iff.1 (hfields p hp)
    simp only [Noted.issues_bind_eq_nil_iff] at hfield
    simp only [hclash, Noted.value_bind]
    exact isImage_loadField hfield.2
  · rw [← forall₂_withBefore_iff]
    refine Noted.forall₂_keep fun p hp => Noted.exists_value_unless (honeofs p hp) fun h => ?_
    rw [Noted.issues_map] at h
    exact ⟨_, rfl, isImage_loadOneof h⟩

/-! ## Enums -/

theorem isImage_loadEnumValue {v : Document.EnumValue} (h : (loadEnumValue place v).issues = []) :
    EnumValue.IsImage v (loadEnumValue place v).value := by
  unfold loadEnumValue at h ⊢
  simp only [Noted.issues_bind_eq_nil_iff] at h
  obtain ⟨-, hstatus, hreason, hmessage, -⟩ := h
  exact ⟨rfl, rfl, carries_interpret decodes_status hstatus,
    carries_interpret decodes_text hreason, carries_interpret decodes_text hmessage⟩

theorem isImage_loadEnum {e : Document.Enum} (h : (loadEnum e).issues = []) :
    Enum.IsImage e (loadEnum e).value := by
  unfold loadEnum at h ⊢
  simp only [Noted.issues_bind_eq_nil_iff, Noted.issues_keep_eq_nil_iff] at h
  obtain ⟨-, hstatus, hvalues, -⟩ := h
  refine ⟨rfl, carries_interpret decodes_status hstatus, ?_⟩
  rw [← forall₂_withBefore_iff]
  refine Noted.forall₂_keep fun p hp => Noted.exists_value_unless (hvalues p hp) fun h => ?_
  rw [Noted.issues_map] at h
  exact ⟨_, rfl, isImage_loadEnumValue h⟩

/-! ## Documents -/

variable {d : Document} {s : Schema}

theorem isImage_interpret (h : (interpret d).issues = []) : IsImage d (interpret d).value := by
  unfold interpret at h ⊢
  simp only [Noted.issues_bind_eq_nil_iff, Noted.issues_each,
    List.flatMap_eq_nil_iff] at h
  obtain ⟨-, hservices, hmessages, henums, -⟩ := h
  exact ⟨rfl, Noted.forall₂_each fun v hv => isImage_loadService (hservices v hv),
    Noted.forall₂_each fun m hm => isImage_loadMessage (hmessages m hm),
    Noted.forall₂_each fun e he => isImage_loadEnum (henums e he)⟩

theorem mem_messages_of_hasKind {f : Document.Field} {name : String}
    (h : f.HasKind n (.message name)) : name ∈ n.messages := by
  cases h with
  | reference _ htypes =>
    cases htypes with
    | message hresolves => exact hresolves.mem

theorem mem_enums_of_hasKind {f : Document.Field} {name : String}
    (h : f.HasKind n (.enum name)) : name ∈ n.enums := by
  cases h with
  | reference _ htypes =>
    cases htypes with
    | enum _ hresolves => exact hresolves.mem

/-- **An image is closed**: what references stand for is declared. -/
theorem IsImage.closed (h : IsImage d s) : s.Closed := by
  have hmessages : s.messages.map (·.name) = (Names.ofDocument d).messages :=
    map_eq_of_forall₂ h.messages fun _ _ hm => hm.name
  have henums : s.enums.map (·.name) = (Names.ofDocument d).enums :=
    map_eq_of_forall₂ h.enums fun _ _ he => he.name
  have hmethod : ∀ v ∈ s.services, ∀ m ∈ v.methods,
      ∃ m', Method.IsImage (Names.ofDocument d) m' m := by
    intro v hv m hm
    obtain ⟨v', -, hv'⟩ := exists_of_forall₂_of_mem h.services hv
    obtain ⟨m', -, hm'⟩ := exists_of_forall₂_of_mem hv'.methods hm
    exact ⟨m', hm'⟩
  have hkind : ∀ x ∈ s.messages, ∀ f ∈ x.fields,
      ∃ f' : Document.Field, f'.HasKind (Names.ofDocument d) f.kind := by
    intro x hx f hf
    obtain ⟨x', -, hx'⟩ := exists_of_forall₂_of_mem h.messages hx
    obtain ⟨f', -, hf'⟩ := exists_of_forall₂_of_mem hx'.fields hf
    exact ⟨f', hf'.kind⟩
  -- references were resolved against the names of the document, which the image has as well
  rw [closed_iff, hmessages, henums]
  refine ⟨fun v hv m hm => ?_, fun v hv m hm => ?_, fun x hx f hf name hname => ?_,
    fun x hx f hf name hname => ?_⟩
  · obtain ⟨m', hm'⟩ := hmethod v hv m hm
    exact hm'.request.mem
  · obtain ⟨m', hm'⟩ := hmethod v hv m hm
    exact hm'.response.mem
  · obtain ⟨f', hf'⟩ := hkind x hx f hf
    exact mem_messages_of_hasKind (hname ▸ hf')
  · obtain ⟨f', hf'⟩ := hkind x hx f hf
    exact mem_enums_of_hasKind (hname ▸ hf')

end ServiceContract.Schema
