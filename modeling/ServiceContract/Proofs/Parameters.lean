import ServiceContract.Proofs.Coherence
import ServiceContract.Proofs.Image
import ServiceContract.Proofs.Precedence

/-!
# Parameters and the tags of their fields

A router captures a parameter under the name of the field that it fills, and the tag of the field
has its name on the wire. Nothing compares the two names: they are one where a field has no other
name on the wire.

* `Tagged`: what a parameter and the field that it fills say of each other.
* `parameters_tagged`: they say so in every result from a document.
* `parameters_mistagged`: a parameter and the tag of its field may have different names.
-/

namespace ServiceContract

namespace Binding

open Schema (Field Message)

/-- A field that the path fills is tagged with its name on the wire, unless it sets tags itself. -/
theorem get?_uri_of_mem {m : Message} {f : Field} {ctx : Context} {b : FieldBinding}
    (h : resolveField m f ctx = .ok b) (hmem : f.name ∈ ctx.pathFields) (htag : f.tag = none) :
    b.tags.get? "uri" = some f.wireName := by
  obtain ⟨-, -, -, -, hjoined⟩ := (resolveField_eq_ok_iff_joined (layers_of_mem hmem)).1 h
  obtain ⟨own, further, hown, -, htags, -⟩ := hjoined
  have howned : own = [⟨"uri", f.wireName⟩] := by
    unfold ownTags at hown
    rw [htag] at hown
    exact (Except.ok.inj hown).symm
  unfold TagSet.get?
  rw [htags, howned]
  rfl

end Binding

namespace Operation

open Schema (HttpRule Message)

/-- **A parameter of a route and the field that it fills.** The parameter has the name of the field
and stands so in the pattern; the tag of the field has its name on the wire. -/
structure Tagged (r : Endpoint) (p : Route.PathBinding) (f : Document.Field)
    (b : Binding.FieldBinding) : Prop where
  parameter : p.name = f.name
  written : p.segment.render = (if p.catchAll then "*" else ":") ++ p.name
  segment : p.segment ∈ r.segments
  pattern : r.pattern = Route.pattern r.segments
  field : b.field = f.name
  tag : Extension.tag.name ∉ f.extensions.map (·.1) →
    b.tags.get? "uri" = some (f.jsonName.getD f.name)
  /-- The names are one exactly where the field has no other name on the wire. -/
  same_iff : Extension.tag.name ∉ f.extensions.map (·.1) →
    (b.tags.get? "uri" = some p.name ↔ ∀ wire, f.jsonName = some wire → wire = f.name)

variable {d : Document} {s : Schema} {place : Place} {rule : HttpRule} {request : Message}
  {depth : Nat} {r : Endpoint} {c : Decode}

theorem render_segment (p : Route.PathBinding) :
    p.segment.render = (if p.catchAll then "*" else ":") ++ p.name := by
  unfold Route.PathBinding.segment
  cases p.catchAll <;> rfl

/-- **The parameters of an HTTP mapping and their fields**, in the schema of a document. -/
theorem exists_tagged_of_buildHttp (himage : Schema.IsImage d s) (hrequest : request ∈ s.messages)
    (h : buildHttp s place rule request depth = .ok (r, c)) {p : Route.PathBinding}
    (hp : p ∈ c.pathBindings) {name : String} (hpath : p.fieldPath = [name]) :
    ∃ m ∈ d.messages, m.name = c.request ∧ ∃ f ∈ m.fields, f.name = name ∧
      ∃ b, c.field? name = some b ∧ Tagged r p f b := by
  have hfits := fits_of_buildHttp h
  obtain ⟨t, fields, ht, -, -, hfields, rfl, rfl⟩ := buildHttp_eq_ok_iff.1 h
  have hfields := Binding.resolveMessage_eq_ok_iff.1 hfields
  -- the path leads to a field of the request, which is bound to the path
  have hleads := hfits.leads p hp
  rw [hpath] at hleads
  obtain ⟨x, hx⟩ : ∃ x, request.field? name = some x := by
    cases hleads with
    | last hx _ _ => exact ⟨_, hx⟩
    | into hx _ _ _ => exact ⟨_, hx⟩
  have hname : x.name = name := by simpa using List.find?_some hx
  have hmem : x.name ∈ t.topLevelFields := by
    rw [hname]
    exact Route.mem_topLevelFields.2 ⟨p, hp, hpath⟩
  obtain ⟨b, hb, hbound⟩ := find?_of_forall₂ (q := (·.field == name)) hfields
    (fun f b hb => by rw [(Binding.resolveField_eq_ok_iff.1 hb).1.field]) hx
  -- the request and its field are those of the document
  obtain ⟨m, hm, hmessage⟩ := exists_of_forall₂_of_mem himage.messages hrequest
  obtain ⟨f, hf, hfield⟩ := exists_of_forall₂_of_mem hmessage.fields (List.mem_of_find?_eq_some hx)
  have hfname : f.name = name := hfield.name.symm.trans hname
  have hparameter : p.name = f.name := by
    rw [Route.name_of_mem_bindings ht hp, hpath, hfname]
    rfl
  have htag (hno : Extension.tag.name ∉ f.extensions.map (·.1)) :
      b.tags.get? "uri" = some (f.jsonName.getD f.name) := by
    have hnone : x.tag = none := by
      rw [← Option.not_isSome_iff_eq_none, hfield.tag.isSome_iff]
      exact hno
    rw [Binding.get?_uri_of_mem hbound hmem hnone, hfield.wireName]
  refine ⟨m, hm, hmessage.name.symm, f, hf, hfname, b, hb, hparameter, render_segment p,
    Route.segment_mem_segments ht hp, rfl, ?_, htag, fun hno => ?_⟩
  · rw [(Binding.resolveField_eq_ok_iff.1 hbound).1.field, hname, hfname]
  · rw [htag hno, hparameter, Option.some.injEq]
    cases f.jsonName with
    | none => simp
    | some wire => simp

end Operation

namespace Bundle

open Operation (Tagged)

/-- **Parameters are tagged with the names of their fields on the wire.** In a result from a
document, the parameter of every path of one field has the name of the field in the registered
pattern, and a field that sets no tags itself has a tag of its name on the wire. -/
theorem parameters_tagged (d : Document) (s : Schema) (c : Settings) (g : Generation)
    (hload : Schema.load d = .ok s) (hg : generate s c = .ok g) :
    ∀ o ∈ g.bundle.operations, ∀ r k, o.route = some r → o.decode = some k →
      (∃ x ∈ g.bundle.registrations, x.operationId = o.id ∧ x.pattern = some r.pattern) ∧
      ∀ p ∈ k.pathBindings, ∀ name, p.fieldPath = [name] →
        ∃ m ∈ d.messages, m.name = k.request ∧ ∃ f ∈ m.fields, f.name = name ∧
          ∃ b, k.field? name = some b ∧ Tagged r p f b := by
  obtain ⟨hissues, rfl⟩ := Schema.load_eq_ok_iff.1 hload
  have himage := Schema.isImage_interpret hissues
  obtain ⟨-, rfl⟩ := generate_eq_ok_iff.1 hg
  intro o ho r k hr hk
  constructor
  · refine ⟨.ofOperation o, List.mem_map_of_mem ho, rfl, ?_⟩
    exact ((registers_ofOperation o).route r hr).2
  · intro p hp name hpath
    have ho : o ∈ operationsOf (Schema.interpret d).value c := ho
    rw [operationsOf_eq, List.mem_filterMap] at ho
    obtain ⟨q, -, hbuilt⟩ := ho
    obtain ⟨request, hrequest, hmaps⟩ :=
      Operation.exists_maps_of_build (operationOf?_eq_some_iff.1 hbuilt)
    rw [hr, hk] at hmaps
    generalize q.2.http = rule? at hmaps
    cases hmaps with
    | some hbuild =>
      exact Operation.exists_tagged_of_buildHttp himage (List.mem_of_find?_eq_some hrequest) hbuild
        hp hpath

/-- A document with a parameter whose field has another name on the wire, and one whose field has
not. No field sets tags itself. -/
def profiles : Document where
  package := "demo"
  services := [{
    name := "Profiles"
    methods := [{
      name := "GetFile", inputType := "Key", outputType := "Key"
      extensions := [("http", .object [
        ("get", .text "/users/\x7buser_id\x7d/\x7bpath=**\x7d")])] }] }]
  messages := [{
    name := "Key"
    fields := [
      { name := "user_id", number := 1, scalar := some "string", jsonName := some "userId" },
      { name := "path", number := 2, scalar := some "string" }] }]

theorem parameters_tagged_profiles : ∃ s g o r k p, Schema.load profiles = .ok s ∧
    generate s {} = .ok g ∧ o ∈ g.bundle.operations ∧ o.route = some r ∧ o.decode = some k ∧
    p ∈ k.pathBindings ∧ p.fieldPath = ["path"] ∧
    ∃ m ∈ profiles.messages, m.name = k.request ∧ ∃ f ∈ m.fields, f.name = "path" ∧
      ∃ b, k.field? "path" = some b ∧ Tagged r p f b := by
  refine ⟨_, _, _, _, _, _, rfl, rfl, List.mem_cons_self, rfl, rfl,
    List.mem_cons_of_mem _ List.mem_cons_self, rfl, ?_⟩
  exact (parameters_tagged profiles _ {} _ rfl rfl _ List.mem_cons_self _ _ rfl rfl).2 _
    (List.mem_cons_of_mem _ List.mem_cons_self) _ rfl

/-- **A parameter and the tag of its field may have different names**: a router captures what
nothing reads. -/
theorem parameters_mistagged : ∃ s g o r k p b, Schema.load profiles = .ok s ∧
    generate s {} = .ok g ∧ o ∈ g.bundle.operations ∧ o.route = some r ∧ o.decode = some k ∧
    p ∈ k.pathBindings ∧ p.fieldPath = ["user_id"] ∧ k.field? "user_id" = some b ∧
    (∀ m ∈ profiles.messages, ∀ f ∈ m.fields, f.extensions = []) ∧
    r.pattern = "/users/:user_id/*path" ∧ p.name = "user_id" ∧
    b.tags.get? "uri" = some "userId" ∧ b.tags.get? "uri" ≠ some p.name :=
  ⟨_, _, _, _, _, _, _, rfl, rfl, List.mem_cons_self, rfl, rfl, List.mem_cons_self, rfl, rfl,
    by decide, rfl, rfl, rfl, by decide⟩

end Bundle

end ServiceContract
