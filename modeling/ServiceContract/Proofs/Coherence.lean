import ServiceContract.Proofs.Binding
import ServiceContract.Proofs.Segments
import ServiceContract.Proofs.Tables

/-!
# Routes and requests fit together

The route of an operation and the way its requests are read come from one template and one
request message. They say the same of every parameter: the segment that captures it, the field
that it fills, and that nothing else fills that field.

* `Leads`: the paths of fields that end at a single value.
* `checkPath_eq_ok_iff`: the check of a path succeeds on these.
* `Fits`: what a route and the way requests are read say of each other.
* `generate_coherent`: they fit in every operation of every run that is not stopped.
-/

namespace ServiceContract.Operation

open Schema (BodySelector Field HttpRule Message Method Service)
open Binding (Binds)

variable {s : Schema} {place : Place} {parameter : String}

/-! ## Paths of fields -/

/-- **A path of fields that ends at a single value**: it goes from message to message and ends at a
field that is neither repeated nor a message. -/
inductive Leads (s : Schema) : Message → List String → Prop
  | last {m : Message} {name : String} {f : Field} :
      m.field? name = some f → f.repeated = false → f.kind.isMessage = false →
      Leads s m [name]
  | into {m next : Message} {name target : String} {f : Field} {rest : List String} :
      m.field? name = some f → f.kind = .message target → s.message? target = some next →
      Leads s next rest → Leads s m (name :: rest)

theorem Leads.ne_nil {m : Message} {path : List String} (h : Leads s m path) : path ≠ [] := by
  cases h <;> exact List.cons_ne_nil _ _

theorem checkPath_singleton_eq_ok_iff {m : Message} {name : String} :
    checkPath s place parameter m [name] = .ok () ↔
      ∃ f, m.field? name = some f ∧ f.repeated = false ∧ f.kind.isMessage = false := by
  unfold checkPath
  cases m.field? name with
  | none => simp [bind, Except.bind]
  | some f =>
    cases hsingle : f.repeated <;> cases hscalar : f.kind.isMessage <;>
      simp [bind, Except.bind, pure, Except.pure, hsingle, hscalar]

theorem checkPath_cons_eq_ok_iff {m : Message} {name : String} {rest : List String}
    (hne : rest ≠ []) :
    checkPath s place parameter m (name :: rest) = .ok () ↔
      ∃ f target next, m.field? name = some f ∧ f.kind = .message target ∧
        s.message? target = some next ∧ checkPath s place parameter next rest = .ok () := by
  rw [checkPath]
  cases m.field? name with
  | none => simp [bind, Except.bind]
  | some f =>
    have hrest : ¬ rest.isEmpty = true := by simpa using hne
    simp only [bind_eq_ok, if_neg hrest]
    constructor
    · rintro ⟨f', hf, h⟩
      cases hf
      split at h
      · next target hkind =>
        obtain ⟨next, hnext, hcheck⟩ := bind_eq_ok.1 h
        exact ⟨f, target, next, rfl, hkind, findMessage_eq_ok_iff.1 hnext, hcheck⟩
      · cases h
    · rintro ⟨f', target, next, hf, hkind, hnext, hcheck⟩
      cases hf
      refine ⟨f, rfl, ?_⟩
      simp only [hkind]
      exact bind_eq_ok.2 ⟨next, findMessage_eq_ok_iff.2 hnext, hcheck⟩

/-- **The check of a path succeeds exactly where it leads to a single value.** -/
theorem checkPath_eq_ok_iff {path : List String} (hne : path ≠ []) :
    ∀ {m : Message}, checkPath s place parameter m path = .ok () ↔ Leads s m path := by
  induction path with
  | nil => exact absurd rfl hne
  | cons name rest ih =>
    intro m
    by_cases hrest : rest = []
    · subst hrest
      rw [checkPath_singleton_eq_ok_iff]
      constructor
      · rintro ⟨f, hf, hsingle, hscalar⟩
        exact .last hf hsingle hscalar
      · intro h
        cases h with
        | last hf hsingle hscalar => exact ⟨_, hf, hsingle, hscalar⟩
        | into _ _ _ hnext => exact absurd rfl hnext.ne_nil
    · rw [checkPath_cons_eq_ok_iff hrest]
      constructor
      · rintro ⟨f, target, next, hf, hkind, hnext, hcheck⟩
        exact .into hf hkind hnext ((ih hrest).1 hcheck)
      · intro h
        cases h with
        | last _ _ _ => exact absurd rfl hrest
        | into hf hkind hnext hleads => exact ⟨_, _, _, hf, hkind, hnext, (ih hrest).2 hleads⟩

/-! ## Routes and requests -/

/-- **What a route and the way requests are read say of each other**, and of the request. -/
structure Fits (s : Schema) (request : Message) (r : Endpoint) (d : Decode) : Prop where
  message : d.request = request.name
  pattern : r.pattern = Route.pattern r.segments
  catchAll : ∀ name, r.catchAll = some name ↔ .catchAll name ∈ r.segments
  /-- The parameters are the segments that are no literals, in order. -/
  pathBindings : d.pathBindings.map Route.PathBinding.segment = r.segments.filter (!·.isLiteral)
  /-- There is one binding for each field of the request, in order. -/
  fields : List.Forall₂ Binds request.fields d.fields
  leads : ∀ p ∈ d.pathBindings, Leads s request p.fieldPath
  source : ∀ b ∈ d.fields, b.source = .path ↔ ∃ p ∈ d.pathBindings, p.fieldPath = [b.field]
  location : ∀ b ∈ d.fields, b.source = .path → b.location = .uri
  /-- A field that is the whole body is there, and no parameter fills it. -/
  body : ∀ name, d.body = .field name →
    (request.field? name).isSome ∧ ∀ p ∈ d.pathBindings, p.fieldPath ≠ [name]

theorem checkBinding_eq_ok {request : Message} {depth : Nat} {b : Route.PathBinding}
    (h : checkBinding s place request depth b = .ok ()) :
    checkPath s place b.name request b.fieldPath = .ok () := by
  unfold checkBinding at h
  split at h
  · cases h
  · exact h

theorem isSome_field?_of_checkBody {request : Message} {name : String}
    (h : checkBody place request (.field name) = .ok ()) : (request.field? name).isSome := by
  unfold checkBody at h
  cases hf : request.field? name with
  | none => simp [hf] at h
  | some f => rfl

/-- **What an HTTP mapping becomes fits together.** -/
theorem fits_of_buildHttp {rule : HttpRule} {request : Message} {depth : Nat} {r : Endpoint}
    {d : Decode} (h : buildHttp s place rule request depth = .ok (r, d)) :
    Fits s request r d := by
  obtain ⟨t, fields, ht, hbindings, hbody, hfields, rfl, rfl⟩ := buildHttp_eq_ok_iff.1 h
  have hfields := Binding.resolveMessage_eq_ok_iff.1 hfields
  -- every binding is that of a field of the request
  have hresolved : ∀ b ∈ fields, ∃ f ∈ request.fields,
      Binding.resolveField request f ⟨rule.body, t.topLevelFields⟩ = .ok b :=
    fun b hb => exists_of_forall₂_of_mem hfields hb
  refine ⟨rfl, rfl, fun name => Route.catchAll?_eq_some_iff ht, Route.map_segment_bindings ht,
    hfields.imp fun f b hb => (Binding.resolveField_eq_ok_iff.1 hb).1, ?_, ?_, ?_, ?_⟩
  · intro p hp
    obtain ⟨text, href⟩ := Route.exists_isReference ht hp
    exact (checkPath_eq_ok_iff href.ne_nil).1 (checkBinding_eq_ok (hbindings p hp))
  · intro b hb
    obtain ⟨f, -, hf⟩ := hresolved b hb
    rw [Binding.source_eq_path_iff hf, (Binding.resolveField_eq_ok_iff.1 hf).1.field]
    exact Route.mem_topLevelFields
  · intro b hb hpath
    obtain ⟨f, -, hf⟩ := hresolved b hb
    exact Binding.location_eq_uri hf ((Binding.source_eq_path_iff hf).1 hpath)
  · intro name hname
    simp only at hname
    rw [hname] at hbody
    have hsome := isSome_field?_of_checkBody hbody
    refine ⟨hsome, fun p hp hpath => ?_⟩
    obtain ⟨f, hf⟩ := Option.isSome_iff_exists.1 hsome
    have hfname : f.name = name := by simpa using List.find?_some hf
    obtain ⟨b, -, hb⟩ := exists_of_forall₂_of_mem hfields.flip (List.mem_of_find?_eq_some hf)
    have hmem : f.name ∈ t.topLevelFields := by
      rw [hfname]
      exact Route.mem_topLevelFields.2 ⟨p, hp, hpath⟩
    exact Binding.body_ne_field hb hmem (by rw [hfname]; exact hname)

/-- **An operation and the method it is of**: both have HTTP parts that fit together, or neither
has any. -/
inductive Coherent (s : Schema) (m : Method) (o : Operation) : Prop
  | plain : m.http = none → o.route = none → o.decode = none → Coherent s m o
  | http {rule : HttpRule} {request : Message} {r : Endpoint} {d : Decode} :
      m.http = some rule → o.route = some r → o.decode = some d →
      s.message? m.request = some request → Fits s request r d → Coherent s m o

theorem coherent_of_build {v : Service} {m : Method} {c : Settings} {o : Operation}
    (h : build s v m c = .ok (some o)) : Coherent s m o := by
  obtain ⟨request, hrequest, hmaps⟩ := exists_maps_of_build h
  generalize hhttp : m.http = rule? at hmaps
  generalize hroute : o.route = r? at hmaps
  generalize hdecode : o.decode = d? at hmaps
  cases hmaps with
  | none => exact .plain hhttp hroute hdecode
  | some hbuilt => exact .http hhttp hroute hdecode hrequest (fits_of_buildHttp hbuilt)

end ServiceContract.Operation

namespace ServiceContract.Bundle

/-- **Every operation is coherent.** An operation of a run that is not stopped is that of a declared
method, and with every method that it is of, it has HTTP parts that fit together or none. -/
theorem generate_coherent (s : Schema) (c : Settings) (g : Generation)
    (h : generate s c = .ok g) : ∀ o ∈ g.bundle.operations,
      (∃ p ∈ declared s, Operation.build s p.1 p.2 c = .ok (some o)) ∧
      ∀ p ∈ declared s, Operation.build s p.1 p.2 c = .ok (some o) →
        Operation.Coherent s p.2 o := by
  obtain ⟨-, rfl⟩ := generate_eq_ok_iff.1 h
  intro o ho
  have ho : o ∈ operationsOf s c := ho
  rw [operationsOf_eq, List.mem_filterMap] at ho
  obtain ⟨p, hp, hbuilt⟩ := ho
  exact ⟨⟨p, hp, operationOf?_eq_some_iff.1 hbuilt⟩, fun _ _ => Operation.coherent_of_build⟩

/-- A schema with a nested parameter, one that takes the rest of the path, and a field as the
body. -/
def drive : Schema where
  package := "drive"
  services := [⟨"Files", [
    ⟨"Upload", "Upload", "User",
      some ⟨"POST", "/users/\x7buser.id\x7d/files/\x7bpath=**\x7d", .field "content", .entire⟩, []⟩,
    ⟨"Watch", "User", "User", none, [⟨"cmd", .text "watch"⟩]⟩]⟩]
  messages := [
    ⟨"User", [⟨"id", "id", 1, .scalar "string", false, none, none, none, none⟩], [], {}⟩,
    ⟨"Upload", [
      ⟨"user", "user", 1, .message "User", false, none, none, none, none⟩,
      ⟨"path", "path", 2, .scalar "string", false, none, none, none, none⟩,
      ⟨"content", "content", 3, .scalar "bytes", true, none, none, none, none⟩], [], {}⟩]

theorem generate_coherent_drive :
    ∃ g o, generate drive {} = .ok g ∧ o ∈ g.bundle.operations ∧
      o.route.map (·.pattern) = some "/users/:user_id/files/*path" ∧
      o.decode.map (fun d => d.fields.map (·.source)) =
        some [.methodDefault, .path, .methodDefault] ∧
      ∃ p ∈ declared drive, p.2.http.isSome ∧ Operation.Coherent drive p.2 o := by
  refine ⟨_, _, rfl, List.mem_cons_self, rfl, rfl, _, List.mem_cons_self, rfl, ?_⟩
  exact (generate_coherent drive {} _ rfl _ List.mem_cons_self).2 _ List.mem_cons_self rfl

end ServiceContract.Bundle
