import ServiceContract.Operation.Build
import ServiceContract.Proofs.Attempts
import ServiceContract.Proofs.Segments

/-!
# Operations and their methods

What an operation says of the method it was built from, and what building one looks at.

* `buildHttp_eq_ok_iff`: what an HTTP mapping becomes, and when.
* `describes_of_build`: the names, options and route of an operation are those of its method.
* `unbuildable_buildMapped`: what building an operation of a mapped method fails with.
* `build_congr`: building sees of a schema only its package and its messages.
-/

namespace ServiceContract.Operation

open Schema (BodySelector HttpRule Message Method ResponseSelector Service)

variable {s : Schema} {v : Service} {m : Method} {c : Settings} {o : Operation}

theorem build_eq_some_iff :
    build s v m c = .ok (some o) ↔ m.isUnmapped = false ∧ buildMapped s v m c = .ok o := by
  unfold build
  by_cases hm : m.isUnmapped = true
  · rw [if_pos hm]
    cases c.unmapped <;> simp [hm]
  · rw [if_neg hm, map_eq_ok]
    simp [hm]

theorem findMessage_eq_ok_iff {place : Place} {name : String} {x : Message} :
    findMessage s place name = .ok x ↔ s.message? name = some x := by
  unfold findMessage
  cases s.message? name <;> simp

/-- **What an HTTP mapping becomes**: its path is a template whose parameters and body fit the
request, and the fields of the request are bound. -/
theorem buildHttp_eq_ok_iff {place : Place} {rule : HttpRule} {request : Message} {depth : Nat}
    {r : Endpoint} {d : Decode} :
    buildHttp s place rule request depth = .ok (r, d) ↔ ∃ t fields,
      Route.Template.parse rule.path depth = .ok t ∧
      (∀ b ∈ t.bindings, checkBinding s place request depth b = .ok ()) ∧
      checkBody place request rule.body = .ok () ∧
      Binding.resolveMessage request ⟨rule.body, t.topLevelFields⟩ = .ok fields ∧
      r = ⟨rule.verb, rule.path, t.pattern, t.segments, t.catchAll?.map (·.name)⟩ ∧
      d = ⟨request.name, rule.body, fields, t.bindings⟩ := by
  unfold buildHttp
  simp only [bind_eq_ok, mapError_eq_ok]
  constructor
  · rintro ⟨t, ht, ⟨⟩, hbindings, ⟨⟩, hbody, fields, hfields, h⟩
    cases h
    exact ⟨t, fields, ht, forM_eq_ok_iff.1 hbindings, hbody, hfields, rfl, rfl⟩
  · rintro ⟨t, fields, ht, hbindings, hbody, hfields, rfl, rfl⟩
    exact ⟨t, ht, (), forM_eq_ok_iff.2 hbindings, (), hbody, fields, hfields, rfl⟩

/-- What an operation has of the HTTP mapping of its method: both the route and how requests are
read, or neither. -/
inductive Maps (s : Schema) (place : Place) (request : Message) (depth : Nat) :
    Option HttpRule → Option Endpoint → Option Decode → Prop
  | none : Maps s place request depth none none none
  | some {rule : HttpRule} {r : Endpoint} {d : Decode} :
      buildHttp s place rule request depth = .ok (r, d) →
      Maps s place request depth (some rule) (some r) (some d)

/-- **The messages and the HTTP mapping of an operation.** -/
theorem exists_maps_of_build (h : build s v m c = .ok (some o)) :
    ∃ request, s.message? m.request = some request ∧
      Maps s ((Place.service v.name).inside .method m.name) request c.maxDepth m.http o.route
        o.decode := by
  have h := (build_eq_some_iff.1 h).2
  unfold buildMapped at h
  simp only [bind_eq_ok, findMessage_eq_ok_iff] at h
  obtain ⟨request, hrequest, response, -, http, hhttp, encode, -, h⟩ := h
  cases h
  refine ⟨request, hrequest, ?_⟩
  cases hm : m.http with
  | none =>
    rw [hm] at hhttp
    cases hhttp
    exact .none
  | some rule =>
    rw [hm, Option.mapM_some, map_eq_ok] at hhttp
    obtain ⟨⟨r, d⟩, hb, rfl⟩ := hhttp
    exact .some hb

/-- What an operation says of its method. -/
structure Describes (s : Schema) (v : Service) (m : Method) (c : Settings) (o : Operation) :
    Prop where
  id : o.id = idOf s v m c.optionsKey
  service : o.service = v.name
  method : o.method = m.name
  handlerName : o.handlerName = Text.snakeCase m.name
  extra : o.extra = m.options
  route : ∀ r, o.route = some r → ∃ rule t, m.http = some rule ∧
    Route.Template.parse rule.path c.maxDepth = .ok t ∧
    r = ⟨rule.verb, rule.path, t.pattern, t.segments, t.catchAll?.map (·.name)⟩

/-- **An operation describes the method it was built from.** -/
theorem describes_of_build (h : build s v m c = .ok (some o)) : Describes s v m c o := by
  obtain ⟨request, -, hmaps⟩ := exists_maps_of_build h
  have h := (build_eq_some_iff.1 h).2
  unfold buildMapped at h
  simp only [bind_eq_ok] at h
  obtain ⟨-, -, -, -, http, -, encode, -, h⟩ := h
  cases h
  refine ⟨rfl, rfl, rfl, rfl, rfl, fun r hr => ?_⟩
  simp only at hr hmaps
  rw [hr] at hmaps
  generalize hm : m.http = rule? at hmaps
  generalize http.map (·.2) = decode at hmaps
  cases hmaps with
  | @some rule _ _ hb =>
    obtain ⟨t, fields, ht, -, -, -, hroute, -⟩ := buildHttp_eq_ok_iff.1 hb
    exact ⟨rule, t, rfl, ht, hroute⟩

/-! ## What building fails with

A property that all issues of the single checks have is one of all issues of building.
-/

section

variable {place : Place} {P : Issue → Prop}

theorem failsOnly_checkBody {request : Message} (body : BodySelector)
    (h : ∀ name, P ⟨place.inside .field name, .bodyFieldMissing name request.name⟩) :
    FailsOnly P (checkBody place request body) := by
  unfold checkBody
  split
  · split
    · exact .error (h _)
    · exact .ok ()
  · exact .ok ()

theorem failsOnly_buildEncode {response : Message} (selector : ResponseSelector)
    (h : ∀ name, P ⟨place.inside .field name, .responseFieldMissing name response.name⟩) :
    FailsOnly P (buildEncode place response selector) := by
  unfold buildEncode
  split
  · exact .ok _
  · split
    · exact .ok _
    · exact .error (h _)

theorem checkBinding_eq_checkPath {request : Message} {depth : Nat} {b : Route.PathBinding}
    (h : b.fieldPath.length ≤ depth) :
    checkBinding s place request depth b = checkPath s place b.name request b.fieldPath := by
  unfold checkBinding
  rw [if_neg (Nat.not_lt.2 h)]

/-- **The second look at the depth of paths finds nothing**: the bindings of a template that was
read are as deep as the limit allows, or as any higher one does. -/
theorem forM_checkBinding {request : Message} {depth depth' : Nat} {path : String}
    {t : Route.Template} (ht : Route.Template.parse path depth = .ok t) (h : depth ≤ depth') :
    t.bindings.forM (checkBinding s place request depth') =
      t.bindings.forM fun b => checkPath s place b.name request b.fieldPath := by
  have hcheck : ∀ b ∈ t.bindings, checkBinding s place request depth' b =
      checkPath s place b.name request b.fieldPath := by
    intro b hb
    have hlength : b.fieldPath.length ≤ depth := (Route.wellFormed_of_parse ht).fieldPath_le b hb
    exact checkBinding_eq_checkPath (by omega)
  exact forM_congr hcheck

theorem failsOnly_buildHttp {rule : HttpRule} {request : Message} {depth : Nat}
    (htemplate : ∀ e, P ⟨place, .template e⟩)
    (hpath : ∀ parameter path, FailsOnly P (checkPath s place parameter request path))
    (hbody : ∀ name, P ⟨place.inside .field name, .bodyFieldMissing name request.name⟩)
    (hbinding : ∀ e : Binding.BindingError, P ⟨place.inside .field e.field, .binding e⟩) :
    FailsOnly P (buildHttp s place rule request depth) := by
  unfold buildHttp
  refine .bind (.mapError htemplate) fun t ht => ?_
  rw [forM_checkBinding (mapError_eq_ok.1 ht) le_rfl]
  have hpaths : FailsOnly P
      (t.bindings.forM fun b => checkPath s place b.name request b.fieldPath) :=
    .forM (fun b => hpath b.name b.fieldPath) t.bindings
  refine hpaths.bind fun _ _ => .bind (failsOnly_checkBody rule.body hbody) fun _ _ => ?_
  exact .bind (.mapError hbinding) fun _ _ => .ok _

theorem failsOnly_buildMapped
    (hrequest : ∀ place, FailsOnly P (findMessage s place m.request))
    (hresponse : ∀ place, FailsOnly P (findMessage s place m.response))
    (hhttp : ∀ place rule request, s.message? m.request = some request →
      FailsOnly P (buildHttp s place rule request c.maxDepth))
    (hencode : ∀ (place : Place) name response,
      P ⟨place.inside .field name, .responseFieldMissing name response⟩) :
    FailsOnly P (buildMapped s v m c) := by
  unfold buildMapped
  refine .bind (hrequest _) fun request hfound => ?_
  refine .bind (hresponse _) fun response _ => ?_
  refine .bind ?_ fun http _ => ?_
  · cases m.http with
    | none => exact .ok none
    | some rule =>
      rw [Option.mapM_some]
      exact (hhttp _ rule request (findMessage_eq_ok_iff.1 hfound)).map
  · exact .bind (failsOnly_buildEncode _ fun name => hencode _ name _) fun _ _ => .ok _

end

/-- **What keeps a mapped method from being an operation**: a reference that leads nowhere, a path
that is no template, or a field that cannot be bound. -/
inductive Unbuildable : Issue → Prop
  | unresolved {i : Issue} : i.kind = .unresolvedReference → Unbuildable i
  | template (place : Place) (e : Route.TemplateError) : Unbuildable ⟨place, .template e⟩
  | binding (place : Place) (e : Binding.BindingError) : Unbuildable ⟨place, .binding e⟩

theorem unbuildable_findMessage (place : Place) (name : String) :
    FailsOnly Unbuildable (findMessage s place name) := by
  unfold findMessage
  cases s.message? name with
  | none => exact .error (.unresolved rfl)
  | some x => exact .ok x

theorem unbuildable_checkPath (place : Place) (parameter : String) (message : Message)
    (path : List String) : FailsOnly Unbuildable (checkPath s place parameter message path) := by
  -- each component is looked up in the message of the one before
  induction path generalizing message with
  | nil => exact .ok ()
  | cons component rest ih =>
    unfold checkPath
    cases message.field? component with
    | none => exact .error (.unresolved rfl)
    | some found =>
      refine .bind (.ok found) fun field _ => ?_
      split <;> dsimp only
      · split
        · exact .error (.unresolved rfl)
        · exact .ok ()
      · split
        · exact .bind (unbuildable_findMessage _ _) fun next _ => ih next
        · exact .error (.unresolved rfl)

theorem unbuildable_buildMapped : FailsOnly Unbuildable (buildMapped s v m c) := by
  refine failsOnly_buildMapped (fun place => unbuildable_findMessage place _)
    (fun place => unbuildable_findMessage place _) ?_ fun _ _ _ => .unresolved rfl
  intro place rule request _
  exact failsOnly_buildHttp (fun e => .template _ e)
    (fun parameter path => unbuildable_checkPath place parameter request path)
    (fun _ => .unresolved rfl) fun e => .binding _ e

/-! ## What building looks at -/

section

variable {s' : Schema} {v' : Service}

theorem findMessage_congr (h : s'.message? = s.message?) : findMessage s' = findMessage s := by
  funext place name
  unfold findMessage
  rw [h]

theorem checkPath_congr (h : s'.message? = s.message?) : checkPath s' = checkPath s := by
  funext place parameter message path
  induction path generalizing message with
  | nil => rfl
  | cons component rest ih =>
    unfold checkPath
    simp only [ih, findMessage_congr h]

theorem buildHttp_congr (h : s'.message? = s.message?) : buildHttp s' = buildHttp s := by
  unfold buildHttp checkBinding
  rw [checkPath_congr h]

/-- **What building an operation looks at**: the package of a schema, its messages by name, the name
of the service, and the method itself. -/
theorem build_congr (hpackage : s'.package = s.package) (hmessage : s'.message? = s.message?)
    (hname : v'.name = v.name) : build s' v' m c = build s v m c := by
  have hid : idOf s' v' m = idOf s v m := by
    funext key
    unfold idOf Schema.qualified
    rw [hpackage, hname]
  unfold build buildMapped
  rw [findMessage_congr hmessage, buildHttp_congr hmessage, hid, hname]

end

/-- **Building an operation does not look at the services of a schema**, nor at the other methods
of its own. -/
theorem build_services (services : List Service) (methods : List Method) :
    build { s with services } { v with methods } m c = build s v m c :=
  build_congr rfl rfl rfl

end ServiceContract.Operation
