import ServiceContract.Proofs.Coherence
import ServiceContract.Proofs.Image

/-!
# Fields that parameters fill

A parameter fills the field at the end of a path that goes from message to message. Every step of
the path is a lookup by name, so that paths that start alike go through the same messages. Since
a path ends at a field that is no message, no other path goes on from there. Only that last field is
known to be single: a message on the way may be repeated.

* `Walks`: the fields that a path meets.
* `Leads.eq_of_starts`: no path goes on where another ends.
* `parameters_disjoint`: no two parameters of an operation fill one field, or parts of it.
* `parameters_single_iff`: which parameters fill a single value.
* `parameter_not_single`: some parameters do not.
-/

namespace ServiceContract

/-- **No message is repeated inside another**: a field that is labelled so refers to no message. -/
def Document.NestsSingly (d : Document) : Prop :=
  ∀ m ∈ d.messages, ∀ f ∈ m.fields, f.label = some "repeated" →
    f.typeName.bind (Schema.Names.ofDocument d).message? = none

instance (d : Document) : Decidable d.NestsSingly :=
  inferInstanceAs (Decidable (∀ m ∈ d.messages, ∀ f ∈ m.fields, f.label = some "repeated" →
    f.typeName.bind (Schema.Names.ofDocument d).message? = none))

namespace Operation

open Schema (Field Message)

variable {d : Document} {s : Schema} {m : Message} {path path' : List String}
  {fields fields' : List Field}

/-! ## Paths that start alike -/

/-- **No path goes on where another ends**: the one ends at a field that is no message, and the
other would have to go into it. -/
theorem Leads.eq_of_starts (h : Leads s m path) (h' : Leads s m path') (hstarts : path <+: path') :
    path = path' := by
  induction h generalizing path' with
  | @last m name f hf _ hscalar =>
    obtain ⟨rest, rfl⟩ := hstarts
    generalize hpath : [name] ++ rest = path' at h'
    cases h' with
    | last _ _ _ =>
      cases hpath
      rfl
    | into hf' hkind _ _ =>
      cases hpath
      rw [hf] at hf'
      cases hf'
      rw [hkind] at hscalar
      cases hscalar
  | into hf hkind hnext hleads ih =>
    cases h' with
    | last _ _ _ =>
      obtain ⟨-, hnil⟩ := List.cons_prefix_cons.1 hstarts
      exact absurd (List.prefix_nil.1 hnil) hleads.ne_nil
    | into hf' hkind' hnext' hleads' =>
      obtain ⟨rfl, hrest⟩ := List.cons_prefix_cons.1 hstarts
      -- the first field is the same, and so is the message that both paths go into
      rw [hf] at hf'
      cases hf'
      rw [hkind] at hkind'
      cases hkind'
      rw [hnext] at hnext'
      cases hnext'
      rw [ih hleads' hrest]

/-- Of paths none of which goes on in another, at most one is the start of a given path. -/
theorem length_filter_isPrefixOf_le_one {bs : List Route.PathBinding}
    (h : bs.Pairwise fun a b => ¬ a.fieldPath <+: b.fieldPath ∧ ¬ b.fieldPath <+: a.fieldPath)
    (path : List String) : (bs.filter (·.fieldPath.isPrefixOf path)).length ≤ 1 := by
  have hstart : ∀ b ∈ bs.filter (·.fieldPath.isPrefixOf path), b.fieldPath <+: path :=
    fun b hb => List.isPrefixOf_iff_prefix.1 (List.mem_filter.1 hb).2
  have happart := h.filter (·.fieldPath.isPrefixOf path)
  generalize bs.filter (·.fieldPath.isPrefixOf path) = starts at hstart happart ⊢
  cases starts with
  | nil => exact Nat.zero_le 1
  | cons a rest =>
    cases rest with
    | nil => exact Nat.le_refl 1
    | cons b rest =>
      have ha := hstart a List.mem_cons_self
      have hb := hstart b (List.mem_cons_of_mem _ List.mem_cons_self)
      obtain ⟨hab, hba⟩ := (List.pairwise_cons.1 happart).1 b List.mem_cons_self
      rcases List.prefix_or_prefix_of_prefix ha hb with hstarts | hstarts
      · exact absurd hstarts hab
      · exact absurd hstarts hba

/-! ## What a path meets -/

/-- **The fields that a path meets** on its way from a message through messages. -/
inductive Walks (s : Schema) : Message → List String → List Field → Prop
  | last {m : Message} {name : String} {f : Field} :
      m.field? name = some f → Walks s m [name] [f]
  | into {m next : Message} {name target : String} {f : Field} {rest : List String}
      {fields : List Field} :
      m.field? name = some f → f.kind = .message target → s.message? target = some next →
      Walks s next rest fields → Walks s m (name :: rest) (f :: fields)

theorem Walks.ne_nil (h : Walks s m path fields) : path ≠ [] := by
  cases h <;> exact List.cons_ne_nil _ _

/-- A path meets the same fields each time. -/
theorem Walks.unique (h : Walks s m path fields) (h' : Walks s m path fields') :
    fields = fields' := by
  induction h generalizing fields' with
  | last hf =>
    cases h' with
    | last hf' =>
      rw [hf] at hf'
      cases hf'
      rfl
    | into _ _ _ hrest => exact absurd rfl hrest.ne_nil
  | into hf hkind hnext hrest ih =>
    cases h' with
    | last _ => exact absurd rfl hrest.ne_nil
    | into hf' hkind' hnext' hrest' =>
      rw [hf] at hf'
      cases hf'
      rw [hkind] at hkind'
      cases hkind'
      rw [hnext] at hnext'
      cases hnext'
      rw [ih hrest']

theorem Walks.length_eq (h : Walks s m path fields) : fields.length = path.length := by
  induction h with
  | last _ => rfl
  | into _ _ _ _ ih => rw [List.length_cons, List.length_cons, ih]

/-- The fields that a path meets are those of messages of the schema. -/
theorem Walks.exists_mem_fields (h : Walks s m path fields) (hm : m ∈ s.messages) :
    ∀ f ∈ fields, ∃ x ∈ s.messages, f ∈ x.fields := by
  induction h with
  | last hf =>
    exact List.forall_mem_singleton.2 ⟨_, hm, List.mem_of_find?_eq_some hf⟩
  | into hf _ hnext _ ih =>
    refine List.forall_mem_cons.2 ⟨⟨_, hm, List.mem_of_find?_eq_some hf⟩, ?_⟩
    exact ih (List.mem_of_find?_eq_some hnext)

/-- **A path that ends at a single value**: the fields that it meets are messages on the way and, at
the end, a field that is neither a message nor repeated. -/
structure Ends (s : Schema) (m : Message) (path : List String) (way : List Field) (last : Field) :
    Prop where
  walks_iff : ∀ fields, Walks s m path fields ↔ fields = way ++ [last]
  message : ∀ f ∈ way, f.kind.isMessage = true
  scalar : last.kind.isMessage = false
  single : last.repeated = false

theorem Leads.exists_ends (h : Leads s m path) : ∃ way last, Ends s m path way last := by
  suffices hwalks : ∃ way last, Walks s m path (way ++ [last]) ∧
      (∀ f ∈ way, f.kind.isMessage = true) ∧ last.kind.isMessage = false ∧
      last.repeated = false by
    obtain ⟨way, last, hwalks, hmessage, hscalar, hsingle⟩ := hwalks
    refine ⟨way, last, fun fields => ⟨fun h => h.unique hwalks, ?_⟩, hmessage, hscalar, hsingle⟩
    rintro rfl
    exact hwalks
  induction h with
  | last hf hsingle hscalar => exact ⟨[], _, .last hf, by simp, hscalar, hsingle⟩
  | @into m next name target f rest hf hkind hnext _ ih =>
    obtain ⟨way, last, hwalks, hmessage, hlast⟩ := ih
    have hf' : f.kind.isMessage = true := by rw [hkind]; rfl
    exact ⟨f :: way, last, .into hf hkind hnext hwalks,
      List.forall_mem_cons.2 ⟨hf', hmessage⟩, hlast⟩

/-- A field of a message type refers to that message. -/
theorem bind_message?_of_hasKind {n : Schema.Names} {f : Document.Field} {name : String}
    (h : f.HasKind n (.message name)) : f.typeName.bind n.message? = some name := by
  cases h with
  | reference hname htypes =>
    cases htypes with
    | message hresolves =>
      rw [hname, Option.bind_some, Schema.Names.message?_eq_some_iff.2 hresolves]

/-- **A field of a message type is single** where the document repeats no message inside another. -/
theorem repeated_eq_false_of_nestsSingly (himage : Schema.IsImage d s) (hd : d.NestsSingly)
    {f : Field} (hf : ∃ x ∈ s.messages, f ∈ x.fields) (hmessage : f.kind.isMessage = true) :
    f.repeated = false := by
  -- the field is that of the document, with its label and its type
  obtain ⟨x, hx, hf⟩ := hf
  obtain ⟨m, hm, hxm⟩ := exists_of_forall₂_of_mem himage.messages hx
  obtain ⟨f', hf', hfield⟩ := exists_of_forall₂_of_mem hxm.fields hf
  obtain ⟨name, hname⟩ : ∃ name, f.kind = .message name := by
    cases hkind : f.kind with
    | message name => exact ⟨name, rfl⟩
    | scalar type => simp [hkind, Schema.FieldKind.isMessage] at hmessage
    | enum name => simp [hkind, Schema.FieldKind.isMessage] at hmessage
  have hrefers := bind_message?_of_hasKind (hname ▸ hfield.kind)
  have hlabels := hfield.repeated
  generalize hlabel : f'.label = label at hlabels
  generalize f.repeated = repeated at hlabels ⊢
  cases hlabels with
  | absent => rfl
  | optional => rfl
  | required => rfl
  | repeated =>
    rw [hd m hm f' hf' hlabel] at hrefers
    cases hrefers

/-- **What a parameter fills**, in the schema of a document: the field where its path ends. All
fields that the path meets are single exactly if the messages on the way are. They are if the path
is that of a field of the request itself, or if the document repeats no message inside another. -/
structure Fills (d : Document) (s : Schema) (request : Message) (path : List String)
    (way : List Field) (last : Field) : Prop where
  ends : Ends s request path way last
  single_iff : (∀ f ∈ way ++ [last], f.repeated = false) ↔ ∀ f ∈ way, f.repeated = false
  single_of_length : path.length = 1 → ∀ f ∈ way ++ [last], f.repeated = false
  single_of_nestsSingly : d.NestsSingly → ∀ f ∈ way ++ [last], f.repeated = false

theorem fills_of_ends {request : Message} {way : List Field} {last : Field}
    (himage : Schema.IsImage d s) (hrequest : request ∈ s.messages)
    (h : Ends s request path way last) : Fills d s request path way last := by
  have hwalks : Walks s request path (way ++ [last]) := (h.walks_iff _).2 rfl
  have hsingle : (∀ f ∈ way ++ [last], f.repeated = false) ↔ ∀ f ∈ way, f.repeated = false := by
    rw [List.forall_mem_append, List.forall_mem_singleton]
    exact and_iff_left h.single
  refine ⟨h, hsingle, fun hone => ?_, fun hd => hsingle.2 fun f hf => ?_⟩
  · have hlength := hwalks.length_eq
    rw [hone, List.length_append, List.length_singleton] at hlength
    have hway : way = [] := List.eq_nil_of_length_eq_zero (by omega)
    rw [hsingle, hway]
    exact fun f hf => absurd hf List.not_mem_nil
  · have hdeclared := hwalks.exists_mem_fields hrequest f (List.mem_append_left _ hf)
    exact repeated_eq_false_of_nestsSingly himage hd hdeclared (h.message f hf)

end Operation

namespace Bundle

open Operation (Fills Walks)

/-- **Parameters fill different parts of the request.** In every operation of a run that is not
stopped, the field of no parameter is that of another or inside it. So every place in the request
is filled, as a whole or as a part, by one parameter at most. -/
theorem parameters_disjoint (s : Schema) (c : Settings) (g : Generation)
    (h : generate s c = .ok g) : ∀ o ∈ g.bundle.operations, ∀ k, o.decode = some k →
      (k.pathBindings.Pairwise fun a b =>
        ¬ a.fieldPath <+: b.fieldPath ∧ ¬ b.fieldPath <+: a.fieldPath) ∧
      ∀ path, (k.pathBindings.filter (·.fieldPath.isPrefixOf path)).length ≤ 1 := by
  intro o ho k hk
  obtain ⟨request, place, rule, r, -, hhttp⟩ := exists_buildHttp h ho hk
  have hleads := (Operation.fits_of_buildHttp hhttp).leads
  obtain ⟨t, fields, ht, -, -, -, -, rfl⟩ := Operation.buildHttp_eq_ok_iff.1 hhttp
  -- equal paths would give two parameters of one name, and the walks exclude the rest
  have hpaths := (Route.wellFormed_of_parse ht).nodup_fieldPath
  rw [List.nodup_iff_pairwise_ne, List.pairwise_map] at hpaths
  have happart : t.bindings.Pairwise fun a b =>
      ¬ a.fieldPath <+: b.fieldPath ∧ ¬ b.fieldPath <+: a.fieldPath := by
    refine hpaths.imp_of_mem fun {a b} ha hb hne => ⟨fun hstarts => ?_, fun hstarts => ?_⟩
    · exact hne ((hleads a ha).eq_of_starts (hleads b hb) hstarts)
    · exact hne ((hleads b hb).eq_of_starts (hleads a ha) hstarts).symm
  exact ⟨happart, Operation.length_filter_isPrefixOf_le_one happart⟩

/-- A schema with parameters for fields of one message and of a message inside it. -/
def chat : Schema where
  package := "chat"
  services := [⟨"Rooms", [
    ⟨"Read", "Read", "Person",
      some ⟨"GET", "/\x7broom.id\x7d/\x7broom.owner.id\x7d/\x7bpath=**\x7d", .none, .entire⟩, []⟩]⟩]
  messages := [
    ⟨"Person", [⟨"id", "id", 1, .scalar "string", false, none, none, none, none⟩], [], {}⟩,
    ⟨"Room", [
      ⟨"id", "id", 1, .scalar "string", false, none, none, none, none⟩,
      ⟨"owner", "owner", 2, .message "Person", false, none, none, none, none⟩], [], {}⟩,
    ⟨"Read", [
      ⟨"room", "room", 1, .message "Room", false, none, none, none, none⟩,
      ⟨"path", "path", 2, .scalar "string", false, none, none, none, none⟩], [], {}⟩]

theorem parameters_disjoint_chat :
    ∃ g o k, generate chat {} = .ok g ∧ o ∈ g.bundle.operations ∧ o.decode = some k ∧
      k.pathBindings.map (·.fieldPath) = [["room", "id"], ["room", "owner", "id"], ["path"]] ∧
      (k.pathBindings.Pairwise fun a b =>
        ¬ a.fieldPath <+: b.fieldPath ∧ ¬ b.fieldPath <+: a.fieldPath) ∧
      ∀ path, (k.pathBindings.filter (·.fieldPath.isPrefixOf path)).length ≤ 1 :=
  ⟨_, _, _, rfl, List.mem_cons_self, rfl, rfl,
    parameters_disjoint chat {} _ rfl _ List.mem_cons_self _ rfl⟩

/-- **Which parameters fill a single value.** In a result from a document, the path of every
parameter goes through messages to a field that is neither a message nor repeated. So whether it
fills one value depends on the messages on the way. -/
theorem parameters_single_iff (d : Document) (s : Schema) (c : Settings) (g : Generation)
    (hload : Schema.load d = .ok s) (hg : generate s c = .ok g) :
    ∀ o ∈ g.bundle.operations, ∀ k, o.decode = some k → ∀ p ∈ k.pathBindings,
      ∃ request way last, s.message? k.request = some request ∧
        Fills d s request p.fieldPath way last := by
  obtain ⟨hissues, rfl⟩ := Schema.load_eq_ok_iff.1 hload
  have himage := Schema.isImage_interpret hissues
  intro o ho k hk p hp
  obtain ⟨request, place, rule, r, hrequest, hhttp⟩ := exists_buildHttp hg ho hk
  obtain ⟨way, last, hends⟩ := ((Operation.fits_of_buildHttp hhttp).leads p hp).exists_ends
  exact ⟨request, way, last, hrequest,
    Operation.fills_of_ends himage (List.mem_of_find?_eq_some hrequest) hends⟩

/-- A document with a parameter for a field of the items of an order. The label of the items says
how many there are. -/
def warehouse (label : Option String) : Document where
  package := "demo"
  services := [{
    name := "Orders"
    methods := [{
      name := "GetItem", inputType := "Order", outputType := "Order"
      extensions := [("http", .object [("get", .text "/items/\x7bitems.sku\x7d")])] }] }]
  messages := [
    { name := "Item"
      fields := [{ name := "sku", number := 1, scalar := some "string" }] },
    { name := "Order"
      fields := [
        { name := "items", number := 1, typeName := some "Item", label },
        { name := "notes", number := 2, scalar := some "string", label := some "repeated" }] }]

theorem parameters_single_iff_warehouse : ∃ s g o k p, Schema.load (warehouse none) = .ok s ∧
    generate s {} = .ok g ∧ o ∈ g.bundle.operations ∧ o.decode = some k ∧ p ∈ k.pathBindings ∧
    p.fieldPath = ["items", "sku"] ∧ (warehouse none).NestsSingly ∧
    ∃ request way last, s.message? k.request = some request ∧
      Fills (warehouse none) s request p.fieldPath way last := by
  refine ⟨_, _, _, _, _, rfl, rfl, List.mem_cons_self, rfl, List.mem_cons_self, rfl, by decide, ?_⟩
  exact parameters_single_iff (warehouse none) _ {} _ rfl rfl _ List.mem_cons_self _ rfl _
    List.mem_cons_self

/-- **A parameter may fill a field of a message that is repeated**: nothing says in which of many. -/
theorem parameter_not_single : ∃ s g o k p request items sku,
    Schema.load (warehouse (some "repeated")) = .ok s ∧ generate s {} = .ok g ∧
    g.failures = [] ∧ o ∈ g.bundle.operations ∧ o.decode = some k ∧ p ∈ k.pathBindings ∧
    p.fieldPath = ["items", "sku"] ∧ s.message? k.request = some request ∧
    Walks s request p.fieldPath [items, sku] ∧ items.repeated = true :=
  ⟨_, _, _, _, _, _, _, _, rfl, rfl, rfl, List.mem_cons_self, rfl, List.mem_cons_self, rfl, rfl,
    .into rfl rfl rfl (.last rfl), rfl⟩

end Bundle

end ServiceContract
