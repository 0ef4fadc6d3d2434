import ServiceContract.Proofs.Fragment
import ServiceContract.Proofs.Image
import ServiceContract.Proofs.Precedence
import ServiceContract.Proofs.Tables

/-!
# Tag strings of bindings

The tags of a field are written as one text, in the form that fragments have. Tags that come from a
fragment can be written so, since they were read. A tag that is made for a field has the name of the
field on the wire as its value, which may be any text: it is put between quotes as it is.

* `parseFragment_render_eq_ok_iff`: which tags are read back from their text.
* `forall_isPair_iff`: for the tags of a field, only its name on the wire matters.
* `tagStrings_read_iff`: which tag strings are read back, in every result from a document.
* `tagStrings_misread`: some are not.
-/

namespace ServiceContract

namespace Binding

open Schema (Field Message)

variable {ts : List Tag} {f : Field} {l : Location} {m : Message} {ctx : Context} {b : FieldBinding}

/-! ## Tags that are read back -/

theorem isPair_of_parseFragment {text : String} (h : Tag.parseFragment text = .ok ts) :
    ∀ t ∈ ts, t.IsPair := by
  obtain ⟨fragment, hproper, -, rfl⟩ := parseFragment_eq_ok_iff.1 h
  intro t ht
  obtain ⟨p, hp, rfl⟩ := List.mem_map.1 ht
  exact hproper.spaced.pair p hp

/-- **Tags are read back from their text** exactly if each can be written as a pair. -/
theorem parseFragment_render_eq_ok_iff :
    Tag.parseFragment (TagSet.render ⟨ts⟩) = .ok ts ↔ ∀ t ∈ ts, t.IsPair := by
  constructor
  · exact isPair_of_parseFragment
  · intro h
    obtain ⟨pairs, hspaced, htext, rfl⟩ := exists_spaced_render h
    exact parseFragment_eq_ok_iff.2 ⟨⟨[], pairs⟩, ⟨by simp [Blank], hspaced⟩, htext, rfl⟩

/-- A text without quotes and backslashes is a value. -/
theorem isValue_of_not_mem {cs : List Char} (hquote : '"' ∉ cs) (hslash : '\\' ∉ cs) :
    IsValue cs := by
  induction cs with
  | nil => exact .nil
  | cons c cs ih =>
    refine .plain (Ne.symm (List.ne_of_not_mem_cons hquote))
      (Ne.symm (List.ne_of_not_mem_cons hslash)) ?_
    exact ih (List.not_mem_of_not_mem_cons hquote) (List.not_mem_of_not_mem_cons hslash)

/-! ## The tags of a field -/

/-- The tag of a location is made of a key and the name on the wire. Only the body has none. -/
theorem exists_locationTags_eq (f : Schema.Field) (hl : l ≠ .body) :
    ∃ key, locationTags f l = [⟨key, f.wireName⟩] ∧ IsKey key.toList := by
  have hkeys : ∀ key ∈ ["uri", "query", "header", "form"], (Tag.mk key "").IsPair := by decide
  cases l with
  | uri => exact ⟨"uri", rfl, (hkeys _ (by decide)).key⟩
  | query => exact ⟨"query", rfl, (hkeys _ (by decide)).key⟩
  | header => exact ⟨"header", rfl, (hkeys _ (by decide)).key⟩
  | form => exact ⟨"form", rfl, (hkeys _ (by decide)).key⟩
  | body => exact absurd rfl hl

theorem forall_isPair_bodyTags_iff :
    (∀ t ∈ bodyTags f l, t.IsPair) ↔ (l = .body → IsValue f.wireName.toList) := by
  have hjson : IsKey "json".toList := (by decide : (Tag.mk "json" "").IsPair).key
  unfold bodyTags
  split
  · next hbody =>
    rw [List.forall_mem_singleton]
    exact ⟨fun h _ => h.value, fun h => ⟨hjson, h hbody⟩⟩
  · next hbody => simp [hbody]

/-- The tag of a location is there for every field outside the body. -/
theorem forall_isPair_locationTags_iff :
    (∀ t ∈ locationTags f l, t.IsPair) ↔ (l ≠ .body → IsValue f.wireName.toList) := by
  by_cases hbody : l = .body
  · simp [hbody, locationTags]
  · obtain ⟨key, htags, hkey⟩ := exists_locationTags_eq f hbody
    rw [htags, List.forall_mem_singleton]
    exact ⟨fun h _ => h.value, fun h => ⟨hkey, h hbody⟩⟩

theorem forall_isPair_ownTags_iff (h : ownTags f l = .ok ts) :
    (∀ t ∈ ts, t.IsPair) ↔ (f.tag = none → l ≠ .body → IsValue f.wireName.toList) := by
  unfold ownTags at h
  cases htag : f.tag with
  | none =>
    rw [htag] at h
    cases h
    rw [forall_isPair_locationTags_iff]
    exact ⟨fun h _ => h, fun h => h rfl⟩
  | some fragment =>
    rw [htag] at h
    exact iff_of_true (isPair_of_parseFragment h) (by simp)

theorem isPair_of_tagsOr {fragment : Option String} (h : tagsOr [] fragment = .ok ts) :
    ∀ t ∈ ts, t.IsPair := by
  cases fragment with
  | none =>
    cases h
    exact fun t ht => absurd ht List.not_mem_nil
  | some text => exact isPair_of_parseFragment h

/-- **The tags of a field can be written as pairs** exactly if its name on the wire is a value, or no
tag is made of it: a field outside the body that sets its tags itself has none. -/
theorem forall_isPair_iff (h : resolveField m f ctx = .ok b) :
    (∀ t ∈ b.tags.tags, t.IsPair) ↔
      (b.location = .body ∨ f.tag = none → IsValue f.wireName.toList) := by
  obtain ⟨l, source, hlayer⟩ := exists_layer m f ctx
  obtain ⟨-, -, rfl, -, own, further, hown, hfurther, htags, -⟩ :=
    (resolveField_eq_ok_iff_joined hlayer).1 h
  -- the further tags come from a fragment, so the first two groups decide
  rw [htags, List.forall_mem_append, List.forall_mem_append, forall_isPair_bodyTags_iff,
    forall_isPair_ownTags_iff hown, and_iff_left (isPair_of_tagsOr hfurther)]
  by_cases hbody : b.location = .body <;> simp [hbody]

/-- **What is read of the tag string of a field**: its tags, exactly if its name on the wire is a
value, or no tag is made of it. A name without quotes and backslashes is one. -/
structure ReadsBack (f : Document.Field) (b : FieldBinding) : Prop where
  field : b.field = f.name
  wireName : b.wireName = f.jsonName.getD f.name
  read_iff : Tag.parseFragment b.tagString = .ok b.tags.tags ↔
    (b.location = .body ∨ Extension.tag.name ∉ f.extensions.map (·.1) →
      IsValue b.wireName.toList)
  read_of_plain : '"' ∉ b.wireName.toList → '\\' ∉ b.wireName.toList →
    Tag.parseFragment b.tagString = .ok b.tags.tags

theorem readsBack_of_resolveField {n : Schema.Names} {f' : Document.Field}
    (himage : Field.IsImage n f' f) (h : resolveField m f ctx = .ok b) : ReadsBack f' b := by
  have hbinds := (resolveField_eq_ok_iff.1 h).1
  have hread : Tag.parseFragment b.tagString = .ok b.tags.tags ↔
      (b.location = .body ∨ Extension.tag.name ∉ f'.extensions.map (·.1) →
        IsValue b.wireName.toList) := by
    have htag : f.tag = none ↔ Extension.tag.name ∉ f'.extensions.map (·.1) := by
      rw [← Option.not_isSome_iff_eq_none, himage.tag.isSome_iff]
    rw [← htag, hbinds.wireName, ← forall_isPair_iff h]
    exact parseFragment_render_eq_ok_iff
  refine ⟨hbinds.field.trans himage.name, hbinds.wireName.trans himage.wireName, hread, ?_⟩
  intro hquote hslash
  exact hread.2 fun _ => isValue_of_not_mem hquote hslash

end Binding

namespace Bundle

open Binding (Tag ReadsBack)

/-- **Which tag strings are read back.** In a result from a document, every binding is that of a
field of the request, and its tags are read from its tag string exactly if the name of the field on
the wire can stand between quotes, or no tag is made of it. -/
theorem tagStrings_read_iff (d : Document) (s : Schema) (c : Settings) (g : Generation)
    (hload : Schema.load d = .ok s) (hg : generate s c = .ok g) :
    ∀ o ∈ g.bundle.operations, ∀ k, o.decode = some k → ∀ b ∈ k.fields,
      ∃ m ∈ d.messages, m.name = k.request ∧ ∃ f ∈ m.fields, ReadsBack f b := by
  obtain ⟨hissues, rfl⟩ := Schema.load_eq_ok_iff.1 hload
  have himage := Schema.isImage_interpret hissues
  intro o ho k hk b hb
  obtain ⟨request, place, rule, r, hrequest, hhttp⟩ := exists_buildHttp hg ho hk
  obtain ⟨t, fields, -, -, -, hfields, -, rfl⟩ := Operation.buildHttp_eq_ok_iff.1 hhttp
  obtain ⟨f, hf, hbound⟩ :=
    exists_of_forall₂_of_mem (Binding.resolveMessage_eq_ok_iff.1 hfields) hb
  -- the request and its field are those of the document
  obtain ⟨m, hm, hmessage⟩ :=
    exists_of_forall₂_of_mem himage.messages (List.mem_of_find?_eq_some hrequest)
  obtain ⟨f', hf', hfield⟩ := exists_of_forall₂_of_mem hmessage.fields hf
  exact ⟨m, hm, hmessage.name.symm, f', hf', Binding.readsBack_of_resolveField hfield hbound⟩

/-- A document with names on the wire that hold quotes, and one with a blank and a colon. -/
def search : Document where
  package := "demo"
  services := [{
    name := "Search"
    methods := [{
      name := "Find", inputType := "Query", outputType := "Query"
      extensions := [("http", .object [("get", .text "/find")])] }] }]
  messages := [{
    name := "Query"
    fields := [
      { name := "title", number := 1, scalar := some "string", jsonName := some "the \"title\"" },
      { name := "sort", number := 2, scalar := some "string",
        jsonName := some "sort\" form:\"order" },
      { name := "text", number := 3, scalar := some "string", jsonName := some "text in:body" }] }]

theorem tagStrings_read_iff_search : ∃ s g o k b, Schema.load search = .ok s ∧
    generate s {} = .ok g ∧ o ∈ g.bundle.operations ∧ o.decode = some k ∧ b ∈ k.fields ∧
    b.field = "text" ∧ b.tagString = "query:\"text in:body\"" ∧
    Tag.parseFragment b.tagString = .ok b.tags.tags ∧
    ∃ m ∈ search.messages, m.name = k.request ∧ ∃ f ∈ m.fields, ReadsBack f b := by
  refine ⟨_, _, _, _, _, rfl, rfl, List.mem_cons_self, rfl,
    List.mem_cons_of_mem _ (List.mem_cons_of_mem _ List.mem_cons_self), rfl, rfl,
    by decide +kernel, ?_⟩
  exact tagStrings_read_iff search _ {} _ rfl rfl _ List.mem_cons_self _ rfl _
    (List.mem_cons_of_mem _ (List.mem_cons_of_mem _ List.mem_cons_self))

/-- **A tag string may be no fragment, or one of other tags**: a quote in a name on the wire ends the
value there. -/
theorem tagStrings_misread : ∃ s g o k title sort, Schema.load search = .ok s ∧
    generate s {} = .ok g ∧ g.failures = [] ∧ o ∈ g.bundle.operations ∧ o.decode = some k ∧
    title ∈ k.fields ∧ sort ∈ k.fields ∧
    title.tags.tags = [⟨"query", "the \"title\""⟩] ∧
    Tag.parseFragment title.tagString = .error (.missingSeparator "title\"\"") ∧
    sort.tags.tags = [⟨"query", "sort\" form:\"order"⟩] ∧
    Tag.parseFragment sort.tagString = .ok [⟨"query", "sort"⟩, ⟨"form", "order"⟩] := by
  refine ⟨_, _, _, _, _, _, rfl, rfl, rfl, List.mem_cons_self, rfl, List.mem_cons_self,
    List.mem_cons_of_mem _ List.mem_cons_self, rfl, ?_, rfl, ?_⟩
  · decide +kernel
  · decide +kernel

end Bundle

end ServiceContract
