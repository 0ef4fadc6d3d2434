import ServiceContract.Proofs.Before
import ServiceContract.Proofs.Template

/-!
# Segments and bindings of templates

A template that is read has segments for the router and bindings for the request. Literals,
parameters of a single segment and those inside a sub-path all add to both; whatever the way, the
two lists say the same in the end.

* `map_segment_bindings`, `catchAll?_eq_some_iff`: what the segments of a template bind.
* `Template.WellFormed`: what holds of the segments and the bindings together.
* `wellFormed_of_parse`: it holds of every template that is read.
* `segments_bound`: so every parameter is found by its name, and the one for the rest of the path at
  the end.
-/

namespace ServiceContract.Route

/-! ## What a template binds -/

variable {depth : Nat}

/-- Whether a segment matches nothing but itself. -/
def Segment.isLiteral : Segment → Bool
  | .literal _ => true
  | _ => false

theorem PathBinding.isLiteral_segment (b : PathBinding) : b.segment.isLiteral = false := by
  unfold segment
  cases b.catchAll <;> rfl

theorem filter_partSegment (path : List String) (parts : List (List Char)) :
    (parts.map (partSegment path)).filter (!·.isLiteral) =
      (parts.filterMap (partBinding? path)).map PathBinding.segment := by
  induction parts with
  | nil => rfl
  | cons part rest ih =>
    rw [List.map_cons]
    cases hb : partBinding? path part with
    | none =>
      have hsegment : partSegment path part = .literal (String.ofList part) := by
        rw [partSegment, hb]
      rw [hsegment, List.filterMap_cons_none hb,
        List.filter_cons_of_neg (by simp [Segment.isLiteral]), ih]
    | some b =>
      have hsegment : partSegment path part = b.segment := by rw [partSegment, hb]
      rw [hsegment, List.filterMap_cons_some hb,
        List.filter_cons_of_pos (by simp [b.isLiteral_segment]), List.map_cons, ih]

theorem Item.filter_segments (item : Item) :
    item.segments.filter (!·.isLiteral) = item.bindings.map PathBinding.segment := by
  cases item with
  | literal text => rfl
  | placeholder path parts => exact filter_partSegment path parts

variable {template : String} {t : Template}

/-- **The bindings of a template are its segments without the literals.** -/
theorem map_segment_bindings (h : Template.parse template depth = .ok t) :
    t.bindings.map PathBinding.segment = t.segments.filter (!·.isLiteral) := by
  obtain ⟨raws, items, -, -, rfl⟩ := parse_eq_ok_iff.1 h
  simp only
  rw [List.filter_flatMap, List.map_flatMap]
  apply List.flatMap_congr
  intro item _
  exact item.filter_segments.symm

theorem Item.Reads.isReference {raw : List Char} {item : Item} (h : Reads depth raw item)
    {b : PathBinding} (hb : b ∈ item.bindings) :
    ∃ text, IsReference depth text b.fieldPath := by
  cases h with
  | literal _ => cases hb
  | placeholder _ hplace =>
    obtain ⟨part, -, hpart⟩ := List.mem_filterMap.1 hb
    obtain ⟨catchAll, -, rfl⟩ := Option.map_eq_some_iff.1 hpart
    cases hplace with
    | field _ href => exact ⟨_, href⟩
    | subPath _ href _ => exact ⟨_, href⟩

/-- A binding names a field by a reference of the grammar. -/
theorem exists_isReference (h : Template.parse template depth = .ok t) {b : PathBinding}
    (hb : b ∈ t.bindings) : ∃ text, IsReference depth text b.fieldPath := by
  obtain ⟨raws, items, -, hsays, rfl⟩ := parse_eq_ok_iff.1 h
  obtain ⟨item, hitem, hb⟩ := List.mem_flatMap.1 hb
  obtain ⟨raw, -, hreads⟩ := exists_of_forall₂_of_mem hsays.reads hitem
  exact hreads.isReference hb

/-- The parameter of a binding is named after its field. -/
theorem name_of_mem_bindings (h : Template.parse template depth = .ok t) {b : PathBinding}
    (hb : b ∈ t.bindings) : b.name = "_".intercalate b.fieldPath := by
  obtain ⟨raws, items, -, -, rfl⟩ := parse_eq_ok_iff.1 h
  obtain ⟨item, -, hb⟩ := List.mem_flatMap.1 hb
  cases item with
  | literal text => cases hb
  | placeholder path parts =>
    obtain ⟨part, -, hpart⟩ := List.mem_filterMap.1 hb
    obtain ⟨catchAll, -, rfl⟩ := Option.map_eq_some_iff.1 hpart
    rfl

/-- The parameter of a binding is a segment. -/
theorem segment_mem_segments (h : Template.parse template depth = .ok t) {b : PathBinding}
    (hb : b ∈ t.bindings) : b.segment ∈ t.segments := by
  have hmem : b.segment ∈ t.bindings.map PathBinding.segment := List.mem_map_of_mem hb
  rw [map_segment_bindings h] at hmem
  exact List.mem_of_mem_filter hmem

theorem mem_topLevelFields {name : String} :
    name ∈ t.topLevelFields ↔ ∃ b ∈ t.bindings, b.fieldPath = [name] := by
  unfold Template.topLevelFields
  rw [List.mem_flatMap]
  refine exists_congr fun b => and_congr_right fun _ => ?_
  unfold PathBinding.isTopLevel
  constructor
  · intro h
    split at h
    · next hone =>
      obtain ⟨only, honly⟩ := List.length_eq_one_iff.1 (eq_of_beq hone)
      rw [honly, List.mem_singleton] at h
      rw [honly, h]
    · cases h
  · intro h
    simp [h]

theorem PathBinding.segment_eq_catchAll_iff {b : PathBinding} {name : String} :
    b.segment = .catchAll name ↔ b.catchAll = true ∧ b.name = name := by
  unfold PathBinding.segment
  cases b.catchAll <;> simp

/-! ## What segments and bindings say together -/

/-- **Segments and bindings that fit**:

* only the last segment may take the rest of the path;
* literals are those of the grammar;
* the bindings are the other segments, in order;
* a binding fills a field of at most `depth` parts, all identifiers, and is named after it;
* all parameters differ. -/
structure Template.WellFormed (depth : Nat) (t : Template) : Prop where
  catchAll : ∀ x ∈ t.segments.dropLast, x.isCatchAll = false
  literal : ∀ text, Segment.literal text ∈ t.segments → IsLiteral text.toList
  bindings : t.bindings.map PathBinding.segment = t.segments.filter (!·.isLiteral)
  fieldPath_pos : ∀ b ∈ t.bindings, 1 ≤ b.fieldPath.length
  fieldPath_le : ∀ b ∈ t.bindings, b.fieldPath.length ≤ depth
  identifier : ∀ b ∈ t.bindings, ∀ part ∈ b.fieldPath, Text.isIdentifier part.toList = true
  name : ∀ b ∈ t.bindings, b.name = "_".intercalate b.fieldPath
  names : (t.bindings.map (·.name)).Nodup

/-- A part that is a literal segment is a literal of the grammar. -/
theorem isLiteral_of_partSegment_eq {path : List String} {part : List Char} {text : String}
    (h : IsPart part) (heq : partSegment path part = .literal text) : IsLiteral text.toList := by
  unfold partSegment at heq
  split at heq
  · next b _ =>
    have hnot := b.isLiteral_segment
    rw [heq] at hnot
    cases hnot
  · next hnone =>
    cases heq
    obtain ⟨hone, hall⟩ := Progress.wildcard?_eq_none_iff.1 (Option.map_eq_none_iff.1 hnone)
    rw [String.toList_ofList]
    exact (h.resolve_left hone).resolve_left hall

theorem Item.Reads.isLiteral {raw : List Char} {item : Item} (h : Reads depth raw item)
    {text : String} (hmem : Segment.literal text ∈ item.segments) : IsLiteral text.toList := by
  cases h with
  | literal hlit =>
    cases List.mem_singleton.1 hmem
    rwa [String.toList_ofList]
  | placeholder _ hplace =>
    obtain ⟨part, hpart, heq⟩ := List.mem_map.1 hmem
    exact isLiteral_of_partSegment_eq (hplace.isPart part hpart) heq

/-- An item that does not match the rest of a path has no segment that does. -/
theorem Item.isCatchAll_of_mem {item : Item} (h : item.catchesAll = false) {x : Segment}
    (hx : x ∈ item.segments) : x.isCatchAll = false := by
  cases item with
  | literal text =>
    cases List.mem_singleton.1 hx
    rfl
  | placeholder path parts =>
    obtain ⟨part, hpart, rfl⟩ := List.mem_map.1 hx
    rw [isCatchAll_partSegment, decide_eq_false_iff_not]
    rintro rfl
    rw [catchesAll, List.contains_eq_mem, decide_eq_false_iff_not] at h
    exact h hpart

/-- Inside an item only the last segment may match the rest of a path. -/
theorem Item.Reads.isCatchAll_dropLast {raw : List Char} {item : Item} (h : Reads depth raw item)
    {x : Segment} (hx : x ∈ item.segments.dropLast) : x.isCatchAll = false := by
  cases h with
  | literal _ => cases hx
  | @placeholder inner path parts _ hplace =>
    rw [segments, ← List.map_dropLast] at hx
    obtain ⟨part, hpart, rfl⟩ := List.mem_map.1 hx
    rw [isCatchAll_partSegment, decide_eq_false_iff_not]
    exact hplace.catchAll part hpart

/-- Only the last segment of all may match the rest of a path: it belongs to the last item, and is
the last one there. -/
theorem Says.isCatchAll_dropLast {raws : List (List Char)} {items : List Item}
    (h : Says depth raws items) :
    ∀ x ∈ (items.flatMap Item.segments).dropLast, x.isCatchAll = false := by
  rcases items.eq_nil_or_concat' with rfl | ⟨init, last, rfl⟩
  · exact fun x hx => absurd hx List.not_mem_nil
  · obtain ⟨raw, -, hlast⟩ := exists_of_forall₂_of_mem h.reads List.mem_concat_self
    rw [List.flatMap_append, List.flatMap_singleton,
      List.dropLast_append_of_ne_nil hlast.segments_ne_nil, List.forall_mem_append]
    constructor
    · intro x hx
      obtain ⟨item, hitem, hx⟩ := List.mem_flatMap.1 hx
      exact Item.isCatchAll_of_mem (h.catchAll item (by rwa [List.dropLast_concat])) hx
    · exact fun x hx => hlast.isCatchAll_dropLast hx

/-- **The segments and bindings of every template that is read fit.** -/
theorem wellFormed_of_parse (h : Template.parse template depth = .ok t) : t.WellFormed depth := by
  have hbindings := map_segment_bindings h
  have href : ∀ b ∈ t.bindings, ∃ text, IsReference depth text b.fieldPath :=
    fun b hb => exists_isReference h hb
  have hname : ∀ b ∈ t.bindings, b.name = "_".intercalate b.fieldPath :=
    fun b hb => name_of_mem_bindings h hb
  obtain ⟨raws, items, -, hsays, rfl⟩ := parse_eq_ok_iff.1 h
  refine ⟨Says.isCatchAll_dropLast hsays, ?_, hbindings, ?_, ?_, ?_, hname, ?_⟩
  · intro text htext
    obtain ⟨item, hitem, htext⟩ := List.mem_flatMap.1 htext
    obtain ⟨raw, -, hreads⟩ := exists_of_forall₂_of_mem hsays.reads hitem
    exact hreads.isLiteral htext
  · intro b hb
    obtain ⟨text, hb⟩ := href b hb
    exact List.length_pos_iff.2 hb.ne_nil
  · intro b hb
    obtain ⟨text, hb⟩ := href b hb
    exact hb.length_le
  · intro b hb
    obtain ⟨text, hb⟩ := href b hb
    exact hb.identifier
  · have hnames := map_name_bindings_ofItems hsays.reads
    exact hnames ▸ hsays.names

namespace Template.WellFormed

/-- A segment that is no literal is that of a parameter. -/
theorem exists_segment_eq (h : t.WellFormed depth) {x : Segment} (hx : x ∈ t.segments)
    (hlit : x.isLiteral = false) : ∃ b ∈ t.bindings, b.segment = x := by
  have hmem : x ∈ t.segments.filter (!·.isLiteral) := List.mem_filter.2 ⟨hx, by simp [hlit]⟩
  rw [← h.bindings] at hmem
  exact List.mem_map.1 hmem

/-- At most one segment takes the rest of the path. -/
theorem countP_isCatchAll (h : t.WellFormed depth) :
    t.segments.countP Segment.isCatchAll ≤ 1 := by
  rcases t.segments.eq_nil_or_concat' with hnil | ⟨init, last, hconcat⟩
  · rw [hnil]
    exact Nat.zero_le 1
  · have hinit := h.catchAll
    rw [hconcat, List.dropLast_concat] at hinit
    have hzero : init.countP Segment.isCatchAll = 0 :=
      List.countP_eq_zero.2 fun x hx => by simp [hinit x hx]
    rw [hconcat, List.countP_append, hzero, Nat.zero_add]
    exact List.countP_le_length

/-- **A parameter is found by its name**, since all names differ. -/
theorem binding?_eq_some_iff (h : t.WellFormed depth) {name : String} {b : PathBinding} :
    t.binding? name = some b ↔ b ∈ t.bindings ∧ b.name = name :=
  find?_eq_some_iff_of_nodup h.names

/-- Fields of one path would give parameters of one name. -/
theorem nodup_fieldPath (h : t.WellFormed depth) : (t.bindings.map (·.fieldPath)).Nodup := by
  have hnames : t.bindings.map (·.name) =
      (t.bindings.map (·.fieldPath)).map ("_".intercalate ·) := by
    rw [List.map_map]
    exact List.map_congr_left h.name
  exact (hnames ▸ h.names).of_map

/-- A segment takes the rest of the path exactly if its binding does. -/
theorem catchAll_mem_segments_iff (h : t.WellFormed depth) {name : String} :
    Segment.catchAll name ∈ t.segments ↔
      ∃ b ∈ t.bindings, b.catchAll = true ∧ b.name = name := by
  have hkeep : Segment.catchAll name ∈ t.segments.filter (!·.isLiteral) ↔
      Segment.catchAll name ∈ t.segments := by
    rw [List.mem_filter]
    exact and_iff_left rfl
  rw [← hkeep, ← h.bindings, List.mem_map]
  simp only [PathBinding.segment_eq_catchAll_iff]

/-- A segment that takes the rest of the path is the last one. -/
theorem catchAll_mem_segments_iff_getLast? (h : t.WellFormed depth) {name : String} :
    Segment.catchAll name ∈ t.segments ↔ t.segments.getLast? = some (.catchAll name) := by
  constructor
  · intro hmem
    rcases t.segments.eq_nil_or_concat' with hnil | ⟨init, last, hconcat⟩
    · rw [hnil] at hmem
      cases hmem
    · have hinit := h.catchAll
      rw [hconcat, List.dropLast_concat] at hinit
      rw [hconcat, List.mem_append, List.mem_singleton] at hmem
      rw [hconcat, List.getLast?_concat]
      rcases hmem with hmem | rfl
      · cases hinit _ hmem
      · rfl
  · exact List.mem_of_getLast?

/-- A binding takes the rest of the path exactly if the last segment is its own and does so. -/
theorem catchAll_iff_getLast? (h : t.WellFormed depth) {b : PathBinding} (hb : b ∈ t.bindings) :
    b.catchAll = true ↔ t.segments.getLast? = some (.catchAll b.name) := by
  rw [← h.catchAll_mem_segments_iff_getLast?, h.catchAll_mem_segments_iff]
  constructor
  · intro hbc
    exact ⟨b, hb, hbc, rfl⟩
  · rintro ⟨a, ha, hac, hname⟩
    rwa [← List.inj_on_of_nodup_map h.names ha hb hname]

/-- At most one binding takes the rest of the path: two would both be that of the last segment. -/
theorem eq_of_catchAll (h : t.WellFormed depth) {a b : PathBinding} (ha : a ∈ t.bindings)
    (hb : b ∈ t.bindings) (hac : a.catchAll = true) (hbc : b.catchAll = true) : a = b := by
  have hlast := (h.catchAll_iff_getLast? ha).1 hac
  rw [(h.catchAll_iff_getLast? hb).1 hbc] at hlast
  have hname : b.name = a.name := Segment.catchAll.inj (Option.some.inj hlast)
  exact List.inj_on_of_nodup_map h.names ha hb hname.symm

/-- **The binding for the rest of the path** is that of the segment that takes it. -/
theorem catchAll?_eq_some_iff (h : t.WellFormed depth) {b : PathBinding} :
    t.catchAll? = some b ↔ b ∈ t.bindings ∧ b.catchAll = true :=
  find?_eq_some_iff_of_unique fun _ ha _ hb => h.eq_of_catchAll ha hb

end Template.WellFormed

theorem catchAll?_eq_some_iff (h : Template.parse template depth = .ok t) {name : String} :
    t.catchAll?.map (·.name) = some name ↔ Segment.catchAll name ∈ t.segments := by
  have hform := wellFormed_of_parse h
  rw [hform.catchAll_mem_segments_iff, Option.map_eq_some_iff]
  simp only [hform.catchAll?_eq_some_iff, and_assoc]

/-- **Segments and bindings of a template that is read fit**, so that

* at most one segment takes the rest of the path;
* every parameter is found by its name, and it alone;
* the binding for the rest of the path is that of the last segment, where this takes the rest;
* no two parameters fill one field. -/
theorem segments_bound (template : String) (depth : Nat) (t : Template)
    (h : Template.parse template depth = .ok t) :
    t.WellFormed depth ∧
    t.segments.countP Segment.isCatchAll ≤ 1 ∧
    (∀ name b, t.binding? name = some b ↔ b ∈ t.bindings ∧ b.name = name) ∧
    (∀ b, t.catchAll? = some b ↔
      b ∈ t.bindings ∧ t.segments.getLast? = some (.catchAll b.name)) ∧
    (t.catchAll?.isSome = true ↔ ∃ name, t.segments.getLast? = some (.catchAll name)) ∧
    (t.bindings.map (·.fieldPath)).Nodup := by
  have hform := wellFormed_of_parse h
  have hcatchAll : ∀ b, t.catchAll? = some b ↔
      b ∈ t.bindings ∧ t.segments.getLast? = some (.catchAll b.name) := by
    intro b
    rw [hform.catchAll?_eq_some_iff]
    exact and_congr_right fun hb => hform.catchAll_iff_getLast? hb
  refine ⟨hform, hform.countP_isCatchAll, fun name b => hform.binding?_eq_some_iff, hcatchAll, ?_,
    hform.nodup_fieldPath⟩
  rw [Option.isSome_iff_exists]
  constructor
  · rintro ⟨b, hb⟩
    exact ⟨b.name, ((hcatchAll b).1 hb).2⟩
  · rintro ⟨name, hlast⟩
    have hmem := hform.catchAll_mem_segments_iff_getLast?.2 hlast
    obtain ⟨b, hb, hbc, -⟩ := hform.catchAll_mem_segments_iff.1 hmem
    exact ⟨b, hform.catchAll?_eq_some_iff.2 ⟨hb, hbc⟩⟩

/-- A template with a literal inside a sub-path, a nested field and a parameter for the rest. -/
def archive : String := "/files/\x7b user.id = x/* \x7d/\x7bpath=**\x7d"

theorem segments_bound_archive :
    ∃ t, Template.parse archive 2 = .ok t ∧
      t.segments = [.literal "files", .literal "x", .dynamic "user_id", .catchAll "path"] ∧
      t.WellFormed 2 ∧
      t.binding? "user_id" = some ⟨"user_id", ["user", "id"], false⟩ ∧
      t.catchAll? = some ⟨"path", ["path"], true⟩ ∧
      (t.bindings.map (·.fieldPath)).Nodup := by
  obtain ⟨hform, -, hbinding, hcatchAll, -, hpaths⟩ := segments_bound archive 2 _ rfl
  refine ⟨_, rfl, rfl, hform, (hbinding _ _).2 ?_, (hcatchAll _).2 ?_, hpaths⟩
  · exact ⟨List.mem_cons_self, rfl⟩
  · exact ⟨List.mem_cons_of_mem _ List.mem_cons_self, rfl⟩

end ServiceContract.Route
