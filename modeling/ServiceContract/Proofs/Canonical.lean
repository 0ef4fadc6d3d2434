import ServiceContract.Proofs.Shape

/-!
# Templates without sub-paths

A literal or a parameter of a template may be a segment of its own or stand inside a sub-path. The
canonical form of a template writes every one as a segment of its own. It says the same as the
template, whatever the way its segments came about, and is the same for all templates that do.

* `Written`: how a segment is written on its own.
* `Template.canonical`: the canonical form of a template.
* `Template.WellFormed.parse_canonical`: it is read as the same segments and bindings.
* `canonical_form`: every template that is read has one, and it is its own.
-/

namespace ServiceContract.Route

/-- **A segment written on its own**, given the parameters of the template: a literal as it is, and
a parameter as a placeholder for its field, with `**` where it takes the rest of the path. -/
inductive Written (bindings : List PathBinding) : Segment → List Char → Prop
  | literal {text : String} : IsLiteral text.toList → Written bindings (.literal text) text.toList
  | dynamic {b : PathBinding} : b ∈ bindings → b.catchAll = false →
      Written bindings (.dynamic b.name)
        ('\x7b' :: ((".".intercalate b.fieldPath).toList ++ ['\x7d']))
  | catchAll {b : PathBinding} : b ∈ bindings → b.catchAll = true →
      Written bindings (.catchAll b.name)
        ('\x7b' :: ((".".intercalate b.fieldPath).toList ++ ['=', '*', '*'] ++ ['\x7d']))

namespace Template

/-- The field that a parameter fills. -/
def fieldOf (t : Template) (name : String) : List String :=
  ((t.binding? name).map (·.fieldPath)).getD []

/-- A segment as it is written on its own. -/
def write (t : Template) : Segment → String
  | .literal text => text
  | .dynamic name => "\x7b" ++ ".".intercalate (t.fieldOf name) ++ "\x7d"
  | .catchAll name => "\x7b" ++ ".".intercalate (t.fieldOf name) ++ "=**\x7d"

/-- **The canonical form of a template**: each of its segments written on its own. -/
def canonical (t : Template) : String := joinSegments t.write t.segments

/-- What a segment says when it is written on its own. -/
def item (t : Template) : Segment → Item
  | .literal text => .literal text.toList
  | .dynamic name => .placeholder (t.fieldOf name) [['*']]
  | .catchAll name => .placeholder (t.fieldOf name) [['*', '*']]

/-- Only the segments and the bindings of a template count for its canonical form. -/
theorem canonical_congr {t u : Template} (hsegments : u.segments = t.segments)
    (hbindings : u.bindings = t.bindings) : u.canonical = t.canonical := by
  have hfield : u.fieldOf = t.fieldOf := by
    funext name
    unfold fieldOf binding?
    rw [hbindings]
  have hwrite : u.write = t.write := by
    funext x
    cases x <;> simp only [write, hfield]
  unfold canonical
  rw [hwrite, hsegments]

theorem catchesAll_item (t : Template) (x : Segment) : (t.item x).catchesAll = x.isCatchAll := by
  cases x <;> rfl

/-- Literals bind nothing. -/
theorem flatMap_bindings_eq (t : Template) (xs : List Segment) :
    (xs.flatMap fun x => (t.item x).bindings) =
      (xs.filter (!·.isLiteral)).flatMap fun x => (t.item x).bindings := by
  induction xs with
  | nil => rfl
  | cons x xs ih =>
    rw [List.flatMap_cons, ih]
    cases x <;> rfl

/-- The canonical form is its segments, as they are written on their own, after a slash each. -/
theorem toList_canonical (t : Template) :
    t.canonical.toList = '/' :: ['/'].intercalate (t.segments.map fun x => (t.write x).toList) := by
  unfold canonical
  cases hxs : t.segments with
  | nil => simp [joinSegments]
  | cons x xs =>
    rw [toList_joinSegments_of_ne_nil _ (List.cons_ne_nil x xs), List.map_cons,
      Text.cons_intercalate, ← List.map_cons (f := fun x => (t.write x).toList), List.flatMap_map]

end Template

/-! ## Placeholders for a field -/

variable {depth : Nat} {text : List Char} {path : List String}

theorem IsReference.isIdentifierChar_of_mem (h : IsReference depth text path) {c : Char}
    (hc : c ∈ text) : c = '.' ∨ Text.isIdentifierChar c = true := by
  rw [h.joined, String.toList_intercalate] at hc
  obtain hdot | ⟨p, hp, hc⟩ := Text.mem_of_mem_intercalate hc
  · exact .inl hdot
  · obtain ⟨part, hpart, rfl⟩ := List.mem_map.1 hp
    exact .inr (Text.isIdentifierChar_of_mem (h.identifier part hpart) hc)

/-- There is nothing to trim about a reference. -/
theorem IsReference.trim_eq (h : IsReference depth text path) : Text.trim text = text := by
  apply Text.trim_of_not_blank
  intro c hc
  rcases h.isIdentifierChar_of_mem hc with rfl | hc
  · decide
  · exact Text.isBlank_of_isIdentifierChar hc

theorem IsReference.equals_not_mem (h : IsReference depth text path) : '=' ∉ text := by
  intro hmem
  rcases h.isIdentifierChar_of_mem hmem with heq | hc
  · exact absurd heq (by decide)
  · exact absurd hc (by decide)

theorem IsReference.isPlaceholder (h : IsReference depth text path) :
    IsPlaceholder depth text path [['*']] :=
  .field h.equals_not_mem (h.trim_eq.symm ▸ h)

theorem IsReference.isPlaceholder_catchAll (h : IsReference depth text path) :
    IsPlaceholder depth (text ++ ['=', '*', '*']) path [['*', '*']] := by
  have hsub : IsSubPath (Text.trim ['*', '*']) [['*', '*']] :=
    ⟨by decide, List.forall_mem_singleton.2 (.inr (.inl rfl)), by decide, by simp, rfl⟩
  exact .subPath h.equals_not_mem (h.trim_eq.symm ▸ h) hsub

theorem Item.Reads.of_isPlaceholder {parts : List (List Char)}
    (h : IsPlaceholder depth text path parts) :
    Item.Reads depth ('\x7b' :: (text ++ ['\x7d'])) (.placeholder path parts) :=
  .placeholder h.braceFree h

/-! ## Segments on their own -/

namespace Template.WellFormed

variable {t : Template} {x : Segment} {raw : List Char} {b : PathBinding}

theorem fieldOf_name (h : t.WellFormed depth) (hb : b ∈ t.bindings) :
    t.fieldOf b.name = b.fieldPath := by
  unfold fieldOf
  rw [h.binding?_eq_some_iff.2 ⟨hb, rfl⟩]
  rfl

theorem isReference (h : t.WellFormed depth) (hb : b ∈ t.bindings) :
    IsReference depth (".".intercalate b.fieldPath).toList b.fieldPath :=
  ⟨List.length_pos_iff.1 (h.fieldPath_pos b hb), h.fieldPath_le b hb, h.identifier b hb, rfl⟩

/-- **The segments of a template are written on their own.** -/
theorem written_write (h : t.WellFormed depth) (hx : x ∈ t.segments) :
    Written t.bindings x (t.write x).toList := by
  by_cases hlit : x.isLiteral = true
  · cases x with
    | literal text => exact .literal (h.literal text hx)
    | dynamic name => cases hlit
    | catchAll name => cases hlit
  · obtain ⟨b, hb, rfl⟩ := h.exists_segment_eq hx (by simpa using hlit)
    have hfield := h.fieldOf_name hb
    cases hcatch : b.catchAll with
    | false =>
      have hwritten := Written.dynamic hb hcatch
      simpa [PathBinding.segment, hcatch, write, hfield] using hwritten
    | true =>
      have hwritten := Written.catchAll hb hcatch
      simpa [PathBinding.segment, hcatch, write, hfield] using hwritten

theorem reads_of_written (h : t.WellFormed depth) (hw : Written t.bindings x raw) :
    Item.Reads depth raw (t.item x) := by
  cases hw with
  | literal hlit => exact .literal hlit
  | dynamic hb _ =>
    rw [item, h.fieldOf_name hb]
    exact .of_isPlaceholder (h.isReference hb).isPlaceholder
  | catchAll hb _ =>
    rw [item, h.fieldOf_name hb]
    exact .of_isPlaceholder (h.isReference hb).isPlaceholder_catchAll

theorem segments_item (h : t.WellFormed depth) (hw : Written t.bindings x raw) :
    (t.item x).segments = [x] := by
  cases hw with
  | @literal text _ => rw [item, Item.segments, String.ofList_toList]
  | dynamic hb _ =>
    rw [item, h.fieldOf_name hb, h.name _ hb]
    rfl
  | catchAll hb _ =>
    rw [item, h.fieldOf_name hb, h.name _ hb]
    rfl

/-- A parameter written on its own gives its binding back. -/
theorem bindings_item (h : t.WellFormed depth) (hb : b ∈ t.bindings) :
    (t.item b.segment).bindings = [b] := by
  -- a parameter is named after its field, so its binding is made of the field alone
  have hback : PathBinding.ofField b.fieldPath b.catchAll = b := by
    unfold PathBinding.ofField
    rw [← h.name b hb]
  unfold PathBinding.segment
  cases hcatch : b.catchAll with
  | false =>
    rw [if_neg Bool.false_ne_true, item, h.fieldOf_name hb, ← hback, hcatch]
    rfl
  | true =>
    rw [if_pos rfl, item, h.fieldOf_name hb, ← hback, hcatch]
    rfl

/-- **The bindings of the segments**, each written on its own, are those of the template. -/
theorem flatMap_bindings_item (h : t.WellFormed depth) :
    (t.segments.map t.item).flatMap Item.bindings = t.bindings := by
  calc
    _ = t.segments.flatMap fun x => (t.item x).bindings := List.flatMap_map ..
    _ = (t.segments.filter (!·.isLiteral)).flatMap fun x => (t.item x).bindings :=
      t.flatMap_bindings_eq t.segments
    _ = t.bindings.flatMap fun b => (t.item b.segment).bindings := by
      rw [← h.bindings, List.flatMap_map]
    _ = t.bindings.flatMap fun b => [b] := List.flatMap_congr fun b hb => h.bindings_item hb
    _ = t.bindings := List.flatMap_singleton' t.bindings

theorem flatMap_segments_item (h : t.WellFormed depth) :
    (t.segments.map t.item).flatMap Item.segments = t.segments := by
  rw [List.flatMap_map]
  calc
    _ = t.segments.flatMap fun x => [x] :=
      List.flatMap_congr fun x hx => h.segments_item (h.written_write hx)
    _ = t.segments := List.flatMap_singleton' t.segments

/-- The segments, each written on its own, are the items of a template again. -/
theorem says_item (h : t.WellFormed depth) :
    Says depth (t.segments.map fun x => (t.write x).toList) (t.segments.map t.item) := by
  have hreads : List.Forall₂ (Item.Reads depth) (t.segments.map fun x => (t.write x).toList)
      (t.segments.map t.item) := by
    rw [List.forall₂_map_left_iff, List.forall₂_map_right_iff, List.forall₂_same]
    exact fun x hx => h.reads_of_written (h.written_write hx)
  refine ⟨hreads, ?_, ?_⟩
  · intro item hitem
    rw [← List.map_dropLast] at hitem
    obtain ⟨x, hx, rfl⟩ := List.mem_map.1 hitem
    rw [catchesAll_item]
    exact h.catchAll x hx
  · -- the parameters are those of the template, and so they still differ
    rw [← map_name_bindings_ofItems hreads, Progress.ofItems, h.flatMap_bindings_item]
    exact h.names

/-- **The canonical form of a template is read as the same segments and bindings.** -/
theorem parse_canonical (h : t.WellFormed depth) :
    Template.parse t.canonical depth = .ok ⟨t.canonical, t.segments, t.bindings⟩ := by
  refine parse_eq_ok_iff.2 ⟨_, _, t.toList_canonical, h.says_item, ?_⟩
  rw [h.flatMap_segments_item, h.flatMap_bindings_item]

end Template.WellFormed

/-- **Every template that is read has a canonical form**: the text that writes each of its segments
on its own. So it has no sub-path but that of the parameter for the rest of the path, and

* it is read as the same segments and the same bindings;
* it is its own canonical form;
* of the templates that are read, those with the same segments and bindings have it, and no
  others. -/
theorem canonical_form (template : String) (depth : Nat) (t : Template)
    (h : Template.parse template depth = .ok t) :
    (∃ raws, t.canonical.toList = '/' :: ['/'].intercalate raws ∧
      List.Forall₂ (Written t.bindings) t.segments raws) ∧
    (∃ u, Template.parse t.canonical depth = .ok u ∧ u.segments = t.segments ∧
      u.bindings = t.bindings ∧ u.canonical = t.canonical) ∧
    ∀ template' t', Template.parse template' depth = .ok t' →
      (t'.canonical = t.canonical ↔ t'.segments = t.segments ∧ t'.bindings = t.bindings) := by
  have hform := wellFormed_of_parse h
  have hcanonical := hform.parse_canonical
  refine ⟨⟨_, t.toList_canonical, ?_⟩, ⟨_, hcanonical, rfl, rfl, ?_⟩, fun template' t' h' => ?_⟩
  · rw [List.forall₂_map_right_iff, List.forall₂_same]
    exact fun x hx => hform.written_write hx
  · exact Template.canonical_congr rfl rfl
  · constructor
    · intro hsame
      -- both templates have the segments and bindings that are read of this one text
      have hcanonical' := (wellFormed_of_parse h').parse_canonical
      rw [hsame, hcanonical, Except.ok.injEq, Template.mk.injEq] at hcanonical'
      exact ⟨hcanonical'.2.1.symm, hcanonical'.2.2.symm⟩
    · rintro ⟨hsegments, hbindings⟩
      exact Template.canonical_congr hsegments hbindings

/-- Blanks and a literal inside a placeholder leave the canonical form; the parameter for the rest
of the path keeps its `**`. -/
theorem canonical_form_archive :
    ∃ t, Template.parse archive 2 = .ok t ∧
      t.canonical = "/files/x/\x7buser.id\x7d/\x7bpath=**\x7d" ∧
      ∃ u, Template.parse t.canonical 2 = .ok u ∧ u.segments = t.segments ∧
        u.bindings = t.bindings ∧ u.canonical = t.canonical :=
  ⟨_, rfl, rfl, (canonical_form archive 2 _ rfl).2.1⟩

end ServiceContract.Route
