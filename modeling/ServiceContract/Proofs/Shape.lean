import Mathlib.Data.List.Forall2
import ServiceContract.Proofs.Segments

/-!
# Patterns and shapes of templates

A router gets a route as a text, and routes of one shape are taken for the same. The literals of
a template never look like a parameter, and neither literals nor names hold a slash, so segments
can be read back from their pattern. The shape is the pattern without parameter names, and says as
much as the segments do without them.

* `segmentsOf_pattern`: segments are read back from their pattern.
* `plain_of_parse`, `clear_of_parse`: what the segments of a template that is read are like.
* `shape_eq_iff`: plain segments have one shape exactly when they are pointwise alike.
* `rendering_unambiguous`: patterns and shapes tell the templates that are read apart.
-/

namespace ServiceContract.Route

/-- **Segments that differ at most in the name of a parameter.** -/
inductive Segment.Alike : Segment → Segment → Prop
  | literal (text : String) : Alike (.literal text) (.literal text)
  | dynamic (a b : String) : Alike (.dynamic a) (.dynamic b)
  | catchAll (a b : String) : Alike (.catchAll a) (.catchAll b)

/-- A segment that its shape does not hide: a literal is not empty, holds no slash and does not
start like a parameter. -/
def Segment.Plain : Segment → Prop
  | .literal text => text.toList ≠ [] ∧ '/' ∉ text.toList ∧
      text.toList.head? ≠ some ':' ∧ text.toList.head? ≠ some '*'
  | .dynamic _ | .catchAll _ => True

/-- A segment that its pattern does not hide: plain, and without a slash in its name. -/
structure Segment.Clear (x : Segment) : Prop where
  plain : x.Plain
  slash : '/' ∉ x.render.toList

/-! ## Reading a pattern back -/

namespace Segment

/-- The segment that a piece of a pattern stands for, told by its first character. -/
def ofPiece : List Char → Segment
  | ':' :: name => .dynamic (String.ofList name)
  | '*' :: name => .catchAll (String.ofList name)
  | text => .literal (String.ofList text)

variable {x y : Segment}

/-- A plain segment is read back from how it is written. -/
theorem Plain.ofPiece_render (h : x.Plain) : ofPiece x.render.toList = x := by
  cases x with
  | literal text =>
    obtain ⟨-, -, hcolon, hstar⟩ := h
    show ofPiece text.toList = literal text
    unfold ofPiece
    split
    · next name heq => exact absurd (by rw [heq]; rfl) hcolon
    · next name heq => exact absurd (by rw [heq]; rfl) hstar
    · rw [String.ofList_toList]
  | dynamic name => simp [render, ofPiece]
  | catchAll name => simp [render, ofPiece]

theorem Plain.render_ne_nil (h : x.Plain) : x.render.toList ≠ [] := by
  cases x with
  | literal text => exact h.1
  | dynamic name => simp [render]
  | catchAll name => simp [render]

end Segment

/-- The segments of a pattern: what stands between its slashes. -/
def segmentsOf (text : List Char) : List Segment :=
  ((Text.pieces '/' text).filter (· ≠ [])).map Segment.ofPiece

variable {xs ys : List Segment}

theorem toList_joinSegments_of_ne_nil (f : Segment → String) (h : xs ≠ []) :
    (joinSegments f xs).toList = xs.flatMap fun x => '/' :: (f x).toList := by
  unfold joinSegments
  rw [if_neg (by simpa using h), String.toList_join, List.flatMap_map]
  apply List.flatMap_congr
  intro x _
  rw [String.toList_append]
  rfl

/-- **Segments are read back from their pattern.** -/
theorem segmentsOf_pattern (h : ∀ x ∈ xs, x.Clear) : segmentsOf (pattern xs).toList = xs := by
  by_cases hxs : xs = []
  · subst hxs
    rfl
  · have hpieces : Text.pieces '/' (pattern xs).toList = [] :: xs.map (·.render.toList) := by
      rw [pattern, toList_joinSegments_of_ne_nil _ hxs]
      exact Text.pieces_flatMap (p := []) List.not_mem_nil fun x hx => (h x hx).slash
    have hfilter : (xs.map (·.render.toList)).filter (· ≠ []) = xs.map (·.render.toList) := by
      refine List.filter_eq_self.2 (List.forall_mem_map.2 fun x hx => ?_)
      simpa using (h x hx).plain.render_ne_nil
    rw [segmentsOf, hpieces, List.filter_cons_of_neg (by simp), hfilter, List.map_map]
    calc
      _ = xs.map id := List.map_congr_left fun x hx => (h x hx).plain.ofPiece_render
      _ = xs := List.map_id xs

/-- Clear segments have patterns of their own. -/
theorem pattern_inj (hx : ∀ x ∈ xs, x.Clear) (hy : ∀ y ∈ ys, y.Clear) :
    pattern xs = pattern ys ↔ xs = ys := by
  constructor
  · intro h
    rw [← segmentsOf_pattern hx, h, segmentsOf_pattern hy]
  · rintro rfl
    rfl

/-! ## Shapes -/

namespace Segment

/-- The segment with its parameter name left out. -/
def nameless : Segment → Segment
  | .literal text => .literal text
  | .dynamic _ => .dynamic ""
  | .catchAll _ => .catchAll ""

variable {x y : Segment}

theorem render_nameless (x : Segment) : x.nameless.render = x.shape := by
  cases x <;> rfl

theorem Plain.nameless (h : x.Plain) : x.nameless.Clear := by
  cases x with
  | literal text => exact ⟨h, h.2.1⟩
  | dynamic name => exact ⟨trivial, by simp [Segment.nameless, render]⟩
  | catchAll name => exact ⟨trivial, by simp [Segment.nameless, render]⟩

theorem alike_iff : Alike x y ↔ x.nameless = y.nameless := by
  constructor
  · intro h
    cases h <;> rfl
  · intro h
    cases x with
    | literal text =>
      cases y <;> cases h
      exact .literal text
    | dynamic name =>
      cases y <;> cases h
      exact .dynamic name _
    | catchAll name =>
      cases y <;> cases h
      exact .catchAll name _

end Segment

/-- A shape is the pattern of the segments without their parameter names. -/
theorem shape_eq_pattern (xs : List Segment) : shape xs = pattern (xs.map Segment.nameless) := by
  unfold shape pattern joinSegments
  rw [List.isEmpty_map, List.map_map]
  simp only [Function.comp_def, Segment.render_nameless]

/-- **The shape says as much as the segments do without their parameter names.** -/
theorem shape_eq_iff (hx : ∀ x ∈ xs, x.Plain) (hy : ∀ y ∈ ys, y.Plain) :
    shape xs = shape ys ↔ List.Forall₂ Segment.Alike xs ys := by
  have hclear : ∀ {zs : List Segment}, (∀ z ∈ zs, z.Plain) →
      ∀ z ∈ zs.map Segment.nameless, z.Clear :=
    fun hz => List.forall_mem_map.2 fun z hmem => (hz z hmem).nameless
  rw [shape_eq_pattern, shape_eq_pattern, pattern_inj (hclear hx) (hclear hy),
    ← List.forall₂_eq_eq_eq, List.forall₂_map_left_iff, List.forall₂_map_right_iff]
  constructor
  · exact fun h => h.imp fun _ _ => Segment.alike_iff.2
  · exact fun h => h.imp fun _ _ => Segment.alike_iff.1

/-! ## The segments of a template -/

variable {template : String} {depth : Nat} {t : Template}

/-- **The segments of a template that is read are plain.** -/
theorem plain_of_parse (h : Template.parse template depth = .ok t) : ∀ x ∈ t.segments, x.Plain := by
  intro x hx
  cases x with
  | literal text =>
    have hlit := (wellFormed_of_parse h).literal text hx
    exact ⟨hlit.ne_nil, hlit.slash, hlit.colon, hlit.star⟩
  | dynamic name => trivial
  | catchAll name => trivial

/-- The name of a parameter is made of identifiers, and so it holds no slash. -/
theorem Template.WellFormed.slash_not_mem_name (h : t.WellFormed depth) {b : PathBinding}
    (hb : b ∈ t.bindings) : '/' ∉ b.name.toList := by
  rw [h.name b hb, String.toList_intercalate]
  intro hslash
  obtain hsep | ⟨cs, hcs, hslash⟩ := Text.mem_of_mem_intercalate hslash
  · cases hsep
  · obtain ⟨part, hpart, rfl⟩ := List.mem_map.1 hcs
    have := Text.isIdentifierChar_of_mem (h.identifier b hb part hpart) hslash
    exact absurd this (by decide)

/-- **The segments of a template that is read are clear.** -/
theorem clear_of_parse (h : Template.parse template depth = .ok t) : ∀ x ∈ t.segments, x.Clear := by
  intro x hx
  have hplain := plain_of_parse h x hx
  refine ⟨hplain, ?_⟩
  by_cases hlit : x.isLiteral = true
  · cases x with
    | literal text => exact hplain.2.1
    | dynamic name => cases hlit
    | catchAll name => cases hlit
  · -- any other segment is that of a binding
    have hform := wellFormed_of_parse h
    obtain ⟨b, hb, rfl⟩ := hform.exists_segment_eq hx (by simpa using hlit)
    have hname := hform.slash_not_mem_name hb
    unfold PathBinding.segment
    split <;> simp [Segment.render, hname]

/-- **Patterns and shapes are unambiguous**: of two templates that are read,

* the patterns are the same exactly if the segments are;
* the shapes are the same exactly if there are as many segments and each is alike to the other's. -/
theorem rendering_unambiguous (template template' : String) (depth depth' : Nat) (t t' : Template)
    (h : Template.parse template depth = .ok t) (h' : Template.parse template' depth' = .ok t') :
    (t.pattern = t'.pattern ↔ t.segments = t'.segments) ∧
    (t.shape = t'.shape ↔ List.Forall₂ Segment.Alike t.segments t'.segments) :=
  ⟨pattern_inj (clear_of_parse h) (clear_of_parse h'),
    shape_eq_iff (plain_of_parse h) (plain_of_parse h')⟩

/-- A literal inside a sub-path or before a parameter gives one pattern, and another name for the
parameter one shape. -/
theorem rendering_unambiguous_version :
    ∃ t t' u, Template.parse "/v1/\x7bid\x7d" 1 = .ok t ∧
      Template.parse "/\x7bid=v1/*\x7d" 2 = .ok t' ∧
      Template.parse "/v1/\x7bname\x7d" 1 = .ok u ∧
      t.pattern = t'.pattern ∧ t.segments = t'.segments ∧
      t.pattern ≠ u.pattern ∧ t.shape = u.shape := by
  refine ⟨_, _, _, rfl, rfl, rfl, rfl, ?_, ?_, ?_⟩
  · exact (rendering_unambiguous "/v1/\x7bid\x7d" "/\x7bid=v1/*\x7d" 1 2 _ _ rfl rfl).1.1 rfl
  · intro heq
    have hsame := (rendering_unambiguous "/v1/\x7bid\x7d" "/v1/\x7bname\x7d" 1 1 _ _ rfl rfl).1.1 heq
    cases hsame
  · refine (rendering_unambiguous "/v1/\x7bid\x7d" "/v1/\x7bname\x7d" 1 1 _ _ rfl rfl).2.2 ?_
    exact .cons (.literal _) (.cons (.dynamic _ _) .nil)

end ServiceContract.Route
