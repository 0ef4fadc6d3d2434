import Mathlib.Data.List.Forall2
import ServiceContract.Proofs.Division

/-!
# The grammar of templates

What the segments of a template may be, said without the functions that read them: literals, and
placeholders with a reference to a field and a sub-path.

* `Item.Reads`: the texts that say an item.
* `Says`: the items of a whole template.
* `fieldPath_eq_ok_iff`, `isSubPath_iff`, `placeholder?_eq_some_iff`: how references, sub-paths and
  placeholders are taken apart.
* `IsPlaceholder.braceFree`: no brace can stand inside a placeholder.
-/

namespace ServiceContract.Route

/-- **A literal**: not empty, without slash and braces, and not starting like a parameter. -/
structure IsLiteral (text : List Char) : Prop where
  ne_nil : text ≠ []
  slash : '/' ∉ text
  braceFree : BraceFree text
  colon : text.head? ≠ some ':'
  star : text.head? ≠ some '*'

/-- **A reference to a field**: identifiers with dots between them, from one to `depth`. -/
structure IsReference (depth : Nat) (text : List Char) (path : List String) : Prop where
  ne_nil : path ≠ []
  length_le : path.length ≤ depth
  identifier : ∀ part ∈ path, Text.isIdentifier part.toList = true
  joined : text = (".".intercalate path).toList

/-- A part of a sub-path: a wildcard or a literal. -/
def IsPart (part : List Char) : Prop :=
  part = ['*'] ∨ part = ['*', '*'] ∨ IsLiteral part

/-- **A sub-path**: parts with slashes between them, of which at most one is a wildcard, and `**`
none but the last. -/
structure IsSubPath (text : List Char) (parts : List (List Char)) : Prop where
  ne_nil : text ≠ []
  part : ∀ part ∈ parts, IsPart part
  wildcard : (parts.filter Progress.isWildcard).length ≤ 1
  catchAll : ∀ part ∈ parts.dropLast, part ≠ ['*', '*']
  joined : text = ['/'].intercalate parts

/-- **What stands between the braces of a placeholder**: a reference, and a sub-path after the first
equals sign. A placeholder without a sub-path matches one segment, as with `*`. -/
inductive IsPlaceholder (depth : Nat) : List Char → List String → List (List Char) → Prop
  | field {inner : List Char} {path : List String} : '=' ∉ inner →
      IsReference depth (Text.trim inner) path → IsPlaceholder depth inner path [['*']]
  | subPath {reference sub : List Char} {path : List String} {parts : List (List Char)} :
      '=' ∉ reference → IsReference depth (Text.trim reference) path →
      IsSubPath (Text.trim sub) parts → IsPlaceholder depth (reference ++ '=' :: sub) path parts

/-- What a segment of a template says: a literal, or a placeholder for a field with the parts of
its sub-path. -/
inductive Item where
  | literal (text : List Char)
  | placeholder (path : List String) (parts : List (List Char))

namespace Item

/-- **The texts that say an item.** -/
inductive Reads (depth : Nat) : List Char → Item → Prop
  | literal {text : List Char} : IsLiteral text → Reads depth text (.literal text)
  | placeholder {inner : List Char} {path : List String} {parts : List (List Char)} :
      BraceFree inner → IsPlaceholder depth inner path parts →
      Reads depth ('\x7b' :: (inner ++ ['\x7d'])) (.placeholder path parts)

/-- Whether an item matches the rest of a path. -/
def catchesAll : Item → Bool
  | .literal _ => false
  | .placeholder _ parts => parts.contains ['*', '*']

/-- The parameter of an item: that of its field if there is a wildcard for it. -/
def name? : Item → Option String
  | .literal _ => none
  | .placeholder path parts =>
    if parts.any Progress.isWildcard then some ("_".intercalate path) else none

end Item

/-- **The items of a template**, in order, with the texts that say them. Only the last one may match
the rest of a path, and no two have one parameter. -/
structure Says (depth : Nat) (raws : List (List Char)) (items : List Item) : Prop where
  reads : List.Forall₂ (Item.Reads depth) raws items
  catchAll : ∀ item ∈ items.dropLast, item.catchesAll = false
  names : (items.filterMap Item.name?).Nodup

/-! ## References and sub-paths -/

variable {depth : Nat} {c : Char} {inner : List Char} {path : List String}
  {parts : List (List Char)}

theorem IsReference.pieces_eq {reference : List Char} (h : IsReference depth reference path) :
    Text.pieces '.' reference = path.map String.toList := by
  refine Text.pieces_eq_iff.2 ⟨by simpa using h.ne_nil, ?_, ?_⟩
  · intro p hp hdot
    obtain ⟨part, hpart, rfl⟩ := List.mem_map.1 hp
    have := Text.isIdentifierChar_of_mem (h.identifier part hpart) hdot
    exact absurd this (by decide)
  · rw [h.joined, String.toList_intercalate]
    rfl

theorem IsReference.text_ne_nil {reference : List Char} (h : IsReference depth reference path) :
    reference ≠ [] := by
  rintro rfl
  -- an empty text has one empty piece, which is no identifier
  obtain ⟨part, rfl, hpart⟩ := List.map_eq_singleton_iff.1 h.pieces_eq.symm
  have := h.identifier part List.mem_cons_self
  rw [hpart] at this
  cases this

theorem fieldPath_eq_ok_iff {reference : List Char} :
    fieldPath depth reference = .ok path ↔ IsReference depth reference path := by
  unfold fieldPath
  constructor
  · intro h
    split at h
    · cases h
    · simp only at h
      split at h
      · cases h
      · next hnone =>
        split at h
        · cases h
        · next hdepth =>
          cases h
          have hid := List.find?_eq_none.1 hnone
          refine ⟨by simpa using Text.pieces_ne_nil reference, by simpa using hdepth, ?_, ?_⟩
          · intro part hpart
            obtain ⟨cs, hcs, rfl⟩ := List.mem_map.1 hpart
            rw [String.toList_ofList]
            simpa using hid cs hcs
          · have hmap : ((Text.pieces '.' reference).map String.ofList).map String.toList =
                Text.pieces '.' reference := by simp [Function.comp_def]
            rw [String.toList_intercalate, hmap]
            exact (Text.pieces_eq_iff.1 rfl).2.2
  · intro h
    have hne : reference.isEmpty = false := by simpa using h.text_ne_nil
    have hid : (path.map String.toList).find? (!Text.isIdentifier ·) = none := by
      rw [List.find?_eq_none, List.forall_mem_map]
      intro part hpart
      simp [h.identifier part hpart]
    have hmap : (path.map String.toList).map String.ofList = path := by simp [Function.comp_def]
    simp only [hne, h.pieces_eq, hid, List.length_map, hmap]
    rw [if_neg Bool.false_ne_true, if_neg (Nat.not_lt.2 h.length_le)]

theorem IsPart.slash_not_mem {part : List Char} (h : IsPart part) : '/' ∉ part := by
  rcases h with rfl | rfl | h
  · decide
  · decide
  · exact h.slash

/-- The parts of a sub-path are its pieces. -/
theorem isSubPath_iff {text : List Char} :
    IsSubPath text parts ↔ text ≠ [] ∧ Text.pieces '/' text = parts ∧
      (parts.filter Progress.isWildcard).length ≤ 1 ∧ (∀ part ∈ parts, IsPart part) ∧
      ∀ part ∈ parts.dropLast, part ≠ ['*', '*'] := by
  constructor
  · intro h
    refine ⟨h.ne_nil, Text.pieces_eq_iff.2 ⟨?_, fun p hp => (h.part p hp).slash_not_mem, h.joined⟩,
      h.wildcard, h.part, h.catchAll⟩
    rintro rfl
    exact h.ne_nil h.joined
  · rintro ⟨hne, hpieces, hwild, hpart, hlast⟩
    exact ⟨hne, hpart, hwild, hlast, (Text.pieces_eq_iff.1 hpieces).2.2⟩

/-! ## Placeholders -/

theorem IsReference.not_mem {text : List Char} (h : IsReference depth (Text.trim text) path)
    (hc : c = '\x7b' ∨ c = '\x7d') : c ∉ text := by
  intro hmem
  have hblank : Text.isBlank c = false := by rcases hc with rfl | rfl <;> decide
  have htrim := Text.mem_trim hmem hblank
  rw [h.joined, String.toList_intercalate] at htrim
  obtain hdot | ⟨p, hp, hcp⟩ := Text.mem_of_mem_intercalate htrim
  · rcases hc with rfl | rfl <;> exact absurd hdot (by decide)
  · obtain ⟨part, hpart, rfl⟩ := List.mem_map.1 hp
    have := Text.isIdentifierChar_of_mem (h.identifier part hpart) hcp
    rcases hc with rfl | rfl <;> exact absurd this (by decide)

theorem IsSubPath.not_mem {text : List Char} (h : IsSubPath (Text.trim text) parts)
    (hc : c = '\x7b' ∨ c = '\x7d') : c ∉ text := by
  intro hmem
  have hblank : Text.isBlank c = false := by rcases hc with rfl | rfl <;> decide
  have htrim := Text.mem_trim hmem hblank
  rw [h.joined] at htrim
  obtain hslash | ⟨p, hp, hcp⟩ := Text.mem_of_mem_intercalate htrim
  · rcases hc with rfl | rfl <;> exact absurd hslash (by decide)
  · rcases h.part p hp with rfl | rfl | hlit
    · rcases hc with rfl | rfl <;> exact absurd hcp (by decide)
    · rcases hc with rfl | rfl <;> exact absurd hcp (by decide)
    · rcases hc with rfl | rfl
      · exact hlit.braceFree.1 hcp
      · exact hlit.braceFree.2 hcp

/-- **No brace can stand inside a placeholder**: it would belong to the reference or to a part of
the sub-path, and neither has one. -/
theorem IsPlaceholder.braceFree (h : IsPlaceholder depth inner path parts) :
    BraceFree inner := by
  have hnot : ∀ c, c = '\x7b' ∨ c = '\x7d' → c ∉ inner := by
    intro c hc hmem
    cases h with
    | field _ href => exact href.not_mem hc hmem
    | subPath _ href hsub =>
      rcases List.mem_append.1 hmem with hmem | hmem
      · exact href.not_mem hc hmem
      · rcases List.mem_cons.1 hmem with heq | hmem
        · rcases hc with rfl | rfl <;> exact absurd heq (by decide)
        · exact hsub.not_mem hc hmem
  exact ⟨hnot _ (Or.inl rfl), hnot _ (Or.inr rfl)⟩

theorem isPlaceholder_iff_of_cut?_eq_none (hcut : Text.cut? '=' inner = none) :
    IsPlaceholder depth inner path parts ↔
      IsReference depth (Text.trim inner) path ∧ parts = [['*']] := by
  constructor
  · intro h
    cases h with
    | field _ href => exact ⟨href, rfl⟩
    | subPath hr href hsub =>
      rw [Text.cut?_eq_some_iff.2 ⟨hr, rfl⟩] at hcut
      cases hcut
  · rintro ⟨href, rfl⟩
    exact .field (Text.cut?_eq_none_iff.1 hcut) href

theorem isPlaceholder_iff_of_cut?_eq_some {reference sub : List Char}
    (hcut : Text.cut? '=' inner = some (reference, sub)) :
    IsPlaceholder depth inner path parts ↔
      IsReference depth (Text.trim reference) path ∧ IsSubPath (Text.trim sub) parts := by
  constructor
  · intro h
    cases h with
    | field hnone _ =>
      rw [Text.cut?_eq_none_iff.2 hnone] at hcut
      cases hcut
    | subPath hr href hsub =>
      rw [Text.cut?_eq_some_iff.2 ⟨hr, rfl⟩] at hcut
      cases hcut
      exact ⟨href, hsub⟩
  · rintro ⟨href, hsub⟩
    obtain ⟨hr, rfl⟩ := Text.cut?_eq_some_iff.1 hcut
    exact .subPath hr href hsub

theorem placeholder?_eq_some_iff {raw : List Char} :
    placeholder? raw = some inner ↔ raw = '\x7b' :: (inner ++ ['\x7d']) := by
  unfold placeholder?
  constructor
  · intro h
    split at h
    · next rest =>
      split at h
      · next hlast =>
        cases h
        rw [List.dropLast_append_getLast? _ hlast]
      · cases h
    · cases h
  · rintro rfl
    simp

theorem IsPlaceholder.ne_nil (h : IsPlaceholder depth inner path parts) : parts ≠ [] := by
  cases h with
  | field _ _ => exact List.cons_ne_nil _ _
  | subPath _ _ hsub =>
    rintro rfl
    exact hsub.ne_nil hsub.joined

theorem IsPlaceholder.isPart (h : IsPlaceholder depth inner path parts) :
    ∀ part ∈ parts, IsPart part := by
  cases h with
  | field _ _ => exact List.forall_mem_singleton.2 (Or.inl rfl)
  | subPath _ _ hsub => exact hsub.part

theorem IsPlaceholder.wildcard (h : IsPlaceholder depth inner path parts) :
    (parts.filter Progress.isWildcard).length ≤ 1 := by
  cases h with
  | field _ _ => decide
  | subPath _ _ hsub => exact hsub.wildcard

theorem IsPlaceholder.catchAll (h : IsPlaceholder depth inner path parts) :
    ∀ part ∈ parts.dropLast, part ≠ ['*', '*'] := by
  cases h with
  | field _ _ => exact fun part hpart => absurd hpart List.not_mem_nil
  | subPath _ _ hsub => exact hsub.catchAll

end ServiceContract.Route
