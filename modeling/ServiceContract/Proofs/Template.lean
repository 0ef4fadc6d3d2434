import Mathlib.Data.List.Induction
import ServiceContract.Proofs.Grammar
import ServiceContract.Proofs.Pointwise

/-!
# Reading templates

Reading a template succeeds exactly on the texts of the grammar, and gives what their items stand
for. Each function that adds to what was read so far is described by an equivalence; a whole
template follows by induction over its segments, the last one first.

* `addParts_eq_ok_iff`, `addPlaceholder_eq_ok_iff`, `addSegment_eq_ok_iff`: what is added, and when.
* `parse_eq_ok_iff`: what a template that is read says.
* `parse_succeeds_iff`: which templates are read.
-/

namespace ServiceContract.Route

/-! ## What items stand for -/

/-- What a wildcard matches: the rest of a path or not. -/
def wildcard? (part : List Char) : Option Bool :=
  if part = ['*', '*'] then some true else if part = ['*'] then some false else none

/-- The segment of a parameter. -/
def PathBinding.segment (b : PathBinding) : Segment :=
  if b.catchAll then .catchAll b.name else .dynamic b.name

/-- The binding of a field. -/
def PathBinding.ofField (path : List String) (catchAll : Bool) : PathBinding :=
  ⟨"_".intercalate path, path, catchAll⟩

/-- The binding of a part that is a wildcard. -/
def partBinding? (path : List String) (part : List Char) : Option PathBinding :=
  (wildcard? part).map (.ofField path)

/-- The segment of a part. -/
def partSegment (path : List String) (part : List Char) : Segment :=
  match partBinding? path part with
  | some b => b.segment
  | none => .literal (String.ofList part)

namespace Item

/-- The segments of an item. -/
def segments : Item → List Segment
  | .literal text => [.literal (String.ofList text)]
  | .placeholder path parts => parts.map (partSegment path)

/-- The bindings of an item. -/
def bindings : Item → List PathBinding
  | .literal _ => []
  | .placeholder path parts => parts.filterMap (partBinding? path)

end Item

/-! ## One step of reading -/

namespace Progress

/-- What is read after an item more. -/
def add (p : Progress) (item : Item) : Progress :=
  ⟨p.segments ++ item.segments, p.bindings ++ item.bindings⟩

/-- What is read of items. -/
def ofItems (items : List Item) : Progress :=
  ⟨items.flatMap Item.segments, items.flatMap Item.bindings⟩

/-- All parameters differ. -/
def NamesDiffer (bindings : List PathBinding) : Prop := (bindings.map (·.name)).Nodup

/-- Nothing so far takes the rest of the path, and all parameters differ. -/
structure Open (p : Progress) : Prop where
  names : NamesDiffer p.bindings
  catchAll : ∀ b ∈ p.bindings, b.catchAll = false

theorem NamesDiffer.left {bs cs : List PathBinding} (h : NamesDiffer (bs ++ cs)) :
    NamesDiffer bs := by
  unfold NamesDiffer at h ⊢
  rw [List.map_append] at h
  exact (List.nodup_append.1 h).1

variable {p q : Progress} {path : List String} {depth : Nat}

theorem addLiteral_eq_ok_iff {raw : List Char} (hne : raw ≠ [])
    (hslash : '\x7b' ∉ raw → '/' ∉ raw) :
    p.addLiteral raw = .ok q ↔
      IsLiteral raw ∧ q = ⟨p.segments ++ [.literal (String.ofList raw)], p.bindings⟩ := by
  unfold addLiteral
  simp only [Bool.or_eq_true, List.contains_iff_mem, decide_eq_true_eq]
  constructor
  · intro h
    split at h
    · cases h
    · next hbrace =>
      split at h
      · cases h
      · next hstart =>
        cases h
        rw [not_or] at hbrace hstart
        exact ⟨⟨hne, hslash hbrace.1, hbrace, hstart.1, hstart.2⟩, rfl⟩
  · rintro ⟨hlit, rfl⟩
    rw [if_neg (not_or.2 hlit.braceFree), if_neg (not_or.2 ⟨hlit.colon, hlit.star⟩)]

theorem addParameter_eq_ok_iff (hp : p.Open) {catchAll : Bool} :
    p.addParameter catchAll path = .ok q ↔
      NamesDiffer (p.bindings ++ [.ofField path catchAll]) ∧
      q = ⟨p.segments ++ [(PathBinding.ofField path catchAll).segment],
        p.bindings ++ [.ofField path catchAll]⟩ := by
  have hnone : (catchAll && p.bindings.any (·.catchAll)) = false := by
    rw [List.any_eq_false.2 (by simpa using hp.catchAll), Bool.and_false]
  have hdiffer : NamesDiffer (p.bindings ++ [.ofField path catchAll]) ↔
      p.bindings.any (·.name == "_".intercalate path) = false := by
    have hnames : (p.bindings.map (·.name)).Nodup := hp.names
    unfold NamesDiffer
    rw [List.map_append, List.nodup_append, List.any_eq_false]
    simp [hnames, PathBinding.ofField]
  rw [hdiffer]
  unfold addParameter
  simp only [hnone]
  rw [if_neg Bool.false_ne_true]
  cases p.bindings.any (·.name == "_".intercalate path) with
  | true => simp
  | false =>
    rw [if_neg Bool.false_ne_true, Except.ok.injEq, eq_comm]
    exact (and_iff_right rfl).symm

/-- Adds one part of a sub-path. -/
def addPart (path : List String) (p : Progress) (part : List Char) : Except Fault Progress :=
  match wildcard? part with
  | some catchAll => p.addParameter catchAll path
  | none => if part = [] then .error .emptySegment else p.addLiteral part

/-- Parts are added one by one, and `**` only as the last. -/
theorem addParts_cons (part : List Char) (rest : List (List Char)) :
    addParts path p (part :: rest) =
      if part = ['*', '*'] ∧ rest ≠ [] then .error .catchAllNotLast
      else addPart path p part >>= fun p => addParts path p rest := by
  rw [addParts, addPart, wildcard?]
  by_cases hall : part = ['*', '*']
  · cases rest <;> simp [hall]
  · by_cases hone : part = ['*']
    · simp [hone]
    · by_cases hnil : part = []
      · simp [hnil, bind, Except.bind]
      · simp [hall, hone, hnil]

theorem wildcard?_eq_none_iff {part : List Char} :
    wildcard? part = none ↔ part ≠ ['*'] ∧ part ≠ ['*', '*'] := by
  unfold wildcard?
  by_cases hall : part = ['*', '*']
  · simp [hall]
  · by_cases hone : part = ['*'] <;> simp [hall, hone]

theorem wildcard?_eq_some_iff {part : List Char} {catchAll : Bool} :
    wildcard? part = some catchAll ↔ part = if catchAll then ['*', '*'] else ['*'] := by
  unfold wildcard?
  by_cases hall : part = ['*', '*']
  · cases catchAll <;> simp [hall]
  · by_cases hone : part = ['*'] <;> cases catchAll <;> simp [hall, hone]

theorem addPart_eq_ok_iff {part : List Char} (hslash : '/' ∉ part) (hp : p.Open) :
    addPart path p part = .ok q ↔ IsPart part ∧
      NamesDiffer (p.bindings ++ (partBinding? path part).toList) ∧
      q = ⟨p.segments ++ [partSegment path part],
        p.bindings ++ (partBinding? path part).toList⟩ := by
  unfold addPart partSegment partBinding?
  cases hw : wildcard? part with
  | some catchAll =>
    have hpart : IsPart part := by
      have h := wildcard?_eq_some_iff.1 hw
      cases catchAll with
      | true => exact Or.inr (Or.inl h)
      | false => exact Or.inl h
    simp only [Option.map_some, Option.toList_some]
    rw [addParameter_eq_ok_iff hp]
    exact (and_iff_right hpart).symm
  | none =>
    obtain ⟨hone, hall⟩ := wildcard?_eq_none_iff.1 hw
    simp only [Option.map_none, Option.toList_none, List.append_nil]
    by_cases hnil : part = []
    · rw [if_pos hnil]
      constructor
      · intro h
        cases h
      · rintro ⟨h | h | h, -⟩
        · exact absurd h hone
        · exact absurd h hall
        · exact absurd hnil h.ne_nil
    · rw [if_neg hnil, addLiteral_eq_ok_iff hnil fun _ => hslash]
      have hpart : IsPart part ↔ IsLiteral part := by
        unfold IsPart
        simp only [hone, hall, false_or]
      rw [hpart]
      exact and_congr_right fun _ => (and_iff_right hp.names).symm

/-- A part that is not `**` leaves more to come. -/
theorem Open.addPart {part : List Char} (hp : p.Open) (hall : part ≠ ['*', '*'])
    (h : NamesDiffer (p.bindings ++ (partBinding? path part).toList)) (segments : List Segment) :
    Open ⟨segments, p.bindings ++ (partBinding? path part).toList⟩ := by
  refine ⟨h, fun b hb => ?_⟩
  rcases List.mem_append.1 hb with hb | hb
  · exact hp.catchAll b hb
  · unfold partBinding? at hb
    rw [Option.mem_toList, Option.map_eq_some_iff] at hb
    obtain ⟨catchAll, hw, rfl⟩ := hb
    cases catchAll with
    | true => exact absurd (wildcard?_eq_some_iff.1 hw) hall
    | false => rfl

/-- **Adding the parts of a sub-path** succeeds where every part is one, `**` comes last and the
parameter is new, which also means that there is one wildcard at most. -/
theorem addParts_eq_ok_iff {parts : List (List Char)} (hslash : ∀ part ∈ parts, '/' ∉ part)
    (hp : p.Open) :
    addParts path p parts = .ok q ↔ (∀ part ∈ parts, IsPart part) ∧
      (∀ part ∈ parts.dropLast, part ≠ ['*', '*']) ∧
      NamesDiffer (p.bindings ++ parts.filterMap (partBinding? path)) ∧
      q = ⟨p.segments ++ parts.map (partSegment path),
        p.bindings ++ parts.filterMap (partBinding? path)⟩ := by
  induction parts generalizing p with
  | nil =>
    have hnames := hp.names
    simp [addParts, hnames, eq_comm]
  | cons part rest ih =>
    obtain ⟨hpart, hrest⟩ := List.forall_mem_cons.1 hslash
    have hbindings : (part :: rest).filterMap (partBinding? path) =
        (partBinding? path part).toList ++ rest.filterMap (partBinding? path) := by
      rw [List.filterMap_cons]
      cases partBinding? path part <;> rfl
    rw [addParts_cons, hbindings, List.map_cons, ← List.append_assoc]
    by_cases hnot : part = ['*', '*'] ∧ rest ≠ []
    · rw [if_pos hnot]
      constructor
      · intro h
        cases h
      · rintro ⟨-, hlast, -⟩
        rw [List.dropLast_cons_of_ne_nil hnot.2] at hlast
        exact absurd hnot.1 (hlast part List.mem_cons_self)
    · rw [if_neg hnot, bind_eq_ok]
      simp only [addPart_eq_ok_iff hpart hp]
      have hdrop : (∀ x ∈ (part :: rest).dropLast, x ≠ ['*', '*']) ↔
          ∀ x ∈ rest.dropLast, x ≠ ['*', '*'] := by
        cases rest with
        | nil => simp
        | cons next rest =>
          rw [List.dropLast_cons_of_ne_nil (by simp), List.forall_mem_cons]
          exact and_iff_right fun h => hnot ⟨h, by simp⟩
      -- after `**` there is nothing to add, and after any other part the induction goes on
      have hnext : ∀ segments,
          NamesDiffer (p.bindings ++ (partBinding? path part).toList) →
          (addParts path ⟨segments, p.bindings ++ (partBinding? path part).toList⟩ rest = .ok q ↔
            (∀ x ∈ rest, IsPart x) ∧ (∀ x ∈ rest.dropLast, x ≠ ['*', '*']) ∧
            NamesDiffer (p.bindings ++ (partBinding? path part).toList ++
              rest.filterMap (partBinding? path)) ∧
            q = ⟨segments ++ rest.map (partSegment path), p.bindings ++
              (partBinding? path part).toList ++ rest.filterMap (partBinding? path)⟩) := by
        intro segments hdiffer
        by_cases hall : part = ['*', '*']
        · have hnil : rest = [] := by
            by_contra hne
            exact hnot ⟨hall, hne⟩
          subst hnil
          simp [addParts, hdiffer, eq_comm]
        · exact ih hrest (hp.addPart hall hdiffer segments)
      rw [hdrop, List.forall_mem_cons]
      constructor
      · rintro ⟨p', ⟨hfirst, hdiffer, rfl⟩, h⟩
        obtain ⟨hparts, hlast, hnames, rfl⟩ := (hnext _ hdiffer).1 h
        exact ⟨⟨hfirst, hparts⟩, hlast, hnames, by simp⟩
      · rintro ⟨⟨hfirst, hparts⟩, hlast, hnames, rfl⟩
        refine ⟨_, ⟨hfirst, hnames.left, rfl⟩, (hnext _ hnames.left).2 ?_⟩
        exact ⟨hparts, hlast, hnames, by simp⟩

/-- **Adding a placeholder** succeeds where the text between its braces is one and its parameter is
new. -/
theorem addPlaceholder_eq_ok_iff {inner : List Char} (hp : p.Open) :
    addPlaceholder depth p inner = .ok q ↔ ∃ path parts, IsPlaceholder depth inner path parts ∧
      NamesDiffer (p.bindings ++ (Item.placeholder path parts).bindings) ∧
      q = p.add (.placeholder path parts) := by
  unfold addPlaceholder
  cases hcut : Text.cut? '=' inner with
  | none =>
    simp only [bind_eq_ok, fieldPath_eq_ok_iff, isPlaceholder_iff_of_cut?_eq_none hcut,
      addParameter_eq_ok_iff hp]
    constructor
    · rintro ⟨path, href, hdiffer, rfl⟩
      exact ⟨path, [['*']], ⟨href, rfl⟩, hdiffer, rfl⟩
    · rintro ⟨path, _, ⟨href, rfl⟩, hdiffer, rfl⟩
      exact ⟨path, href, hdiffer, rfl⟩
  | some cut =>
    obtain ⟨reference, sub⟩ := cut
    simp only [bind_eq_ok, fieldPath_eq_ok_iff, isPlaceholder_iff_of_cut?_eq_some hcut]
    have hslash : ∀ part ∈ Text.pieces '/' (Text.trim sub), '/' ∉ part :=
      fun part hpart => Text.not_mem_of_mem_pieces hpart
    constructor
    · rintro ⟨path, href, h⟩
      split at h
      · next hsome => cases hsome
      · cases h
      · next text hne heq =>
        cases heq
        split at h
        · cases h
        · next hwild =>
          obtain ⟨hpart, hlast, hdiffer, rfl⟩ := (addParts_eq_ok_iff hslash hp).1 h
          refine ⟨path, _, ⟨href, isSubPath_iff.2 ⟨?_, rfl, by omega, hpart, hlast⟩⟩, hdiffer, rfl⟩
          intro hnil
          exact hne (by rw [hnil])
    · rintro ⟨path, parts, ⟨href, hsub⟩, hdiffer, rfl⟩
      obtain ⟨hne, rfl, hwild, hpart, hlast⟩ := isSubPath_iff.1 hsub
      refine ⟨path, href, ?_⟩
      split
      · next hsome => cases hsome
      · next hnil => exact absurd (Option.some.inj hnil) hne
      · next text _ heq =>
        cases heq
        rw [if_neg (Nat.not_lt.2 hwild)]
        exact (addParts_eq_ok_iff hslash hp).2 ⟨hpart, hlast, hdiffer, rfl⟩

/-- **Adding a segment** succeeds where more may follow, the text says an item, and the item's
parameter is new. -/
theorem addSegment_eq_ok_iff {raw : List Char} (hraw : Undivided false raw) (hp : p.Open) :
    p.addSegment depth raw = .ok q ↔ p.isFinal = false ∧ ∃ item, Item.Reads depth raw item ∧
      NamesDiffer (p.bindings ++ item.bindings) ∧ q = p.add item := by
  unfold addSegment
  cases hfinal : p.isFinal with
  | true => simp
  | false =>
    rw [if_neg Bool.false_ne_true]
    by_cases hnil : raw = []
    · subst hnil
      constructor
      · intro h
        cases h
      · rintro ⟨-, item, hreads, -⟩
        cases hreads with
        | literal hlit => exact absurd rfl hlit.ne_nil
    · rw [if_neg (by simpa using hnil)]
      cases hplace : placeholder? raw with
      | some inner =>
        simp only [addPlaceholder_eq_ok_iff hp, true_and]
        cases placeholder?_eq_some_iff.1 hplace
        constructor
        · rintro ⟨path, parts, hplaceholder, hdiffer, rfl⟩
          exact ⟨_, .placeholder hplaceholder.braceFree hplaceholder, hdiffer, rfl⟩
        · rintro ⟨item, hreads, hdiffer, rfl⟩
          generalize hraw' : '\x7b' :: (inner ++ ['\x7d']) = raw' at hreads
          cases hreads with
          | literal hlit =>
            subst hraw'
            exact absurd List.mem_cons_self hlit.braceFree.1
          | placeholder _ hplaceholder =>
            rw [← placeholder?_eq_some_iff, hplace] at hraw'
            cases hraw'
            exact ⟨_, _, hplaceholder, hdiffer, rfl⟩
      | none =>
        simp only [addLiteral_eq_ok_iff hnil hraw.slash_not_mem, true_and]
        constructor
        · rintro ⟨hlit, rfl⟩
          refine ⟨_, .literal hlit, ?_, ?_⟩
          · rw [Item.bindings, List.append_nil]
            exact hp.names
          · rw [add, Item.bindings, List.append_nil]
            rfl
        · rintro ⟨item, hreads, -, rfl⟩
          cases hreads with
          | literal hlit =>
            refine ⟨hlit, ?_⟩
            rw [add, Item.bindings, List.append_nil]
            rfl
          | placeholder _ _ =>
            rw [placeholder?_eq_some_iff.2 rfl] at hplace
            cases hplace

end Progress

/-! ## Items one after the other -/

namespace Item

variable {raw : List Char} {item : Item}

theorem Reads.undivided (h : Reads depth raw item) : Undivided false raw := by
  cases h with
  | literal hlit => exact undivided_of_not_mem hlit.braceFree hlit.slash
  | placeholder hfree _ => exact undivided_placeholder hfree

theorem Reads.ne_nil (h : Reads depth raw item) : raw ≠ [] := by
  cases h with
  | literal hlit => exact hlit.ne_nil
  | placeholder _ _ => exact List.cons_ne_nil _ _

theorem isCatchAll_partSegment (path : List String) (part : List Char) :
    (partSegment path part).isCatchAll = decide (part = ['*', '*']) := by
  unfold partSegment partBinding? wildcard?
  by_cases hall : part = ['*', '*']
  · subst hall
    rfl
  · by_cases hone : part = ['*']
    · subst hone
      rfl
    · simp [hall, hone, Segment.isCatchAll]

theorem map_name_filterMap_partBinding? (path : List String) (parts : List (List Char)) :
    (parts.filterMap (partBinding? path)).map (·.name) =
      (parts.filter Progress.isWildcard).map fun _ => "_".intercalate path := by
  induction parts with
  | nil => rfl
  | cons part rest ih =>
    by_cases hall : part = ['*', '*']
    · subst hall
      exact congrArg (_ :: ·) ih
    · by_cases hone : part = ['*']
      · subst hone
        exact congrArg (_ :: ·) ih
      · have hb : partBinding? path part = none := by simp [partBinding?, wildcard?, hall, hone]
        have hw : ¬ Progress.isWildcard part = true := by simp [Progress.isWildcard, hall, hone]
        rw [List.filterMap_cons_none hb, List.filter_cons_of_neg hw, ih]

/-- An item has one parameter or none. -/
theorem Reads.names (h : Reads depth raw item) :
    item.bindings.map (·.name) = item.name?.toList := by
  cases h with
  | literal _ => rfl
  | @placeholder inner path parts _ hplace =>
    have hwild := hplace.wildcard
    rw [bindings, map_name_filterMap_partBinding?, name?]
    cases hfilter : parts.filter Progress.isWildcard with
    | nil =>
      have hnone : parts.any Progress.isWildcard = false :=
        List.any_eq_false.2 (List.filter_eq_nil_iff.1 hfilter)
      simp [hnone]
    | cons part rest =>
      have hmem : part ∈ parts.filter Progress.isWildcard := by
        rw [hfilter]
        exact List.mem_cons_self
      have hsome : parts.any Progress.isWildcard = true :=
        List.any_eq_true.2 ⟨part, List.mem_filter.1 hmem⟩
      have hrest : rest = [] := by
        rw [hfilter, List.length_cons] at hwild
        exact List.eq_nil_of_length_eq_zero (by omega)
      simp [hsome, hrest]

/-- The last segment of an item tells whether it matches the rest of a path. -/
theorem Reads.isCatchAll_getLast? (h : Reads depth raw item) :
    item.segments.getLast?.any Segment.isCatchAll = item.catchesAll := by
  cases h with
  | literal _ => rfl
  | @placeholder inner path parts _ hplace =>
    obtain ⟨init, last, rfl⟩ := parts.eq_nil_or_concat'.resolve_left hplace.ne_nil
    have hinit : init.contains ['*', '*'] = false := by
      have hlast := hplace.catchAll
      rw [List.dropLast_concat] at hlast
      rw [List.contains_eq_any_beq, List.any_eq_false]
      intro part hpart heq
      exact hlast part hpart (eq_of_beq heq).symm
    rw [segments, catchesAll, List.map_append, List.map_singleton, List.getLast?_concat,
      Option.any_some, isCatchAll_partSegment, List.contains_append, hinit]
    simp [eq_comm]

theorem Reads.segments_ne_nil (h : Reads depth raw item) : item.segments ≠ [] := by
  cases h with
  | literal _ => exact List.cons_ne_nil _ _
  | placeholder _ hplace => simpa [segments] using hplace.ne_nil

/-- An item that does not match the rest of a path has no binding that does. -/
theorem catchAll_of_mem_bindings (h : item.catchesAll = false) {b : PathBinding}
    (hb : b ∈ item.bindings) : b.catchAll = false := by
  cases item with
  | literal text => cases hb
  | placeholder path parts =>
    obtain ⟨part, hpart, hpb⟩ := List.mem_filterMap.1 hb
    unfold partBinding? at hpb
    obtain ⟨catchAll, hw, rfl⟩ := Option.map_eq_some_iff.1 hpb
    cases catchAll with
    | false => rfl
    | true =>
      have hall : part = ['*', '*'] := Progress.wildcard?_eq_some_iff.1 hw
      rw [catchesAll, List.contains_eq_any_beq, List.any_eq_false] at h
      exact absurd (by simp [hall]) (h part hpart)

end Item

variable {raws : List (List Char)} {items : List Item}

theorem map_name_bindings_ofItems (h : List.Forall₂ (Item.Reads depth) raws items) :
    (Progress.ofItems items).bindings.map (·.name) = items.filterMap Item.name? := by
  unfold Progress.ofItems
  simp only
  induction h with
  | nil => rfl
  | @cons raw item raws items hreads _ ih =>
    rw [List.flatMap_cons, List.map_append, hreads.names, ih, List.filterMap_cons]
    cases item.name? <;> rfl

theorem open_ofItems (h : Says depth raws items) (hnone : ∀ item ∈ items, item.catchesAll = false) :
    (Progress.ofItems items).Open := by
  constructor
  · unfold Progress.NamesDiffer
    rw [map_name_bindings_ofItems h.reads]
    exact h.names
  · intro b hb
    obtain ⟨item, hitem, hb⟩ := List.mem_flatMap.1 hb
    exact Item.catchAll_of_mem_bindings (hnone item hitem) hb

/-- More may follow exactly where no item matches the rest of a path. -/
theorem isFinal_ofItems (h : Says depth raws items) :
    (Progress.ofItems items).isFinal = false ↔ ∀ item ∈ items, item.catchesAll = false := by
  rcases items.eq_nil_or_concat' with rfl | ⟨init, last, rfl⟩
  · exact iff_of_true rfl fun item hitem => absurd hitem List.not_mem_nil
  · have hinit := h.catchAll
    rw [List.dropLast_concat] at hinit
    obtain ⟨raw, -, hreads⟩ := exists_of_forall₂_of_mem h.reads (List.mem_concat_self)
    have hlast : (Progress.ofItems (init ++ [last])).isFinal = last.catchesAll := by
      rw [← hreads.isCatchAll_getLast?]
      simp only [Progress.isFinal, Progress.ofItems, List.flatMap_append, List.flatMap_singleton]
      rw [List.getLast?_append_of_ne_nil _ hreads.segments_ne_nil]
    rw [hlast, List.forall_mem_append, List.forall_mem_singleton]
    exact (and_iff_right hinit).symm

/-- The items of one text more. -/
theorem says_concat_iff {raw : List Char} :
    Says depth (raws ++ [raw]) items ↔ ∃ init last, items = init ++ [last] ∧
      Says depth raws init ∧ (∀ item ∈ init, item.catchesAll = false) ∧ Item.Reads depth raw last ∧
      Progress.NamesDiffer ((Progress.ofItems init).bindings ++ last.bindings) := by
  have hnames : ∀ {init : List Item} {last : Item}, List.Forall₂ (Item.Reads depth) raws init →
      Item.Reads depth raw last →
      (((init ++ [last]).filterMap Item.name?).Nodup ↔
        Progress.NamesDiffer ((Progress.ofItems init).bindings ++ last.bindings)) := by
    intro init last hinit hlast
    unfold Progress.NamesDiffer
    rw [List.map_append, map_name_bindings_ofItems hinit, hlast.names, List.filterMap_append]
    cases hname : last.name? <;> simp [hname]
  constructor
  · rintro ⟨hreads, hcatch, hdiffer⟩
    obtain ⟨init, last, rfl, hinit, hlast⟩ := forall₂_concat_iff.1 hreads
    rw [List.dropLast_concat] at hcatch
    refine ⟨init, last, rfl, ⟨hinit, ?_, ?_⟩, hcatch, hlast, (hnames hinit hlast).1 hdiffer⟩
    · exact fun item hitem => hcatch item ((List.dropLast_sublist init).subset hitem)
    · rw [List.filterMap_append, List.nodup_append] at hdiffer
      exact hdiffer.1
  · rintro ⟨init, last, rfl, hinit, hcatch, hlast, hdiffer⟩
    refine ⟨forall₂_concat_iff.2 ⟨init, last, rfl, hinit.reads, hlast⟩, ?_,
      (hnames hinit.reads hlast).2 hdiffer⟩
    rw [List.dropLast_concat]
    exact hcatch

theorem isFinal_of_addSegment {p q : Progress} {raw : List Char}
    (h : p.addSegment depth raw = .ok q) : p.isFinal = false := by
  unfold Progress.addSegment at h
  split at h
  · cases h
  · next hfinal => simpa using hfinal

/-- **Reading segments one after the other** gives what their items stand for, and fails where there
are none. -/
theorem foldlM_addSegment_eq_ok_iff (hraws : ∀ raw ∈ raws, Undivided false raw) {q : Progress} :
    raws.foldlM (Progress.addSegment depth) {} = .ok q ↔
      ∃ items, Says depth raws items ∧ q = .ofItems items := by
  -- from the end: the last segment is added to what the others give
  induction raws using List.reverseRecOn generalizing q with
  | nil =>
    constructor
    · intro h
      cases h
      exact ⟨[], ⟨.nil, by simp, by simp⟩, rfl⟩
    · rintro ⟨items, hsays, rfl⟩
      cases hsays.reads
      rfl
  | append_singleton raws raw ih =>
    obtain ⟨hraws, hraw⟩ := List.forall_mem_append.1 hraws
    have hraw := hraw raw (List.mem_singleton_self raw)
    have hadd : ∀ init last, (Progress.ofItems init).add last = .ofItems (init ++ [last]) := by
      intro init last
      simp [Progress.add, Progress.ofItems]
    simp only [List.foldlM_append, bind_eq_ok, List.foldlM_cons, List.foldlM_nil, bind_pure,
      ih hraws, says_concat_iff]
    constructor
    · rintro ⟨p, ⟨init, hinit, rfl⟩, hq⟩
      have hnone := (isFinal_ofItems hinit).1 (isFinal_of_addSegment hq)
      have hopen := open_ofItems hinit hnone
      obtain ⟨-, last, hlast, hdiffer, rfl⟩ := (Progress.addSegment_eq_ok_iff hraw hopen).1 hq
      exact ⟨_, ⟨init, last, rfl, hinit, hnone, hlast, hdiffer⟩, hadd init last⟩
    · rintro ⟨items, ⟨init, last, rfl, hinit, hnone, hlast, hdiffer⟩, rfl⟩
      have hopen := open_ofItems hinit hnone
      have hfinal := (isFinal_ofItems hinit).2 hnone
      refine ⟨_, ⟨init, hinit, rfl⟩, (Progress.addSegment_eq_ok_iff hraw hopen).2 ?_⟩
      exact ⟨hfinal, last, hlast, hdiffer, (hadd init last).symm⟩

/-! ## Templates -/

theorem Says.undivided (h : Says depth raws items) : ∀ raw ∈ raws, Undivided false raw := by
  intro raw hraw
  obtain ⟨item, -, hreads⟩ := exists_of_forall₂_of_mem h.reads.flip hraw
  exact hreads.undivided

theorem parseChars_eq_ok_iff {cs : List Char} {q : Progress} :
    parseChars depth cs = .ok q ↔ ∃ raws items, cs = '/' :: ['/'].intercalate raws ∧
      Says depth raws items ∧ q = .ofItems items := by
  constructor
  · intro h
    unfold parseChars at h
    split at h
    · cases h
      exact ⟨[], [], rfl, ⟨.nil, by simp, by simp⟩, rfl⟩
    · obtain ⟨raws, hsplit, hq⟩ := bind_eq_ok.1 h
      obtain ⟨first, rest, rfl, hfirst, hrest, rfl⟩ := splitSegments_eq_ok_iff.1 hsplit
      have hraws := List.forall_mem_cons.2 ⟨hfirst, hrest⟩
      obtain ⟨items, hsays, rfl⟩ := (foldlM_addSegment_eq_ok_iff hraws).1 hq
      exact ⟨_, items, rfl, hsays, rfl⟩
    · cases h
  · rintro ⟨raws, items, rfl, hsays, rfl⟩
    have hraws := hsays.undivided
    cases raws with
    | nil =>
      cases hsays.reads
      rfl
    | cons first rest =>
      obtain ⟨hfirst, hrest⟩ := List.forall_mem_cons.1 hraws
      have hsplit := splitSegments_intercalate rest hfirst hrest
      have hne : ['/'].intercalate (first :: rest) ≠ [] := by
        intro hnil
        rw [hnil] at hsplit
        cases hsplit
        cases hsays.reads with
        | cons hreads _ => exact hreads.ne_nil rfl
      unfold parseChars
      split
      · next heq => exact absurd (List.cons.inj heq).2 hne
      · next heq =>
        cases heq
        rw [hsplit]
        exact (foldlM_addSegment_eq_ok_iff hraws).2 ⟨items, hsays, rfl⟩
      · next hslash => exact absurd rfl (hslash _)

/-- **What a template that is read says.** -/
theorem parse_eq_ok_iff {template : String} {t : Template} :
    Template.parse template depth = .ok t ↔ ∃ raws items,
      template.toList = '/' :: ['/'].intercalate raws ∧ Says depth raws items ∧
      t = ⟨template, items.flatMap Item.segments, items.flatMap Item.bindings⟩ := by
  unfold Template.parse
  constructor
  · intro h
    split at h
    · next p hp =>
      cases h
      obtain ⟨raws, items, hcs, hsays, rfl⟩ := parseChars_eq_ok_iff.1 hp
      exact ⟨raws, items, hcs, hsays, rfl⟩
    · cases h
  · rintro ⟨raws, items, hcs, hsays, rfl⟩
    rw [parseChars_eq_ok_iff.2 ⟨raws, items, hcs, hsays, rfl⟩]
    rfl

/-- **The templates that are read** are the single slash, and a slash before segments with slashes
between them that say items one after the other. -/
theorem parse_succeeds_iff (template : String) (depth : Nat) :
    (∃ t, Template.parse template depth = .ok t) ↔ template = "/" ∨
      ∃ raws items, raws ≠ [] ∧ template.toList = '/' :: ['/'].intercalate raws ∧
        Says depth raws items := by
  simp only [parse_eq_ok_iff]
  constructor
  · rintro ⟨t, raws, items, hcs, hsays, -⟩
    by_cases hraws : raws = []
    · left
      rw [← String.toList_inj, hcs, hraws]
      rfl
    · exact Or.inr ⟨raws, items, hraws, hcs, hsays⟩
  · rintro (rfl | ⟨raws, items, -, hcs, hsays⟩)
    · exact ⟨_, [], [], rfl, ⟨.nil, by simp, by simp⟩, rfl⟩
    · exact ⟨_, raws, items, hcs, hsays, rfl⟩

example : (Template.parse "/files/\x7b user.id = x/* \x7d/\x7bpath=**\x7d" 2).toBool = true := rfl

example : (Template.parse "/\x7ba=x\x7d\x7bb=y/**\x7d" 2).toBool = false := rfl

end ServiceContract.Route
