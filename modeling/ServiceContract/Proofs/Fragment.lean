import Mathlib.Data.List.TakeWhile
import ServiceContract.Binding.Tag
import ServiceContract.Proofs.Attempts
import ServiceContract.Proofs.Pieces

/-!
# The grammar of tag fragments

A fragment is read exactly if it is made of pairs `key:"value"` with blanks around them, and there is
then one way to take it apart. A value may hold blanks, colons and what looks like a further pair; it
ends at the first quote that no backslash takes with it.

* `Tag.IsPair`: the tags that can be written in a fragment.
* `Fragment`: a fragment taken apart, with the blanks at each place.
* `scanValue?_eq_some_iff`, `scan?_eq_some_iff`: what is read of a value and of a pair.
* `parseFrom_eq_ok_iff`: what is read of pairs one after the other.
* `fragments_read`: the fragments that are read are those of the grammar, and written tags are read
  back.
-/

namespace ServiceContract.Binding

/-! ## The grammar -/

/-- **A key**: a letter or underscore, then letters, digits, underscores, dots and hyphens. -/
inductive IsKey : List Char → Prop
  | mk {c : Char} {rest : List Char} : c.isAlpha = true ∨ c = '_' →
      (∀ d ∈ rest, d.isAlphanum = true ∨ d = '_' ∨ d = '.' ∨ d = '-') → IsKey (c :: rest)

/-- **A value**: characters other than quote and backslash, and backslashes that each take the next
character with them, which is no line break. -/
inductive IsValue : List Char → Prop
  | nil : IsValue []
  | plain {c : Char} {cs : List Char} : c ≠ '"' → c ≠ '\\' → IsValue cs → IsValue (c :: cs)
  | escaped {c : Char} {cs : List Char} : c ≠ '\n' → IsValue cs → IsValue ('\\' :: c :: cs)

/-- **A tag that can be written as a pair.** -/
structure Tag.IsPair (t : Tag) : Prop where
  key : IsKey t.key.toList
  value : IsValue t.value.toList

/-- A text of blanks. -/
def Blank (cs : List Char) : Prop := ∀ c ∈ cs, Text.isBlank c = true

/-- A fragment taken apart: the blanks before the first tag, and each tag with the blanks after
it. -/
@[ext]
structure Fragment where
  lead : List Char
  pairs : List (Tag × List Char)

/-- Pairs and the blanks after them, as one text. -/
def pairsText (pairs : List (Tag × List Char)) : List Char :=
  pairs.flatMap fun p => p.1.render.toList ++ p.2

/-- **Pairs that can stand one after the other**: each with blanks after it, and none without but the
last. -/
@[mk_iff]
structure Spaced (pairs : List (Tag × List Char)) : Prop where
  pair : ∀ p ∈ pairs, p.1.IsPair
  blank : ∀ p ∈ pairs, Blank p.2
  apart : ∀ p ∈ pairs.dropLast, p.2 ≠ []

namespace Fragment

/-- The text of a fragment. -/
def text (f : Fragment) : List Char := f.lead ++ pairsText f.pairs

/-- The tags of a fragment. -/
def tags (f : Fragment) : List Tag := f.pairs.map (·.1)

/-- **A fragment of the grammar.** -/
@[mk_iff]
structure IsProper (f : Fragment) : Prop where
  lead : Blank f.lead
  spaced : Spaced f.pairs

end Fragment

/-! ## Keys and values -/

variable {t : Tag} {ts : List Tag} {cs rest gap : List Char} {pairs : List (Tag × List Char)}

namespace Tag

theorem isKeyChar_iff {c : Char} :
    isKeyChar c = true ↔ c.isAlphanum = true ∨ c = '_' ∨ c = '.' ∨ c = '-' := by
  unfold isKeyChar Text.isIdentifierChar
  simp only [Bool.or_eq_true, beq_iff_eq, or_assoc]

theorem scanKey?_sound {key : List Char} (h : scanKey? cs = some (key, rest)) :
    IsKey key ∧ cs = key ++ rest := by
  unfold scanKey? at h
  split at h
  · cases h
  · next c tail =>
    split at h
    · next hstart =>
      cases h
      refine ⟨.mk (Text.isIdentifierStart_iff.1 hstart) fun d hd => ?_, ?_⟩
      · exact isKeyChar_iff.1 (List.mem_takeWhile_imp hd)
      · rw [List.cons_append, List.takeWhile_append_dropWhile]
    · cases h

/-- A key ends at its colon, since no key holds one. -/
theorem scanKey?_complete {key : List Char} (h : IsKey key) (rest : List Char) :
    scanKey? (key ++ ':' :: rest) = some (key, ':' :: rest) := by
  cases h with
  | @mk c tail hstart htail =>
    have hall : ∀ d ∈ tail, isKeyChar d = true := fun d hd => isKeyChar_iff.2 (htail d hd)
    have hcolon : ¬ isKeyChar ':' = true := by decide
    unfold scanKey?
    simp only [List.cons_append]
    rw [if_pos (Text.isIdentifierStart_iff.2 hstart), List.takeWhile_append_of_pos hall,
      List.dropWhile_append_of_pos hall, List.takeWhile_cons_of_neg hcolon,
      List.dropWhile_cons_of_neg hcolon, List.append_nil]

theorem scanValue?_sound {value : List Char} (h : scanValue? cs = some (value, rest)) :
    IsValue value ∧ cs = value ++ '"' :: rest := by
  fun_induction scanValue? cs generalizing value rest with
  | case1 => cases h
  | case2 tail =>
    cases h
    exact ⟨.nil, rfl⟩
  | case3 => cases h
  | case4 tail => cases h
  | case5 c tail hbreak ih =>
    obtain ⟨⟨v, r⟩, hv, heq⟩ := Option.map_eq_some_iff.1 h
    cases heq
    obtain ⟨hvalue, rfl⟩ := ih hv
    exact ⟨.escaped hbreak hvalue, rfl⟩
  | case6 c tail hquote hlone hslash ih =>
    obtain ⟨⟨v, r⟩, hv, heq⟩ := Option.map_eq_some_iff.1 h
    cases heq
    obtain ⟨hvalue, rfl⟩ := ih hv
    -- a backslash would have taken the next character with it, or stood at the end
    have hplain : c ≠ '\\' := by
      intro hc
      cases hrest : v ++ '"' :: rest with
      | nil => exact hlone hc hrest
      | cons d tail => exact hslash d tail hc hrest
    exact ⟨.plain hquote hplain hvalue, rfl⟩

/-- A value ends at the first quote that no backslash takes with it. -/
theorem scanValue?_complete {value : List Char} (h : IsValue value) (rest : List Char) :
    scanValue? (value ++ '"' :: rest) = some (value, rest) := by
  induction h with
  | nil => rw [List.nil_append, scanValue?]
  | plain hquote hslash _ ih =>
    rw [List.cons_append, scanValue?.eq_5 _ _ hquote (fun hc _ => hslash hc)
      (fun _ _ hc _ => hslash hc), ih]
    rfl
  | escaped hbreak _ ih =>
    rw [List.cons_append, List.cons_append, scanValue?, if_neg hbreak, ih]
    rfl

theorem scanValue?_eq_some_iff {value : List Char} :
    scanValue? cs = some (value, rest) ↔ IsValue value ∧ cs = value ++ '"' :: rest := by
  constructor
  · exact scanValue?_sound
  · rintro ⟨hvalue, rfl⟩
    exact scanValue?_complete hvalue rest

/-! ## Pairs -/

theorem toList_render (t : Tag) :
    t.render.toList = t.key.toList ++ ':' :: '"' :: (t.value.toList ++ ['"']) := by
  unfold render
  simp

/-- **A pair is read where one is written**, whatever follows it. -/
theorem scan?_eq_some_iff :
    scan? cs = some (t, rest) ↔ t.IsPair ∧ cs = t.render.toList ++ rest := by
  constructor
  · intro h
    simp only [scan?, Option.bind_eq_bind, Option.bind_eq_some_iff] at h
    obtain ⟨⟨key, tail⟩, hkey, hafter⟩ := h
    obtain ⟨hkey, rfl⟩ := scanKey?_sound hkey
    split at hafter
    · next after htail =>
      obtain ⟨⟨value, rest'⟩, hvalue, hdone⟩ := Option.bind_eq_some_iff.1 hafter
      obtain ⟨hvalue, rfl⟩ := scanValue?_eq_some_iff.1 hvalue
      obtain ⟨rfl, rfl⟩ := Prod.mk.inj (Option.some.inj hdone)
      obtain rfl : tail = _ := htail
      refine ⟨⟨?_, ?_⟩, ?_⟩
      · rwa [String.toList_ofList]
      · rwa [String.toList_ofList]
      · simp [toList_render]
    · cases hafter
  · rintro ⟨hpair, rfl⟩
    have htext : t.render.toList ++ rest =
        t.key.toList ++ ':' :: '"' :: (t.value.toList ++ '"' :: rest) := by
      simp [toList_render]
    have hvalue := scanValue?_eq_some_iff.2 ⟨hpair.value, Eq.refl (t.value.toList ++ '"' :: rest)⟩
    rw [htext]
    unfold scan?
    rw [scanKey?_complete hpair.key]
    simp [hvalue]

end Tag

instance (t : Tag) : Decidable t.IsPair :=
  decidable_of_iff (Tag.scan? t.render.toList = some (t, []))
    (by rw [Tag.scan?_eq_some_iff, List.append_nil, and_iff_left rfl])

instance (cs : List Char) : Decidable (Blank cs) :=
  decidable_of_iff (cs.all Text.isBlank = true) List.all_eq_true

instance (pairs : List (Tag × List Char)) : Decidable (Spaced pairs) :=
  decidable_of_iff _ (spaced_iff pairs).symm

instance (f : Fragment) : Decidable f.IsProper :=
  decidable_of_iff _ (Fragment.isProper_iff f).symm

theorem IsKey.exists_cons {key : List Char} (h : IsKey key) :
    ∃ c rest, key = c :: rest ∧ Text.isBlank c = false := by
  obtain ⟨hstart, -⟩ := h
  have hchar := Text.isIdentifierChar_of_start (Text.isIdentifierStart_iff.2 hstart)
  exact ⟨_, _, rfl, Text.isBlank_of_isIdentifierChar hchar⟩

/-! ## Pairs one after the other -/

theorem pairsText_cons (t : Tag) (gap : List Char) (pairs : List (Tag × List Char)) :
    pairsText ((t, gap) :: pairs) = t.render.toList ++ (gap ++ pairsText pairs) := by
  unfold pairsText
  rw [List.flatMap_cons, List.append_assoc]

theorem spaced_nil : Spaced [] := ⟨by simp, by simp, by simp⟩

theorem spaced_cons_iff :
    Spaced ((t, gap) :: pairs) ↔
      t.IsPair ∧ Blank gap ∧ (pairs ≠ [] → gap ≠ []) ∧ Spaced pairs := by
  have hdrop : (∀ p ∈ ((t, gap) :: pairs).dropLast, p.2 ≠ []) ↔
      (pairs ≠ [] → gap ≠ []) ∧ ∀ p ∈ pairs.dropLast, p.2 ≠ [] := by
    cases pairs with
    | nil => simp
    | cons p pairs =>
      rw [List.dropLast_cons_of_ne_nil (List.cons_ne_nil _ _), List.forall_mem_cons]
      simp
  constructor
  · rintro ⟨hpair, hblank, hapart⟩
    obtain ⟨ht, hpair⟩ := List.forall_mem_cons.1 hpair
    obtain ⟨hgap, hblank⟩ := List.forall_mem_cons.1 hblank
    obtain ⟨hfirst, hapart⟩ := hdrop.1 hapart
    exact ⟨ht, hgap, hfirst, hpair, hblank, hapart⟩
  · rintro ⟨ht, hgap, hfirst, hpair, hblank, hapart⟩
    exact ⟨List.forall_mem_cons.2 ⟨ht, hpair⟩, List.forall_mem_cons.2 ⟨hgap, hblank⟩,
      hdrop.2 ⟨hfirst, hapart⟩⟩

theorem pairsText_ne_nil (h : pairs ≠ []) : pairsText pairs ≠ [] := by
  cases pairs with
  | nil => exact absurd rfl h
  | cons p pairs =>
    obtain ⟨t, gap⟩ := p
    rw [pairsText_cons, Tag.toList_render]
    simp

/-- A pair starts with its key, which is not blank. -/
theorem Spaced.head?_isBlank (h : Spaced pairs) :
    (pairsText pairs).head?.any Text.isBlank = false := by
  cases pairs with
  | nil => rfl
  | cons p pairs =>
    obtain ⟨t, gap⟩ := p
    obtain ⟨c, rest, hkey, hblank⟩ := (spaced_cons_iff.1 h).1.key.exists_cons
    rw [pairsText_cons, Tag.toList_render, hkey]
    simp [hblank]

/-- **Blanks before pairs end where the first pair starts.** -/
theorem Spaced.takeWhile_gap (h : Spaced pairs) (hgap : Blank gap) :
    (gap ++ pairsText pairs).takeWhile Text.isBlank = gap ∧
      (gap ++ pairsText pairs).dropWhile Text.isBlank = pairsText pairs := by
  have hhead := h.head?_isBlank
  rw [List.takeWhile_append_of_pos hgap, List.dropWhile_append_of_pos hgap]
  cases htext : pairsText pairs with
  | nil => simp
  | cons c cs =>
    rw [htext] at hhead
    have hc : ¬ Text.isBlank c = true := by simpa using hhead
    rw [List.takeWhile_cons_of_neg hc, List.dropWhile_cons_of_neg hc, List.append_nil]
    exact ⟨rfl, rfl⟩

namespace Tag

/-- One turn of reading: a pair, the blanks after it, and the pairs from there on. -/
theorem parseFrom_of_scan? (h : scan? cs = some (t, rest))
    (hrest : rest.head?.any (!Text.isBlank ·) = false) :
    parseFrom cs = (t :: ·) <$> parseFrom (Text.trimStart rest) := by
  have hne : ¬ cs.isEmpty = true := by
    intro hnil
    rw [List.isEmpty_iff.1 hnil] at h
    cases h
  rw [parseFrom, if_neg hne]
  split
  · next hnone =>
    rw [h] at hnone
    cases hnone
  · next tag tail hsome =>
    rw [h] at hsome
    cases hsome
    rw [if_neg (by simp [hrest])]
    rfl

theorem parseFrom_sound (h : parseFrom cs = .ok ts) :
    ∃ pairs, Spaced pairs ∧ cs = pairsText pairs ∧ pairs.map (·.1) = ts := by
  fun_induction parseFrom cs generalizing ts with
  | case1 cs hempty =>
    cases h
    exact ⟨[], spaced_nil, List.isEmpty_iff.1 hempty, rfl⟩
  | case2 cs _ _ => cases h
  | case3 cs _ tag tail _ _ => cases h
  | case4 cs _ tag tail hscan hhead ih =>
    obtain ⟨ts', hts', heq⟩ := bind_eq_ok.1 h
    cases heq
    obtain ⟨pairs, hspaced, htail, rfl⟩ := ih hts'
    obtain ⟨hpair, rfl⟩ := scan?_eq_some_iff.1 hscan
    have hblank : Blank (tail.takeWhile Text.isBlank) := fun c hc => List.mem_takeWhile_imp hc
    -- a further pair means that the tail is not empty, and then it starts with a blank
    have hapart : pairs ≠ [] → tail.takeWhile Text.isBlank ≠ [] := by
      intro hpairs
      cases tail with
      | nil => exact absurd htail.symm (pairsText_ne_nil hpairs)
      | cons c tail =>
        have hc : Text.isBlank c = true := by simpa using hhead
        rw [List.takeWhile_cons_of_pos hc]
        exact List.cons_ne_nil _ _
    refine ⟨(tag, tail.takeWhile Text.isBlank) :: pairs,
      spaced_cons_iff.2 ⟨hpair, hblank, hapart, hspaced⟩, ?_, rfl⟩
    rw [pairsText_cons, ← htail, Text.trimStart, List.takeWhile_append_dropWhile]

theorem parseFrom_complete (h : Spaced pairs) :
    parseFrom (pairsText pairs) = .ok (pairs.map (·.1)) := by
  induction pairs with
  | nil =>
    rw [parseFrom]
    rfl
  | cons p pairs ih =>
    obtain ⟨t, gap⟩ := p
    obtain ⟨hpair, hgap, hapart, hspaced⟩ := spaced_cons_iff.1 h
    have hscan := scan?_eq_some_iff.2 ⟨hpair, pairsText_cons t gap pairs⟩
    -- what follows a pair is a blank, or nothing if the pair is the last
    have hhead : (gap ++ pairsText pairs).head?.any (!Text.isBlank ·) = false := by
      cases gap with
      | nil =>
        have hnil : pairs = [] := by
          by_contra hpairs
          exact hapart hpairs rfl
        rw [hnil]
        rfl
      | cons c gap => simp [hgap c List.mem_cons_self]
    rw [parseFrom_of_scan? hscan hhead, Text.trimStart, (hspaced.takeWhile_gap hgap).2,
      ih hspaced]
    rfl

/-- **Pairs one after the other** are read where they are written with blanks between them. -/
theorem parseFrom_eq_ok_iff :
    parseFrom cs = .ok ts ↔ ∃ pairs, Spaced pairs ∧ cs = pairsText pairs ∧ pairs.map (·.1) = ts := by
  constructor
  · exact parseFrom_sound
  · rintro ⟨pairs, hspaced, rfl, rfl⟩
    exact parseFrom_complete hspaced

end Tag

/-! ## Fragments -/

theorem Spaced.unique {pairs' : List (Tag × List Char)} (h : Spaced pairs) (h' : Spaced pairs')
    (htext : pairsText pairs = pairsText pairs') : pairs = pairs' := by
  induction pairs generalizing pairs' with
  | nil =>
    by_contra hne
    exact pairsText_ne_nil (Ne.symm hne) htext.symm
  | cons p pairs ih =>
    cases pairs' with
    | nil => exact absurd htext (pairsText_ne_nil (List.cons_ne_nil _ _))
    | cons p' pairs' =>
      obtain ⟨t, gap⟩ := p
      obtain ⟨t', gap'⟩ := p'
      obtain ⟨hpair, hgap, -, hspaced⟩ := spaced_cons_iff.1 h
      obtain ⟨hpair', hgap', -, hspaced'⟩ := spaced_cons_iff.1 h'
      -- both are read from one text, so the first pairs and what follows them are the same
      have hscan := Tag.scan?_eq_some_iff.2 ⟨hpair, pairsText_cons t gap pairs⟩
      rw [htext, Tag.scan?_eq_some_iff.2 ⟨hpair', pairsText_cons t' gap' pairs'⟩] at hscan
      obtain ⟨rfl, hrest⟩ := Prod.mk.inj (Option.some.inj hscan)
      have hsplit := hspaced.takeWhile_gap hgap
      rw [← hrest, (hspaced'.takeWhile_gap hgap').1, (hspaced'.takeWhile_gap hgap').2] at hsplit
      rw [hsplit.1, ih hspaced hspaced' hsplit.2.symm]

/-- **There is one way to take a fragment apart.** -/
theorem Fragment.IsProper.unique {f f' : Fragment} (h : f.IsProper) (h' : f'.IsProper)
    (htext : f.text = f'.text) : f = f' := by
  have hsplit := h.spaced.takeWhile_gap h.lead
  unfold Fragment.text at htext
  rw [htext, (h'.spaced.takeWhile_gap h'.lead).1, (h'.spaced.takeWhile_gap h'.lead).2] at hsplit
  exact Fragment.ext hsplit.1.symm (h.spaced.unique h'.spaced hsplit.2.symm)

theorem parseFragment_eq_ok_iff {text : String} :
    Tag.parseFragment text = .ok ts ↔
      ∃ f : Fragment, f.IsProper ∧ text.toList = f.text ∧ f.tags = ts := by
  unfold Tag.parseFragment
  rw [Tag.parseFrom_eq_ok_iff]
  constructor
  · rintro ⟨pairs, hspaced, htext, htags⟩
    have hlead : Blank (text.toList.takeWhile Text.isBlank) := fun c hc => List.mem_takeWhile_imp hc
    refine ⟨⟨text.toList.takeWhile Text.isBlank, pairs⟩, ⟨hlead, hspaced⟩, ?_, htags⟩
    rw [Fragment.text, ← htext, Text.trimStart, List.takeWhile_append_dropWhile]
  · rintro ⟨f, hproper, htext, htags⟩
    refine ⟨f.pairs, hproper.spaced, ?_, htags⟩
    rw [htext, Text.trimStart, Fragment.text, (hproper.spaced.takeWhile_gap hproper.lead).2]

/-- Tags with a space between them are pairs one after the other. -/
theorem exists_spaced_render (h : ∀ t ∈ ts, t.IsPair) :
    ∃ pairs, Spaced pairs ∧ (TagSet.render ⟨ts⟩).toList = pairsText pairs ∧
      pairs.map (·.1) = ts := by
  unfold TagSet.render
  rw [String.toList_intercalate]
  induction ts with
  | nil => exact ⟨[], spaced_nil, rfl, rfl⟩
  | cons t ts ih =>
    obtain ⟨ht, hts⟩ := List.forall_mem_cons.1 h
    obtain ⟨pairs, hspaced, htext, rfl⟩ := ih hts
    cases pairs with
    | nil =>
      refine ⟨[(t, [])], spaced_cons_iff.2 ⟨ht, by simp [Blank], by simp, spaced_nil⟩, ?_, rfl⟩
      rw [pairsText_cons]
      simp [pairsText]
    | cons p pairs =>
      refine ⟨(t, [' ']) :: p :: pairs,
        spaced_cons_iff.2 ⟨ht, ?_, fun _ => List.cons_ne_nil _ _, hspaced⟩, ?_, rfl⟩
      · exact List.forall_mem_singleton.2 rfl
      · rw [pairsText_cons, ← htext]
        simp

/-- **Fragments of tags are read exactly by their grammar**:

* a text is read as some tags exactly if it can be taken apart into these tags and blanks;
* there is one way to take it apart;
* every turn of reading leaves a shorter text, so that reading ends on every text;
* tags that can be written as pairs are read back from their text. -/
theorem fragments_read :
    (∀ (text : String) (ts : List Tag), Tag.parseFragment text = .ok ts ↔
      ∃ f : Fragment, f.IsProper ∧ text.toList = f.text ∧ f.tags = ts) ∧
    (∀ f f' : Fragment, f.IsProper → f'.IsProper → f.text = f'.text → f = f') ∧
    (∀ cs t rest, Tag.scan? cs = some (t, rest) → (Text.trimStart rest).length < cs.length) ∧
    (∀ ts : List Tag, (∀ t ∈ ts, t.IsPair) →
      Tag.parseFragment (TagSet.render ⟨ts⟩) = .ok ts) := by
  refine ⟨fun text ts => parseFragment_eq_ok_iff, fun f f' => Fragment.IsProper.unique,
    fun cs t rest h => ?_, fun ts h => ?_⟩
  · exact Nat.lt_of_le_of_lt (List.length_dropWhile_le _ _) (Tag.length_scan? h)
  · obtain ⟨pairs, hspaced, htext, rfl⟩ := exists_spaced_render h
    exact parseFragment_eq_ok_iff.2 ⟨⟨[], pairs⟩, ⟨by simp [Blank], hspaced⟩, htext, rfl⟩

/-- A fragment with blanks of several kinds, and a value that holds an escaped quote, blanks and what
looks like a further pair. -/
def rules : Fragment where
  lead := [' ']
  pairs := [(⟨"vd", "regexp('\\\"x\\\" y:1')"⟩, ['\t', '\u2003']), (⟨"a.b-c", ""⟩, [])]

theorem fragments_read_rules :
    rules.IsProper ∧
      (∀ f : Fragment, f.IsProper → f.text = rules.text → f = rules) ∧
      Tag.parseFragment (String.ofList rules.text) = .ok rules.tags ∧
      (∃ t rest, Tag.scan? (pairsText rules.pairs) = some (t, rest) ∧
        (Text.trimStart rest).length < (pairsText rules.pairs).length) ∧
      Tag.parseFragment (TagSet.render ⟨rules.tags⟩) = .ok rules.tags := by
  obtain ⟨hread, hunique, hshorter, hback⟩ := fragments_read
  have hpairs : ∀ t ∈ rules.tags, t.IsPair := by decide
  have hproper : rules.IsProper := by decide
  refine ⟨hproper, fun f hf heq => hunique f rules hf hproper heq, ?_, ⟨_, _, rfl, ?_⟩,
    hback _ hpairs⟩
  · exact (hread _ _).2 ⟨rules, hproper, String.toList_ofList, rfl⟩
  · exact hshorter _ _ _ rfl

end ServiceContract.Binding
