import Mathlib.Data.List.Basic
import ServiceContract.Proofs.Letters
import ServiceContract.Text.Blank
import ServiceContract.Text.Pieces

/-!
# Pieces and what they are joined to

Splitting at a separator undoes joining with it, as long as no piece holds the separator.

* `pieces_eq_iff`: the pieces of a text are what it is joined from.
* `cut?_eq_some_iff`: a text is cut at its first separator.
* `mem_trim`: trimming takes nothing but blanks away.
-/

namespace ServiceContract.Text

variable {sep : Char}

theorem pieces_ne_nil (cs : List Char) : pieces sep cs ≠ [] := by
  cases cs with
  | nil => simp [pieces]
  | cons c cs =>
    unfold pieces
    split
    · simp
    · split <;> simp

/-- No piece holds the separator. -/
theorem not_mem_of_mem_pieces {cs p : List Char} (h : p ∈ pieces sep cs) : sep ∉ p := by
  induction cs generalizing p with
  | nil =>
    rw [pieces, List.mem_singleton] at h
    subst h
    exact List.not_mem_nil
  | cons c cs ih =>
    unfold pieces at h
    split at h
    · rcases List.mem_cons.1 h with rfl | h
      · exact List.not_mem_nil
      · exact ih h
    · next hc =>
      split at h
      · next hnil => exact absurd hnil (pieces_ne_nil cs)
      · next q qs hq =>
        rcases List.mem_cons.1 h with rfl | h
        · have hq' : sep ∉ q := ih (by rw [hq]; exact List.mem_cons_self)
          exact List.not_mem_cons_of_ne_of_not_mem (Ne.symm hc) hq'
        · exact ih (by rw [hq]; exact List.mem_cons_of_mem _ h)

/-- A text without the separator is one piece. -/
theorem pieces_of_not_mem {p : List Char} (h : sep ∉ p) : pieces sep p = [p] := by
  induction p with
  | nil => rfl
  | cons c p ih =>
    have hc : ¬ c = sep := Ne.symm (List.ne_of_not_mem_cons h)
    have hp := List.not_mem_of_not_mem_cons h
    rw [pieces, if_neg hc, ih hp]

/-- The first piece ends at the first separator. -/
theorem pieces_append {p rest : List Char} (h : sep ∉ p) :
    pieces sep (p ++ sep :: rest) = p :: pieces sep rest := by
  induction p with
  | nil => rw [List.nil_append, pieces, if_pos rfl]
  | cons c p ih =>
    have hc : ¬ c = sep := Ne.symm (List.ne_of_not_mem_cons h)
    have hp := List.not_mem_of_not_mem_cons h
    rw [List.cons_append, pieces, if_neg hc, ih hp]

/-- **Splitting undoes joining.** -/
theorem pieces_flatMap {α : Type} {f : α → List Char} {p : List Char} {as : List α}
    (hp : sep ∉ p) (hf : ∀ a ∈ as, sep ∉ f a) :
    pieces sep (p ++ as.flatMap fun a => sep :: f a) = p :: as.map f := by
  induction as generalizing p with
  | nil => rw [List.flatMap_nil, List.append_nil, pieces_of_not_mem hp, List.map_nil]
  | cons a as ih =>
    have ha := hf a List.mem_cons_self
    have has : ∀ b ∈ as, sep ∉ f b := fun b hb => hf b (List.mem_cons_of_mem _ hb)
    rw [List.flatMap_cons, List.cons_append, pieces_append hp, ih ha has, List.map_cons]

/-- Joining with a separator before each is joining with separators between, after one more. -/
theorem cons_intercalate (p : List Char) (ps : List (List Char)) :
    sep :: [sep].intercalate (p :: ps) = (p :: ps).flatMap (sep :: ·) := by
  induction ps generalizing p with
  | nil => simp
  | cons q ps ih =>
    rw [List.flatMap_cons, ← ih q, List.intercalate_cons_cons]
    simp

/-- What follows without a separator is part of the last piece. -/
theorem exists_pieces_append (cs : List Char) : ∃ init last, ∀ rest, sep ∉ rest →
    pieces sep (cs ++ rest) = init ++ [last ++ rest] := by
  induction cs with
  | nil => exact ⟨[], [], fun rest hrest => pieces_of_not_mem hrest⟩
  | cons c cs ih =>
    obtain ⟨init, last, h⟩ := ih
    by_cases hc : c = sep
    · refine ⟨[] :: init, last, fun rest hrest => ?_⟩
      rw [List.cons_append, pieces, if_pos hc, h rest hrest, List.cons_append]
    · cases init with
      | nil =>
        refine ⟨[], c :: last, fun rest hrest => ?_⟩
        rw [List.cons_append, pieces, if_neg hc, h rest hrest]
        rfl
      | cons first init =>
        refine ⟨(c :: first) :: init, last, fun rest hrest => ?_⟩
        rw [List.cons_append, pieces, if_neg hc, h rest hrest]
        rfl

/-- Splitting is that of the library. -/
theorem pieces_eq_splitOn (cs : List Char) : pieces sep cs = List.splitOn sep cs := by
  induction cs with
  | nil => rfl
  | cons c cs ih =>
    rw [pieces, List.splitOn_cons_eq_if_modifyHead, ih]
    by_cases hc : c = sep
    · simp [hc]
    · rw [if_neg hc, if_neg (by simpa using hc)]
      cases hs : List.splitOn sep cs with
      | nil => exact absurd hs (List.splitOn_ne_nil sep cs)
      | cons p ps => rfl

/-- **Pieces are what a text is joined from**, as long as they do not hold the separator. -/
theorem pieces_eq_iff {cs : List Char} {ps : List (List Char)} :
    pieces sep cs = ps ↔ ps ≠ [] ∧ (∀ p ∈ ps, sep ∉ p) ∧ cs = [sep].intercalate ps := by
  constructor
  · rintro rfl
    refine ⟨pieces_ne_nil cs, fun p hp => not_mem_of_mem_pieces hp, ?_⟩
    rw [pieces_eq_splitOn, List.intercalate_splitOn]
  · rintro ⟨hne, hsep, rfl⟩
    rw [pieces_eq_splitOn, List.splitOn_intercalate sep hsep hne]

theorem mem_of_mem_intercalate {ps : List (List Char)} {c : Char}
    (h : c ∈ [sep].intercalate ps) : c = sep ∨ ∃ p ∈ ps, c ∈ p := by
  induction ps with
  | nil => simp at h
  | cons p ps ih =>
    cases ps with
    | nil => exact Or.inr ⟨p, List.mem_cons_self, by simpa using h⟩
    | cons q ps =>
      rw [List.intercalate_cons_cons, List.mem_append, List.mem_append, List.mem_singleton] at h
      rcases h with (h | h) | h
      · exact Or.inr ⟨p, List.mem_cons_self, h⟩
      · exact Or.inl h
      · obtain h | ⟨r, hr, hc⟩ := ih h
        · exact Or.inl h
        · exact Or.inr ⟨r, List.mem_cons_of_mem _ hr, hc⟩

/-- What is left after a start is what the start is followed by. -/
theorem after?_eq_some_iff {start cs rest : List Char} :
    after? start cs = some rest ↔ cs = start ++ rest := by
  induction start generalizing cs with
  | nil => simp [after?]
  | cons s start ih =>
    cases cs with
    | nil => simp [after?]
    | cons c cs =>
      rw [after?, List.cons_append, List.cons.injEq, ← ih]
      by_cases h : s = c
      · simp [h]
      · simp [h, Ne.symm h]

/-! ## Cutting and trimming -/

theorem cut?_eq_none_iff {cs : List Char} : cut? sep cs = none ↔ sep ∉ cs := by
  induction cs with
  | nil => simp [cut?]
  | cons c cs ih =>
    by_cases hc : c = sep
    · simp [cut?, hc]
    · simp [cut?, hc, ih, Ne.symm hc]

/-- A text is cut at its first separator. -/
theorem cut?_eq_some_iff {cs a b : List Char} :
    cut? sep cs = some (a, b) ↔ sep ∉ a ∧ cs = a ++ sep :: b := by
  induction cs generalizing a with
  | nil => simp [cut?]
  | cons c cs ih =>
    by_cases hc : c = sep
    · subst hc
      rw [cut?, if_pos rfl]
      constructor
      · intro h
        cases h
        exact ⟨List.not_mem_nil, rfl⟩
      · rintro ⟨ha, h⟩
        cases a with
        | nil =>
          cases h
          rfl
        | cons d a =>
          cases h
          exact absurd List.mem_cons_self ha
    · rw [cut?, if_neg hc, Option.map_eq_some_iff]
      constructor
      · rintro ⟨⟨a', b'⟩, h, heq⟩
        cases heq
        obtain ⟨ha, rfl⟩ := ih.1 h
        exact ⟨List.not_mem_cons_of_ne_of_not_mem (Ne.symm hc) ha, rfl⟩
      · rintro ⟨ha, h⟩
        cases a with
        | nil => exact absurd (List.cons.inj h).1 hc
        | cons d a =>
          cases h
          exact ⟨(a, b), ih.2 ⟨List.not_mem_of_not_mem_cons ha, rfl⟩, rfl⟩

theorem mem_dropWhile {ds : List Char} {c : Char} (h : c ∈ ds) (hc : isBlank c = false) :
    c ∈ ds.dropWhile isBlank := by
  induction ds with
  | nil => cases h
  | cons d ds ih =>
    by_cases hd : isBlank d = true
    · rw [List.dropWhile_cons_of_pos hd]
      rcases List.mem_cons.1 h with rfl | h
      · simp [hc] at hd
      · exact ih h
    · rw [List.dropWhile_cons_of_neg hd]
      exact h

/-- Trimming takes nothing but blanks away. -/
theorem mem_trim {cs : List Char} {c : Char} (h : c ∈ cs) (hc : isBlank c = false) :
    c ∈ trim cs := by
  have hstart : c ∈ (trimStart cs).reverse := List.mem_reverse.2 (mem_dropWhile h hc)
  exact List.mem_reverse.2 (mem_dropWhile hstart hc)

/-- A text without blanks is left as it is. -/
theorem trim_of_not_blank {cs : List Char} (h : ∀ c ∈ cs, isBlank c = false) : trim cs = cs := by
  have hkeep : ∀ ds : List Char, (∀ c ∈ ds, isBlank c = false) → ds.dropWhile isBlank = ds := by
    intro ds hds
    cases ds with
    | nil => rfl
    | cons d ds => exact List.dropWhile_cons_of_neg (by simp [hds d List.mem_cons_self])
  unfold trim trimStart trimEnd
  rw [hkeep cs h, hkeep cs.reverse fun c hc => h c (List.mem_reverse.1 hc), List.reverse_reverse]

/-! ## Identifiers -/

theorem isIdentifierStart_iff {c : Char} :
    isIdentifierStart c = true ↔ c.isAlpha = true ∨ c = '_' := by
  unfold isIdentifierStart
  simp only [Bool.or_eq_true, beq_iff_eq]

theorem isIdentifierChar_of_start {c : Char} (h : isIdentifierStart c = true) :
    isIdentifierChar c = true := by
  unfold isIdentifierChar Char.isAlphanum
  rcases isIdentifierStart_iff.1 h with h | h <;> simp [h]

theorem isIdentifierChar_of_mem {cs : List Char} {c : Char} (h : isIdentifier cs = true)
    (hc : c ∈ cs) : isIdentifierChar c = true := by
  cases cs with
  | nil => cases hc
  | cons d cs =>
    rw [isIdentifier, Bool.and_eq_true, List.all_eq_true] at h
    rcases List.mem_cons.1 hc with rfl | hc
    · exact isIdentifierChar_of_start h.1
    · exact h.2 c hc

/-- Letters, digits and the underscore lie between `0` and `z`. -/
theorem toNat_of_isIdentifierChar {c : Char} (h : isIdentifierChar c = true) :
    48 ≤ c.toNat ∧ c.toNat ≤ 122 := by
  rcases Bool.or_eq_true_iff.1 h with halphanum | hunderscore
  · rcases isAlphanum_iff.1 halphanum with h | h | h
    · have hrange := isUpper_iff.1 h
      omega
    · have hrange := isLower_iff.1 h
      omega
    · have hrange := isDigit_iff.1 h
      omega
  · cases eq_of_beq hunderscore
    decide

/-- No character of an identifier is blank. -/
theorem isBlank_of_isIdentifierChar {c : Char} (h : isIdentifierChar c = true) :
    isBlank c = false := by
  have hrange := toNat_of_isIdentifierChar h
  simp only [isBlank, Bool.or_eq_false_iff, Bool.and_eq_false_iff, decide_eq_false_iff_not,
    beq_eq_false_iff_ne]
  omega

end ServiceContract.Text
