import ServiceContract.Proofs.Attempts
import ServiceContract.Proofs.Pieces
import ServiceContract.Route.Template

/-!
# Dividing a path at its slashes

A path is divided at the slashes outside of braces. The texts between them are those that no slash
divides, and every way to join such texts is divided into them again.

* `Undivided`: a text that no slash divides.
* `splitSegments_eq_ok_iff`: what a path is divided into.
-/

namespace ServiceContract.Route

/-- **A text that no slash divides**: braces open and close in turn, slashes stand between them, and
the text ends outside of them. `inside` says whether it starts inside a placeholder. -/
inductive Undivided : (inside : Bool) → List Char → Prop
  | nil : Undivided false []
  | opening {cs : List Char} : Undivided true cs → Undivided false ('\x7b' :: cs)
  | closing {cs : List Char} : Undivided false cs → Undivided true ('\x7d' :: cs)
  | within {c : Char} {cs : List Char} : c ≠ '\x7b' → c ≠ '\x7d' → Undivided true cs →
      Undivided true (c :: cs)
  | outside {c : Char} {cs : List Char} : c ≠ '\x7b' → c ≠ '\x7d' → c ≠ '/' →
      Undivided false cs → Undivided false (c :: cs)

/-- Free of braces. -/
def BraceFree (cs : List Char) : Prop := '\x7b' ∉ cs ∧ '\x7d' ∉ cs

variable {inside : Bool} {cs p : List Char} {ps : List (List Char)}

theorem braceFree_cons {c : Char} :
    BraceFree (c :: cs) ↔ c ≠ '\x7b' ∧ c ≠ '\x7d' ∧ BraceFree cs := by
  unfold BraceFree
  simp only [List.mem_cons, not_or]
  constructor
  · rintro ⟨⟨h1, h2⟩, h3, h4⟩
    exact ⟨Ne.symm h1, Ne.symm h3, h2, h4⟩
  · rintro ⟨h1, h3, h2, h4⟩
    exact ⟨⟨Ne.symm h1, h2⟩, Ne.symm h3, h4⟩

/-- Outside of braces there is no slash. -/
theorem Undivided.slash_not_mem (h : Undivided false p) (hp : '\x7b' ∉ p) : '/' ∉ p := by
  generalize hin : false = inside at h
  induction h with
  | nil => exact List.not_mem_nil
  | opening _ _ => exact absurd List.mem_cons_self hp
  | closing _ _ => cases hin
  | within _ _ _ _ => cases hin
  | outside _ _ hslash _ ih =>
    exact List.not_mem_cons_of_ne_of_not_mem (Ne.symm hslash)
      (ih (List.not_mem_of_not_mem_cons hp) hin)

theorem undivided_of_not_mem (hb : BraceFree p) (hs : '/' ∉ p) : Undivided false p := by
  induction p with
  | nil => exact .nil
  | cons c p ih =>
    obtain ⟨hopen, hclose, hb⟩ := braceFree_cons.1 hb
    exact .outside hopen hclose (Ne.symm (List.ne_of_not_mem_cons hs))
      (ih hb (List.not_mem_of_not_mem_cons hs))

theorem undivided_placeholder (hb : BraceFree p) :
    Undivided false ('\x7b' :: (p ++ ['\x7d'])) := by
  refine .opening ?_
  induction p with
  | nil => exact .closing .nil
  | cons c p ih =>
    obtain ⟨hopen, hclose, hb⟩ := braceFree_cons.1 hb
    exact .within hopen hclose (ih hb)

theorem foldr_prependChar (p q : List Char) (qs : List (List Char)) :
    p.foldr prependChar (q :: qs) = (p ++ q) :: qs := by
  induction p with
  | nil => rfl
  | cons c p ih => rw [List.foldr_cons, ih, prependChar, List.cons_append]

/-- A text that no slash divides goes to the first piece as a whole. -/
theorem splitSegments_append (h : Undivided inside p) (tail : List Char) :
    splitSegments inside (p ++ tail) = p.foldr prependChar <$> splitSegments false tail := by
  induction h with
  | nil => exact (id_map _).symm
  | opening _ ih =>
    rw [List.cons_append, splitSegments, if_pos rfl, if_neg Bool.false_ne_true, ih]
    simp only [bind_pure_comp, Functor.map_map]
    rfl
  | closing _ ih =>
    rw [List.cons_append, splitSegments, if_neg (by decide), if_pos rfl, if_pos rfl, ih]
    simp only [bind_pure_comp, Functor.map_map]
    rfl
  | within hopen hclose _ ih =>
    rw [List.cons_append, splitSegments, if_neg hopen, if_neg hclose, if_neg (by simp), ih]
    simp only [bind_pure_comp, Functor.map_map]
    rfl
  | outside hopen hclose hslash _ ih =>
    rw [List.cons_append, splitSegments, if_neg hopen, if_neg hclose, if_neg (by simp [hslash]), ih]
    simp only [bind_pure_comp, Functor.map_map]
    rfl

theorem splitSegments_intercalate (ps : List (List Char)) (hp : Undivided inside p)
    (hps : ∀ q ∈ ps, Undivided false q) :
    splitSegments inside (['/'].intercalate (p :: ps)) = .ok (p :: ps) := by
  induction ps generalizing inside p with
  | nil =>
    have h := splitSegments_append hp []
    rw [List.append_nil] at h
    rw [List.intercalate_singleton, h, splitSegments, if_neg Bool.false_ne_true]
    show Except.ok (p.foldr prependChar [[]]) = _
    rw [foldr_prependChar, List.append_nil]
  | cons q qs ih =>
    obtain ⟨hq, hqs⟩ := List.forall_mem_cons.1 hps
    rw [List.intercalate_cons_cons, List.append_assoc, splitSegments_append hp,
      List.singleton_append, splitSegments, if_neg (by decide), if_neg (by decide),
      if_pos (by decide), ih hq hqs]
    show Except.ok (p.foldr prependChar ([] :: q :: qs)) = _
    rw [foldr_prependChar, List.append_nil]

theorem intercalate_prependChar (c : Char) :
    ['/'].intercalate (prependChar c (p :: ps)) = c :: ['/'].intercalate (p :: ps) := by
  cases ps with
  | nil => rw [prependChar, List.intercalate_singleton, List.intercalate_singleton]
  | cons q qs =>
    rw [prependChar, List.intercalate_cons_cons, List.intercalate_cons_cons]
    rfl

/-- **A path is divided into texts that no slash divides**, and in no other way. -/
theorem splitSegments_eq_ok_iff :
    splitSegments inside cs = .ok ps ↔ ∃ p rest, ps = p :: rest ∧ Undivided inside p ∧
      (∀ q ∈ rest, Undivided false q) ∧ cs = ['/'].intercalate ps := by
  constructor
  · intro h
    induction cs generalizing inside ps with
    | nil =>
      unfold splitSegments at h
      cases inside with
      | true => cases h
      | false =>
        cases h
        exact ⟨[], [], rfl, .nil, by simp, by simp⟩
    | cons c cs ih =>
      unfold splitSegments at h
      split at h
      -- an opening brace
      · next hopen =>
        subst hopen
        cases inside with
        | true => cases h
        | false =>
          obtain ⟨ps', h', hps⟩ := bind_eq_ok.1 h
          obtain ⟨p, rest, rfl, hp, hrest, rfl⟩ := ih h'
          cases hps
          exact ⟨_, rest, rfl, .opening hp, hrest, (intercalate_prependChar _).symm⟩
      · next hopen =>
        split at h
        -- a closing brace
        · next hclose =>
          subst hclose
          cases inside with
          | false => cases h
          | true =>
            obtain ⟨ps', h', hps⟩ := bind_eq_ok.1 h
            obtain ⟨p, rest, rfl, hp, hrest, rfl⟩ := ih h'
            cases hps
            exact ⟨_, rest, rfl, .closing hp, hrest, (intercalate_prependChar _).symm⟩
        · next hclose =>
          split at h
          -- a slash between two segments
          · next hslash =>
            obtain ⟨rfl, rfl⟩ : c = '/' ∧ inside = false := by simpa using hslash
            obtain ⟨ps', h', hps⟩ := bind_eq_ok.1 h
            obtain ⟨p, rest, rfl, hp, hrest, rfl⟩ := ih h'
            cases hps
            refine ⟨[], p :: rest, rfl, .nil, List.forall_mem_cons.2 ⟨hp, hrest⟩, ?_⟩
            rw [List.intercalate_cons_cons]
            rfl
          · next hslash =>
            obtain ⟨ps', h', hps⟩ := bind_eq_ok.1 h
            obtain ⟨p, rest, rfl, hp, hrest, rfl⟩ := ih h'
            cases hps
            refine ⟨_, rest, rfl, ?_, hrest, (intercalate_prependChar _).symm⟩
            cases inside with
            | true => exact .within hopen hclose hp
            | false => exact .outside hopen hclose (by simpa using hslash) hp
  · rintro ⟨p, rest, rfl, hp, hrest, rfl⟩
    exact splitSegments_intercalate rest hp hrest

end ServiceContract.Route
