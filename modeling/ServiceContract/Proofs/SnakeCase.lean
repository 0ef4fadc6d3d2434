import Mathlib.Data.List.Chain
import Mathlib.Data.Set.Operations
import Mathlib.Tactic.MkIffOfInductiveProp
import ServiceContract.Proofs.Letters
import ServiceContract.Text.SnakeCase

/-!
# Names in snake case

The snake case of a name is read off the name character by character, and a name in plain mixed
case can be read back from it.

* `toList_snakeCase`: the characters that snake case writes; no underscore is ever held back.
* `snakeCase_injOn`: names in plain mixed case have snake cases of their own.
-/

namespace ServiceContract.Text

/-- What the rest of a name gives in snake case, after the character `prev`. -/
def snakeChars (prev : Option Char) : List Char → List Char
  | [] => []
  | c :: cs =>
    (if startsWord prev c cs.head? then ['_'] else []) ++ c.toLower :: snakeChars (some c) cs

/-- A word starts only after a letter or digit. -/
theorem exists_isAlphanum_of_startsWord {prev next : Option Char} {c : Char}
    (h : startsWord prev c next = true) : ∃ p, prev = some p ∧ p.isAlphanum = true := by
  unfold startsWord at h
  cases prev with
  | none => simp at h
  | some p =>
    refine ⟨p, rfl, ?_⟩
    simp only [Bool.and_eq_true, Bool.or_eq_true] at h
    rw [isAlphanum_iff]
    rcases h.2 with (hl | hd) | hu
    · exact .inr (.inl hl)
    · exact .inr (.inr hd)
    · exact .inl hu.1

/-- **No underscore is held back**: where a word starts, none stands before. -/
theorem snakeFrom_eq (prev : Option Char) (out cs : List Char)
    (h : out.head? = prev.map Char.toLower) :
    snakeFrom prev out cs = out.reverse ++ snakeChars prev cs := by
  induction cs generalizing prev out with
  | nil => simp [snakeFrom, snakeChars]
  | cons c cs ih =>
    unfold snakeFrom snakeChars
    by_cases hstart : startsWord prev c cs.head? = true
    · obtain ⟨p, rfl, hp⟩ := exists_isAlphanum_of_startsWord hstart
      have hlast : (out.head? != some '_') = true := by
        rw [h]
        simpa using toLower_ne_underscore hp
      simp only [hstart, hlast, Bool.and_self, if_true]
      rw [ih (some c) _ rfl]
      simp
    · simp only [hstart, Bool.false_and]
      rw [ih (some c) _ rfl]
      simp

theorem toList_snakeCase (name : String) :
    (snakeCase name).toList = snakeChars none name.toList := by
  unfold snakeCase
  rw [snakeFrom_eq none [] name.toList rfl, String.toList_ofList]
  rfl

/-! ## Reading names back -/

/-- **Plain mixed case**: ASCII letters and digits, a capital first, and no two capitals in a
row. -/
@[mk_iff]
structure IsMixedCase (name : String) : Prop where
  alphanum : name.toList.all Char.isAlphanum = true
  head : name.toList.head?.all Char.isUpper = true
  apart : name.toList.IsChain fun b c => ¬ (b.isUpper = true ∧ c.isUpper = true)

instance : DecidablePred IsMixedCase := fun name =>
  decidable_of_iff _ (isMixedCase_iff name).symm

/-- A name in mixed case from its snake case: each underscore makes a capital of what follows. -/
def mixedChars (capital : Bool) : List Char → List Char
  | [] => []
  | c :: cs =>
    if c = '_' then mixedChars true cs
    else (if capital then c.toUpper else c) :: mixedChars false cs

theorem mixedChars_capital {c : Char} (h : c.isUpper = true) (cs : List Char) :
    mixedChars true (c.toLower :: cs) = c :: mixedChars false cs := by
  have hc : c.isAlphanum = true := isAlphanum_iff.2 (.inl h)
  rw [mixedChars, if_neg (toLower_ne_underscore hc), if_pos rfl, toUpper_toLower h]

/-- After a letter or digit, the rest of a name in mixed case is read back. -/
theorem mixedChars_snakeChars {p : Char} {cs : List Char} (hp : p.isAlphanum = true)
    (hcs : ∀ c ∈ cs, c.isAlphanum = true)
    (hapart : (p :: cs).IsChain fun b c => ¬ (b.isUpper = true ∧ c.isUpper = true)) :
    mixedChars false (snakeChars (some p) cs) = cs := by
  induction cs generalizing p with
  | nil => rfl
  | cons c cs ih =>
    obtain ⟨hpc, hapart⟩ := List.isChain_cons_cons.1 hapart
    have hc := hcs c List.mem_cons_self
    have hrest := ih hc (fun x hx => hcs x (List.mem_cons_of_mem c hx)) hapart
    by_cases hupper : c.isUpper = true
    -- a capital is led by an underscore, since what stands before it is none
    · have hp' : (p.isLower || p.isDigit) = true := by
        have hnot : ¬ p.isUpper = true := fun h => hpc ⟨h, hupper⟩
        rw [Bool.or_eq_true]
        exact (isAlphanum_iff.1 hp).resolve_left hnot
      have hstart : startsWord (some p) c cs.head? = true := by
        unfold startsWord
        simp [hupper, hp']
      rw [snakeChars, if_pos hstart, List.singleton_append, mixedChars, if_pos rfl,
        mixedChars_capital hupper, hrest]
    · have hstart : ¬ startsWord (some p) c cs.head? = true := by
        unfold startsWord
        simp [hupper]
      have hlower := toLower_ne_underscore hc
      rw [toLower_of_not_isUpper hupper] at hlower
      rw [snakeChars, if_neg hstart, List.nil_append, toLower_of_not_isUpper hupper,
        mixedChars, if_neg hlower, if_neg Bool.false_ne_true, hrest]

/-- **A name in mixed case is read back from its snake case.** -/
theorem mixedChars_snakeCase {name : String} (h : IsMixedCase name) :
    mixedChars true (snakeCase name).toList = name.toList := by
  obtain ⟨halphanum, hhead, hapart⟩ := h
  rw [List.all_eq_true] at halphanum
  rw [toList_snakeCase]
  cases hcs : name.toList with
  | nil => rfl
  | cons c cs =>
    rw [hcs] at halphanum hhead hapart
    have hrest := mixedChars_snakeChars (halphanum c List.mem_cons_self)
      (fun x hx => halphanum x (List.mem_cons_of_mem c hx)) hapart
    rw [snakeChars, if_neg (by simp [startsWord]), List.nil_append, mixedChars_capital hhead, hrest]

/-- **Names in mixed case have snake cases of their own.** -/
theorem snakeCase_injOn : Set.InjOn snakeCase {name | IsMixedCase name} := by
  intro a ha b hb hab
  rw [← String.toList_inj, ← mixedChars_snakeCase ha, hab, mixedChars_snakeCase hb]

end ServiceContract.Text
