import Mathlib.Data.List.Basic
import ServiceContract.Proofs.Pieces
import ServiceContract.Schema.Load

/-!
# References to types

A reference can be read in four ways, and stands for the first reading that is declared.

* `find?_candidates_eq_some_iff`: trying the candidates finds that reading.
* `message?_eq_some_iff`, `type?_eq_some_iff`: a reference is looked up among the messages, and
  among the enums only if it stands for no message.
-/

namespace ServiceContract.Schema.Names

variable {n : Names} {declared : List String} {reference x : String}

/-- A reference without leading dots. -/
def bare (reference : String) : String :=
  String.ofList (reference.toList.dropWhile (· == '.'))

/-- **The readings of a reference**, in the order of preference. -/
inductive Reads (n : Names) (reference : String) : Nat → String → Prop
  | asIs : Reads n reference 0 reference
  | bare : Reads n reference 1 (bare reference)
  | unqualified {x : String} : n.package ≠ "" → Names.bare reference = n.package ++ "." ++ x →
      Reads n reference 2 x
  | qualified : n.package ≠ "" → Reads n reference 3 (n.package ++ "." ++ Names.bare reference)

/-- **What a reference stands for**: the first of its readings that is declared. -/
structure Resolves (n : Names) (declared : List String) (reference x : String) : Prop where
  mem : x ∈ declared
  first : ∃ k, n.Reads reference k x ∧ ∀ j < k, ∀ y, n.Reads reference j y → y ∉ declared

/-- The type that a reference stands for; an enum only if it stands for no message. -/
inductive Types (n : Names) (reference : String) : FieldKind → Prop
  | message {x : String} : n.Resolves n.messages reference x → Types n reference (.message x)
  | enum {x : String} : (∀ y, ¬ n.Resolves n.messages reference y) →
      n.Resolves n.enums reference x → Types n reference (.enum x)

/-- The readings at each place in the order. -/
def reading? (n : Names) (reference : String) : Nat → Option String
  | 0 => some reference
  | 1 => some (bare reference)
  | 2 => if n.package = "" then none
    else (Text.after? (n.package.toList ++ ['.']) (bare reference).toList).map String.ofList
  | 3 => if n.package = "" then none else some (n.package ++ "." ++ bare reference)
  | _ => none

theorem reading?_eq_some_iff {k : Nat} :
    n.reading? reference k = some x ↔ n.Reads reference k x := by
  have hafter : (Text.after? (n.package.toList ++ ['.']) (bare reference).toList).map
      String.ofList = some x ↔ bare reference = n.package ++ "." ++ x := by
    rw [← String.toList_inj]
    simp only [Option.map_eq_some_iff, Text.after?_eq_some_iff, String.toList_append]
    constructor
    · rintro ⟨rest, hrest, rfl⟩
      rw [hrest, String.toList_ofList (l := rest)]
      rfl
    · intro h
      exact ⟨x.toList, h, String.ofList_toList⟩
  constructor
  · intro h
    unfold reading? at h
    split at h
    · cases h
      exact .asIs
    · cases h
      exact .bare
    · split at h
      · cases h
      · next hp => exact .unqualified hp (hafter.1 h)
    · split at h
      · cases h
      · next hp =>
        cases h
        exact .qualified hp
    · cases h
  · rintro (_ | _ | ⟨hp, hx⟩ | hp)
    · rfl
    · rfl
    · rw [reading?, if_neg hp]
      exact hafter.2 hx
    · rw [reading?, if_neg hp]

theorem candidates_eq :
    n.candidates reference = (List.range 4).filterMap (n.reading? reference) := by
  rw [show List.range 4 = [0, 1, 2, 3] from rfl]
  unfold candidates
  by_cases hp : n.package = ""
  · simp [reading?, hp, bare]
  · have hp' : n.package.isEmpty = false := by simpa using hp
    simp only [reading?, hp, hp', bare, List.filterMap_cons, if_false, String.toList_ofList,
      List.filterMap_nil]
    cases Text.after? (n.package.toList ++ ['.']) (reference.toList.dropWhile (· == '.')) <;> rfl

/-- **Trying the candidates finds what a reference stands for.** -/
theorem find?_candidates_eq_some_iff :
    (n.candidates reference).find? declared.contains = some x ↔
      n.Resolves declared reference x := by
  -- the candidates are the readings by place, so the first that is found has the least place
  rw [candidates_eq, List.find?_filterMap, Option.bind_eq_some_iff]
  simp only [List.find?_range_eq_some, reading?_eq_some_iff]
  constructor
  · rintro ⟨k, ⟨hk, -, hfirst⟩, hx⟩
    rw [reading?_eq_some_iff.2 hx] at hk
    refine ⟨by simpa using hk, k, hx, fun j hj y hy => ?_⟩
    have := hfirst j hj
    rw [reading?_eq_some_iff.2 hy] at this
    simpa using this
  · rintro ⟨hmem, k, hx, hfirst⟩
    refine ⟨k, ⟨?_, ?_, fun j hj => ?_⟩, hx⟩
    · rw [reading?_eq_some_iff.2 hx]
      simpa using hmem
    · rw [List.mem_range]
      cases hx <;> decide
    · cases hy : n.reading? reference j with
      | none => rfl
      | some y => simpa using hfirst j hj y (reading?_eq_some_iff.1 hy)

theorem message?_eq_some_iff :
    n.message? reference = some x ↔ n.Resolves n.messages reference x :=
  find?_candidates_eq_some_iff

theorem enum?_eq_some_iff : n.enum? reference = some x ↔ n.Resolves n.enums reference x :=
  find?_candidates_eq_some_iff

theorem type?_eq_some_iff {kind : FieldKind} :
    n.type? reference = some kind ↔ n.Types reference kind := by
  unfold type?
  rw [Option.or_eq_some_iff]
  simp only [Option.map_eq_some_iff, Option.map_eq_none_iff, message?_eq_some_iff,
    enum?_eq_some_iff]
  constructor
  · rintro (⟨x, hx, rfl⟩ | ⟨hnone, x, hx, rfl⟩)
    · exact .message hx
    · refine .enum (fun y hy => ?_) hx
      rw [← message?_eq_some_iff, hnone] at hy
      cases hy
  · rintro (hx | ⟨hnone, hx⟩)
    · exact Or.inl ⟨_, hx, rfl⟩
    · refine Or.inr ⟨?_, _, hx, rfl⟩
      exact Option.eq_none_iff_forall_ne_some.2 fun y hy => hnone y (message?_eq_some_iff.1 hy)

end ServiceContract.Schema.Names
