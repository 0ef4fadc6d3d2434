import Mathlib.Data.List.Forall2
import ServiceContract.Noted
import ServiceContract.Proofs.Before

/-!
# Values without issues

Where no issue is noted, every attempt on the way succeeded, and elements that are kept are kept
one for one.
-/

namespace ServiceContract.Noted

variable {α β : Type} {place : Place}

theorem issues_bind_eq_nil_iff {x : Noted α} {f : α → Noted β} :
    (x >>= f).issues = [] ↔ x.issues = [] ∧ (f x.value).issues = [] := by
  rw [issues_bind, List.append_eq_nil_iff]

@[simp] theorem issues_map (g : α → β) (x : Noted α) : (g <$> x).issues = x.issues :=
  List.append_nil _

theorem issues_attempt_eq_nil_iff {x : Except Cause α} :
    (attempt place x).issues = [] ↔ ∃ a, x = .ok a := by
  cases x <;> simp [attempt]

theorem value_attempt_of_ok {x : Except Cause α} {a : α} (h : x = .ok a) :
    (attempt place x).value = some a := by
  rw [h]
  rfl

/-- An element that cannot stand has an issue. -/
theorem issues_unless_eq_nil_iff {taken : Bool} {cause : Cause} {x : Noted (Option α)} :
    (if taken then attempt place (.error cause) else x).issues = [] ↔
      taken = false ∧ x.issues = [] := by
  cases taken <;> simp [attempt]

/-- An element without issue could stand, and gives what it gives then. -/
theorem exists_value_unless {taken : Bool} {cause : Cause} {x : Noted (Option α)} {P : α → Prop}
    (h : (if taken then attempt place (.error cause) else x).issues = [])
    (hx : x.issues = [] → ∃ a, x.value = some a ∧ P a) :
    ∃ a, (if taken then attempt place (.error cause) else x).value = some a ∧ P a := by
  obtain ⟨rfl, hissues⟩ := issues_unless_eq_nil_iff.1 h
  exact hx hissues

theorem issues_keep_eq_nil_iff {as : List α} {f : α → Noted (Option β)} :
    (keep as f).issues = [] ↔ ∀ a ∈ as, (f a).issues = [] := by
  rw [issues_keep, List.flatMap_eq_nil_iff]

/-- **Elements are kept one for one** if each gives a value. -/
theorem forall₂_keep {R : α → β → Prop} {as : List α} {f : α → Noted (Option β)}
    (h : ∀ a ∈ as, ∃ b, (f a).value = some b ∧ R a b) :
    List.Forall₂ R as (keep as f).value := by
  rw [value_keep]
  induction as with
  | nil => exact .nil
  | cons a as ih =>
    obtain ⟨⟨b, hb, hab⟩, has⟩ := List.forall_mem_cons.1 h
    rw [List.filterMap_cons, hb]
    exact .cons hab (ih has)

/-- Values are given one for one. -/
theorem forall₂_each {R : α → β → Prop} {as : List α} {f : α → Noted β}
    (h : ∀ a ∈ as, R a (f a).value) : List.Forall₂ R as (each as f).value := by
  rw [value_each, List.forall₂_map_right_iff, List.forall₂_same]
  exact h

end ServiceContract.Noted
