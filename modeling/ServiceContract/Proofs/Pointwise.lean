import Mathlib.Data.List.Forall2

/-!
# Lists related element by element

What elements related one for one say of the lists they are in.
-/

namespace ServiceContract

variable {α β γ : Type} {R : α → β → Prop} {as : List α} {bs : List β}

theorem exists_of_forall₂_of_mem (h : List.Forall₂ R as bs) {b : β} (hb : b ∈ bs) :
    ∃ a ∈ as, R a b := by
  induction h with
  | nil => cases hb
  | cons hab _ ih =>
    rcases List.mem_cons.1 hb with rfl | hb
    · exact ⟨_, List.mem_cons_self, hab⟩
    · obtain ⟨a, ha, hR⟩ := ih hb
      exact ⟨a, List.mem_cons_of_mem _ ha, hR⟩

/-- The first element of a kind is related to the first of that kind. -/
theorem find?_of_forall₂ {p : α → Bool} {q : β → Bool} (h : List.Forall₂ R as bs)
    (hR : ∀ a b, R a b → q b = p a) {a : α} (ha : as.find? p = some a) :
    ∃ b, bs.find? q = some b ∧ R a b := by
  induction h with
  | nil => cases ha
  | @cons a' b' as' bs' hab _ ih =>
    by_cases hp : p a' = true
    · rw [List.find?_cons_of_pos hp] at ha
      have hq : q b' = true := (hR a' b' hab).trans hp
      exact ⟨b', List.find?_cons_of_pos hq, Option.some.inj ha ▸ hab⟩
    · have hq : ¬ q b' = true := by rwa [hR a' b' hab]
      rw [List.find?_cons_of_neg hp] at ha
      rw [List.find?_cons_of_neg hq]
      exact ih ha

/-- A list has a list related to it if each element has something related to it. -/
theorem exists_forall₂_iff : (∃ bs, List.Forall₂ R as bs) ↔ ∀ a ∈ as, ∃ b, R a b := by
  induction as with
  | nil => simp
  | cons a as ih =>
    rw [List.forall_mem_cons, ← ih]
    constructor
    · rintro ⟨bs, hbs⟩
      obtain ⟨b, bs, hb, hrest, rfl⟩ := List.forall₂_cons_left_iff.1 hbs
      exact ⟨⟨b, hb⟩, bs, hrest⟩
    · rintro ⟨⟨b, hb⟩, bs, hrest⟩
      exact ⟨b :: bs, .cons hb hrest⟩

theorem map_eq_of_forall₂ {f : α → γ} {g : β → γ} (h : List.Forall₂ R as bs)
    (hR : ∀ a b, R a b → g b = f a) : bs.map g = as.map f := by
  rw [eq_comm, ← List.forall₂_eq_eq_eq, List.forall₂_map_left_iff, List.forall₂_map_right_iff]
  exact h.imp fun a b hab => (hR a b hab).symm

/-- What is made of some elements is related to them, if it is so one by one. -/
theorem forall₂_filterMap {g : α → Option β} {p : α → Bool}
    (hmade : ∀ a, p a = true → ∃ b, g a = some b ∧ R a b) (hnone : ∀ a, ¬ p a = true → g a = none) :
    List.Forall₂ R (as.filter p) (as.filterMap g) := by
  induction as with
  | nil => exact .nil
  | cons a as ih =>
    by_cases ha : p a = true
    · obtain ⟨b, hb, hR⟩ := hmade a ha
      rw [List.filter_cons_of_pos ha, List.filterMap_cons_some hb]
      exact .cons hR ih
    · rw [List.filter_cons_of_neg ha, List.filterMap_cons_none (hnone a ha)]
      exact ih

/-- What is made of the same elements in two ways is related, if it is so one by one. -/
theorem forall₂_filterMap_of_rel {S : β → γ → Prop} {f : α → Option β} {g : α → Option γ}
    (h : ∀ a ∈ as, Option.Rel S (f a) (g a)) :
    List.Forall₂ S (as.filterMap f) (as.filterMap g) := by
  induction as with
  | nil => exact .nil
  | cons a as ih =>
    obtain ⟨ha, has⟩ := List.forall_mem_cons.1 h
    rw [List.filterMap_cons, List.filterMap_cons]
    generalize f a = b?, g a = c? at ha
    cases ha with
    | none => exact ih has
    | some hbc => exact .cons hbc (ih has)

/-- A list with one element more is related to one with one element more. -/
theorem forall₂_concat_iff {a : α} :
    List.Forall₂ R (as ++ [a]) bs ↔ ∃ bs' b, bs = bs' ++ [b] ∧ List.Forall₂ R as bs' ∧ R a b := by
  rw [← List.forall₂_reverse_iff, List.reverse_append, List.reverse_singleton,
    List.singleton_append, List.forall₂_cons_left_iff]
  constructor
  · rintro ⟨b, bs', hab, has, hbs⟩
    refine ⟨bs'.reverse, b, ?_, ?_, hab⟩
    · rw [← List.reverse_reverse bs, hbs, List.reverse_cons]
    · rw [← List.forall₂_reverse_iff, List.reverse_reverse]
      exact has
  · rintro ⟨bs', b, rfl, has, hab⟩
    exact ⟨b, bs'.reverse, hab, List.forall₂_reverse_iff.2 has, by simp⟩

end ServiceContract
