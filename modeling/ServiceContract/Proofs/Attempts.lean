import ServiceContract.Attempts
import ServiceContract.Proofs.Pointwise

/-!
# Attempts step by step

A computation that may fail is taken apart at its steps: it succeeds when every step does, and
its error is that of the first step that fails.
-/

namespace ServiceContract

variable {ε ε' α β : Type}

theorem bind_eq_ok {x : Except ε α} {f : α → Except ε β} {b : β} :
    x >>= f = .ok b ↔ ∃ a, x = .ok a ∧ f a = .ok b := by
  cases x with
  | error e => simp [bind, Except.bind]
  | ok a => simp [bind, Except.bind]

theorem bind_eq_error {x : Except ε α} {f : α → Except ε β} {e : ε} :
    x >>= f = .error e ↔ x = .error e ∨ ∃ a, x = .ok a ∧ f a = .error e := by
  cases x with
  | error e => simp [bind, Except.bind]
  | ok a => simp [bind, Except.bind]

theorem map_eq_ok {x : Except ε α} {f : α → β} {b : β} :
    f <$> x = .ok b ↔ ∃ a, x = .ok a ∧ f a = b := by
  cases x with
  | error e => simp [Functor.map, Except.map]
  | ok a => simp [Functor.map, Except.map]

theorem map_eq_error {x : Except ε α} {f : α → β} {e : ε} :
    f <$> x = .error e ↔ x = .error e := by
  cases x with
  | error e => simp [Functor.map, Except.map]
  | ok a => simp [Functor.map, Except.map]

theorem mapError_eq_ok {x : Except ε α} {g : ε → ε'} {a : α} :
    x.mapError g = .ok a ↔ x = .ok a := by
  cases x with
  | error e => simp [Except.mapError]
  | ok a => simp [Except.mapError]

theorem mapError_eq_error {x : Except ε α} {g : ε → ε'} {e' : ε'} :
    x.mapError g = .error e' ↔ ∃ e, x = .error e ∧ g e = e' := by
  cases x with
  | error e => simp [Except.mapError]
  | ok a => simp [Except.mapError]

/-- A check of every element fails with the error of one of them. -/
theorem forM_eq_error {f : α → Except ε Unit} {as : List α} {e : ε}
    (h : as.forM f = .error e) : ∃ a ∈ as, f a = .error e := by
  induction as with
  | nil => simp [pure, Except.pure] at h
  | cons a as ih =>
    rw [List.forM, bind_eq_error] at h
    rcases h with ha | ⟨-, -, has⟩
    · exact ⟨a, List.mem_cons_self, ha⟩
    · obtain ⟨b, hb, hfb⟩ := ih has
      exact ⟨b, List.mem_cons_of_mem _ hb, hfb⟩

/-- A check of every element succeeds where that of each one does. -/
theorem forM_eq_ok_iff {f : α → Except ε Unit} {as : List α} :
    as.forM f = .ok () ↔ ∀ a ∈ as, f a = .ok () := by
  induction as with
  | nil => simp [pure, Except.pure]
  | cons a as ih =>
    rw [List.forM, bind_eq_ok, List.forall_mem_cons, ← ih]
    constructor
    · rintro ⟨⟨⟩, ha, has⟩
      exact ⟨ha, has⟩
    · rintro ⟨ha, has⟩
      exact ⟨(), ha, has⟩

theorem forM_congr {f g : α → Except ε Unit} {as : List α} (h : ∀ a ∈ as, f a = g a) :
    as.forM f = as.forM g := by
  induction as with
  | nil => rfl
  | cons a as ih =>
    obtain ⟨ha, has⟩ := List.forall_mem_cons.1 h
    rw [List.forM, List.forM, ha, ih has]

/-- Values are made one for one. -/
theorem mapM_eq_ok_iff {f : α → Except ε β} {as : List α} {bs : List β} :
    as.mapM f = .ok bs ↔ List.Forall₂ (fun a b => f a = .ok b) as bs := by
  induction as generalizing bs with
  | nil => simp [pure, Except.pure, eq_comm]
  | cons a as ih =>
    simp only [List.mapM_cons, bind_eq_ok, ih, List.forall₂_cons_left_iff]
    constructor
    · rintro ⟨b, hb, bs', hbs, h⟩
      cases h
      exact ⟨b, bs', hb, hbs, rfl⟩
    · rintro ⟨b, bs', hb, hbs, rfl⟩
      exact ⟨b, hb, bs', hbs, rfl⟩

/-! ## Attempts with their values mapped -/

theorem successes_map (f : α → β) (as : List (Except ε α)) :
    successes (as.map (f <$> ·)) = (successes as).map f := by
  unfold successes
  rw [List.filterMap_map, List.map_filterMap]
  apply List.filterMap_congr
  intro a _
  cases a <;> rfl

theorem failures_map (f : α → β) (as : List (Except ε α)) :
    failures (as.map (f <$> ·)) = failures as := by
  unfold failures
  rw [List.filterMap_map]
  apply List.filterMap_congr
  intro a _
  cases a <;> rfl

/-! ## Attempts at the elements of a list -/

/-- **What succeeded, in order**: one value for each element whose attempt succeeds. -/
theorem forall₂_successes {f : α → Except ε β} {p : α → Bool} (as : List α)
    (hp : ∀ a, p a = true ↔ ∃ b, f a = .ok b) :
    List.Forall₂ (fun a b => f a = .ok b) (as.filter p) (successes (as.map f)) := by
  unfold successes
  rw [List.filterMap_map]
  apply forall₂_filterMap
  · intro a ha
    obtain ⟨b, hb⟩ := (hp a).1 ha
    exact ⟨b, by simp [hb], hb⟩
  · intro a ha
    cases hfa : f a with
    | ok b => exact absurd ((hp a).2 ⟨b, hfa⟩) ha
    | error e => simp [hfa]

/-- **What failed, in order**: one error for each element whose attempt fails. -/
theorem forall₂_failures {f : α → Except ε β} {p : α → Bool} (as : List α)
    (hp : ∀ a, p a = true ↔ ∃ e, f a = .error e) :
    List.Forall₂ (fun a e => f a = .error e) (as.filter p) (failures (as.map f)) := by
  unfold failures
  rw [List.filterMap_map]
  apply forall₂_filterMap
  · intro a ha
    obtain ⟨e, he⟩ := (hp a).1 ha
    exact ⟨e, by simp [he], he⟩
  · intro a ha
    cases hfa : f a with
    | error e => exact absurd ((hp a).2 ⟨e, hfa⟩) ha
    | ok b => simp [hfa]

/-! ## What a computation may fail with -/

/-- Every error of a computation has a property. -/
def FailsOnly (P : ε → Prop) (x : Except ε α) : Prop :=
  ∀ e, x = .error e → P e

theorem FailsOnly.ok {P : ε → Prop} (a : α) : FailsOnly P (.ok a) := nofun

theorem FailsOnly.error {P : ε → Prop} {e : ε} (h : P e) :
    FailsOnly P (.error e : Except ε α) := by
  rintro e ⟨⟩
  exact h

theorem FailsOnly.imp {P Q : ε → Prop} {x : Except ε α} (h : FailsOnly P x)
    (hPQ : ∀ e, P e → Q e) : FailsOnly Q x :=
  fun e he => hPQ e (h e he)

theorem FailsOnly.bind {P : ε → Prop} {x : Except ε α} {f : α → Except ε β}
    (hx : FailsOnly P x) (hf : ∀ a, x = .ok a → FailsOnly P (f a)) : FailsOnly P (x >>= f) := by
  intro e he
  obtain he | ⟨a, ha, he⟩ := bind_eq_error.1 he
  · exact hx e he
  · exact hf a ha e he

theorem FailsOnly.map {P : ε → Prop} {x : Except ε α} {f : α → β} (hx : FailsOnly P x) :
    FailsOnly P (f <$> x) :=
  fun e he => hx e (map_eq_error.1 he)

theorem FailsOnly.mapError {P : ε' → Prop} {x : Except ε α} {g : ε → ε'} (h : ∀ e, P (g e)) :
    FailsOnly P (x.mapError g) := by
  intro e he
  obtain ⟨e, -, rfl⟩ := mapError_eq_error.1 he
  exact h e

theorem FailsOnly.forM {P : ε → Prop} {f : α → Except ε Unit} (h : ∀ a, FailsOnly P (f a))
    (as : List α) : FailsOnly P (as.forM f) := by
  intro e he
  obtain ⟨a, -, ha⟩ := forM_eq_error he
  exact h a e ha

end ServiceContract
