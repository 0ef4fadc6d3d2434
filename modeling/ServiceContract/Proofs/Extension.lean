import Mathlib.Data.List.Basic
import ServiceContract.Proofs.Attempts
import ServiceContract.Proofs.Noted
import ServiceContract.Schema.Extension

/-!
# What extensions say

The value of an extension is a text, the name of a location or a status; `SaysText`,
`SaysLocation` and `SaysStatus` relate the value to what it stands for.

* `misplaced_eq_nil_iff`: nothing is misplaced when every extension with a meaning may be attached.
* `Decodes`: a decoder gives exactly what values say.
* `issues_interpret_eq_nil_iff`, `carries_interpret`: an extension is read without issue when its
  value, if there is one, says something, and then gives what it says.
-/

namespace ServiceContract

/-- The texts that name a location, in capitals. -/
def Location.names : Location → List String
  | .uri => ["URI", "PATH"]
  | .query => ["QUERY"]
  | .body => ["BODY"]
  | .header => ["HEADER"]
  | .form => ["FORM"]

theorem Location.ofText?_eq_some_iff {s : String} {l : Location} :
    Location.ofText? s = some l ↔ Text.upper s ∈ l.names := by
  unfold Location.ofText?
  constructor
  · intro h
    split at h <;> cases h <;> simp_all [Location.names]
  · intro h
    cases l <;> simp only [Location.names, List.mem_cons, List.not_mem_nil, or_false] at h
    · rcases h with h | h <;> rw [h] <;> rfl
    all_goals rw [h]; rfl

namespace Extension

variable {α : Type} {x : Extension} {xs : Document.Extensions} {place : Place}

/-- The value of an extension, if an element has it. -/
def value? (x : Extension) (xs : Document.Extensions) : Option Json := Json.find? x.name xs

/-- **Every extension with a meaning may be attached to the element.** -/
def Placed (element : Element) (xs : Document.Extensions) : Prop :=
  ∀ x : Extension, x.name ∈ xs.map (·.1) → element ∈ x.allowedOn

/-- The value of an extension, if there is one, says something. -/
def Readable (x : Extension) (means : Json → α → Prop) (xs : Document.Extensions) : Prop :=
  ∀ v, x.value? xs = some v → ∃ a, means v a

/-- **What an extension gives**: something exactly when an element has it, and then what its value
says. -/
structure Carries (x : Extension) (means : Json → α → Prop) (xs : Document.Extensions)
    (given : Option α) : Prop where
  isSome_iff : given.isSome ↔ x.name ∈ xs.map (·.1)
  says_of_some : ∀ a, given = some a → ∃ v, x.value? xs = some v ∧ means v a

/-- A text. -/
def SaysText (v : Json) (s : String) : Prop := v = .text s

/-- The name of a location, in any case. -/
def SaysLocation (v : Json) (l : Location) : Prop := ∃ s, v = .text s ∧ Text.upper s ∈ l.names

/-- A status: a whole number from 100 to 599, or a text that is one between blanks. -/
def SaysStatus (v : Json) (n : Nat) : Prop :=
  100 ≤ n ∧ n ≤ 599 ∧ (v = .number (.int n) ∨
    ∃ s, v = .text s ∧ Text.natural? (Text.trim s.toList) = some n)

/-! ## Placement -/

theorem ofName?_eq_some_iff {name : String} : ofName? name = some x ↔ x.name = name := by
  unfold ofName?
  constructor
  · intro h
    simpa using List.find?_some h
  · rintro rfl
    cases x <;> rfl

theorem misplaced_eq_nil_iff {element : Element} :
    misplaced element xs place = [] ↔ Placed element xs := by
  unfold misplaced Placed
  rw [List.filterMap_eq_nil_iff]
  constructor
  · intro h x hx
    obtain ⟨⟨name, v⟩, hmem, rfl⟩ := List.mem_map.1 hx
    have hp := h _ hmem
    simp only [ofName?_eq_some_iff.2 (rfl : x.name = x.name)] at hp
    by_contra hno
    simp [hno] at hp
  · intro h p hp
    simp only
    split
    · rfl
    · next x hx =>
      have hname := ofName?_eq_some_iff.1 hx
      have := h x (by rw [hname]; exact List.mem_map_of_mem hp)
      simp [this]

/-! ## Values -/

/-- A decoder gives exactly what values say. -/
def Decodes (decode : String → Json → Except Cause α) (means : Json → α → Prop) : Prop :=
  ∀ name v a, decode name v = .ok a ↔ means v a

theorem decodes_text : Decodes decodeText SaysText := by
  intro name v s
  unfold decodeText decode SaysText
  rw [mapError_eq_ok]
  cases v <;> simp [Json.readText, Json.wrongType, Json.refuse]

theorem decodes_location : Decodes decodeLocation SaysLocation := by
  intro name v l
  unfold decodeLocation SaysLocation
  rw [bind_eq_ok]
  simp only [decodes_text _ _ _, ← Location.ofText?_eq_some_iff, SaysText]
  apply exists_congr
  intro s
  apply and_congr_right
  intro _
  cases Location.ofText? s <;> simp

theorem statusNumber?_eq_some_iff {v : Json} {n : Nat} :
    statusNumber? v = some n ↔ v = .number (.int n) ∨
      ∃ s, v = .text s ∧ Text.natural? (Text.trim s.toList) = some n := by
  unfold statusNumber?
  split
  · next k =>
    simp only [Option.some.injEq, Json.number.injEq, Json.Number.int.injEq, reduceCtorEq,
      false_and, exists_false, or_false]
    exact ⟨fun h => by rw [h]; rfl, fun h => Int.ofNat.inj h⟩
  · next s => simp
  · next hnum htext =>
    simp only [reduceCtorEq, false_iff, not_or, not_exists, not_and]
    exact ⟨fun h => hnum n h, fun s h => absurd h (htext s)⟩

theorem decodes_status : Decodes decodeStatus SaysStatus := by
  intro name v n
  unfold decodeStatus SaysStatus
  rw [← statusNumber?_eq_some_iff]
  cases statusNumber? v with
  | none => simp
  | some k =>
    simp only [isStatus, Bool.and_eq_true, decide_eq_true_eq, Option.some.injEq]
    split
    · next hk =>
      rw [Except.ok.injEq]
      exact ⟨fun h => h ▸ ⟨hk.1, hk.2, rfl⟩, fun h => h.2.2⟩
    · next hk =>
      simp only [reduceCtorEq, false_iff]
      exact fun h => hk (h.2.2 ▸ ⟨h.1, h.2.1⟩)

theorem value?_isSome_iff : (x.value? xs).isSome ↔ x.name ∈ xs.map (·.1) := by
  unfold value? Json.find?
  rw [Option.isSome_map, List.find?_isSome]
  simp only [List.mem_map, beq_iff_eq]

variable {decode : String → Json → Except Cause α} {means : Json → α → Prop}

theorem issues_interpret_eq_nil_iff (hmeans : Decodes decode means) :
    (x.interpret decode xs place).issues = [] ↔ x.Readable means xs := by
  unfold interpret interpretNamed Readable value?
  cases Json.find? x.name xs with
  | none => simp
  | some v =>
    simp only [Option.some.injEq, forall_eq', ← hmeans x.name]
    exact Noted.issues_attempt_eq_nil_iff

/-- An extension that is read without issue gives the decoded value. -/
theorem value_interpret_of_issues (h : (x.interpret decode xs place).issues = []) :
    (x.value? xs = none ∧ (x.interpret decode xs place).value = none) ∨
      ∃ v a, x.value? xs = some v ∧ decode x.name v = .ok a ∧
        (x.interpret decode xs place).value = some a := by
  unfold interpret interpretNamed value? at *
  cases hv : Json.find? x.name xs with
  | none => exact Or.inl ⟨rfl, rfl⟩
  | some v =>
    rw [hv] at h
    obtain ⟨a, ha⟩ := Noted.issues_attempt_eq_nil_iff.1 h
    exact Or.inr ⟨v, a, rfl, ha, Noted.value_attempt_of_ok ha⟩

theorem carries_interpret (hmeans : Decodes decode means)
    (h : (x.interpret decode xs place).issues = []) :
    x.Carries means xs (x.interpret decode xs place).value := by
  rcases value_interpret_of_issues h with ⟨hv, hvalue⟩ | ⟨v, a, hv, ha, hvalue⟩
  · rw [hvalue]
    refine ⟨?_, nofun⟩
    rw [← value?_isSome_iff, hv]
    exact Iff.rfl
  · rw [hvalue]
    refine ⟨?_, fun b hb => ?_⟩
    · rw [← value?_isSome_iff, hv]
      exact Iff.rfl
    · cases hb
      exact ⟨v, hv, (hmeans _ v a).1 ha⟩

theorem Carries.imp {means' : Json → α → Prop} {given : Option α} (h : x.Carries means xs given)
    (himp : ∀ v a, means v a → means' v a) : x.Carries means' xs given := by
  refine ⟨h.isSome_iff, fun a ha => ?_⟩
  obtain ⟨v, hv, hmeans⟩ := h.says_of_some a ha
  exact ⟨v, hv, himp v a hmeans⟩

end Extension

end ServiceContract
