import ServiceContract.Proofs.Reordering

/-!
# Lookups by identifier

Three tables of a bundle are searched by the identifier of an operation, and each search stops at
the first entry that fits. The tables are made from the operations one by one, so that an entry has
the identifier of the operation it was made from. Identifiers may be any text that a method gives
for itself, and differ only because a run that is not stopped has no two operations of one
identifier.

* `find?_filterMap_of_nodup`: the search in a table made from elements of different keys.
* `Found`, `Missing`: what the three searches give, and when they give nothing.
* `lookups_agree`: the searches agree on every identifier.
-/

namespace ServiceContract

section Entries

variable {α β κ : Type} [BEq κ] [LawfulBEq κ] {key : α → κ} {label : β → κ} {make? : α → Option β}
  {as : List α}

/-- **Entries under the key of an element.** Where all keys differ, what is found under a key is
what was made from the element of that key, and nothing if nothing was made from it. -/
theorem find?_filterMap_of_nodup (hlabel : ∀ a b, make? a = some b → label b = key a)
    (h : (as.map key).Nodup) {a : α} (ha : a ∈ as) :
    (as.filterMap make?).find? (label · == key a) = make? a := by
  -- an entry under this key can only have been made from this element
  have hsource : ∀ b ∈ as.filterMap make?, (label b == key a) = true → make? a = some b := by
    intro b hb hfits
    obtain ⟨a', ha', hb'⟩ := List.mem_filterMap.1 hb
    have hsame : key a' = key a := (hlabel a' b hb').symm.trans (eq_of_beq hfits)
    have heq : a' = a := List.inj_on_of_nodup_map h ha' ha hsame
    rwa [← heq]
  cases hmake : make? a with
  | none =>
    rw [List.find?_eq_none]
    intro b hb hfits
    have hmade := hsource b hb hfits
    rw [hmake] at hmade
    cases hmade
  | some b =>
    have hunique : ∀ x ∈ as.filterMap make?, ∀ y ∈ as.filterMap make?,
        (label x == key a) = true → (label y == key a) = true → x = y := by
      intro x hx y hy hfitsx hfitsy
      have hmade := (hsource x hx hfitsx).symm.trans (hsource y hy hfitsy)
      exact Option.some.inj hmade
    have hmem : b ∈ as.filterMap make? := List.mem_filterMap.2 ⟨a, ha, hmake⟩
    have hfits : (label b == key a) = true := beq_iff_eq.2 (hlabel a b hmake)
    exact (find?_eq_some_iff_of_unique hunique).2 ⟨hmem, hfits⟩

/-- No entry is found under a key that no element has. -/
theorem find?_filterMap_of_not_mem (hlabel : ∀ a b, make? a = some b → label b = key a) {k : κ}
    (h : ∀ a ∈ as, key a ≠ k) : (as.filterMap make?).find? (label · == k) = none := by
  rw [List.find?_eq_none]
  intro b hb hfits
  obtain ⟨a, ha, hmake⟩ := List.mem_filterMap.1 hb
  exact h a ha ((hlabel a b hmake).symm.trans (eq_of_beq hfits))

end Entries

namespace Bundle

variable {s : Schema} {c : Settings}

/-- **What the tables give under the identifier of an operation**: the operation itself, its
registration, and its options if it has some. -/
structure Found (b : Bundle) (o : Operation) : Prop where
  operation : b.operation? o.id = some o
  registration : ∃ r, b.registration? o.id = some r ∧ Registers o r
  extraData : b.extraData? o.id = if o.extra = [] then none else some o.extra

/-- The tables give nothing under an identifier. -/
structure Missing (b : Bundle) (id : String) : Prop where
  operation : b.operation? id = none
  registration : b.registration? id = none
  extraData : b.extraData? id = none

/-! ## The tables, made from the operations -/

theorem operations_eq_filterMap :
    (ofSchema s c).operations = (operationsOf s c).filterMap some :=
  (List.filterMap_some).symm

theorem registrations_eq_filterMap :
    (ofSchema s c).registrations =
      (operationsOf s c).filterMap fun o => some (Registration.ofOperation o) := by
  rw [List.filterMap_eq_map']
  rfl

theorem extraData_eq_filterMap :
    (ofSchema s c).extraData = (operationsOf s c).filterMap ExtraData.ofOperation? := rfl

theorem operationId_of_registration (o : Operation) (r : Registration)
    (h : some (Registration.ofOperation o) = some r) : r.operationId = o.id := by
  cases h
  rfl

theorem ofOperation?_eq_some_iff {o : Operation} {x : ExtraData} :
    ExtraData.ofOperation? o = some x ↔ o.extra ≠ [] ∧ x = ⟨o.id, o.extra⟩ := by
  unfold ExtraData.ofOperation?
  simp only [List.isEmpty_iff]
  by_cases hextra : o.extra = []
  · simp [hextra]
  · simp [hextra, eq_comm]

theorem operationId_of_extraData (o : Operation) (x : ExtraData)
    (h : ExtraData.ofOperation? o = some x) : x.operationId = o.id := by
  obtain ⟨-, rfl⟩ := ofOperation?_eq_some_iff.1 h
  rfl

theorem options_ofOperation? (o : Operation) :
    (ExtraData.ofOperation? o).map (·.options) = if o.extra = [] then none else some o.extra := by
  unfold ExtraData.ofOperation?
  simp only [List.isEmpty_iff]
  split <;> rfl

/-! ## The three searches -/

theorem found_of_mem (hids : ((operationsOf s c).map (·.id)).Nodup) {o : Operation}
    (ho : o ∈ operationsOf s c) : Found (ofSchema s c) o := by
  refine ⟨?_, ⟨.ofOperation o, ?_, registers_ofOperation o⟩, ?_⟩
  · unfold operation?
    rw [operations_eq_filterMap]
    exact find?_filterMap_of_nodup (fun _ _ h => congrArg _ (Option.some.inj h).symm) hids ho
  · unfold registration?
    rw [registrations_eq_filterMap]
    exact find?_filterMap_of_nodup operationId_of_registration hids ho
  · unfold extraData?
    rw [extraData_eq_filterMap, find?_filterMap_of_nodup operationId_of_extraData hids ho]
    exact options_ofOperation? o

theorem missing_of_not_mem {id : String} (h : ∀ o ∈ operationsOf s c, o.id ≠ id) :
    Missing (ofSchema s c) id := by
  refine ⟨?_, ?_, ?_⟩
  · unfold operation?
    rw [operations_eq_filterMap]
    exact find?_filterMap_of_not_mem (fun _ _ h => congrArg _ (Option.some.inj h).symm) h
  · unfold registration?
    rw [registrations_eq_filterMap]
    exact find?_filterMap_of_not_mem operationId_of_registration h
  · unfold extraData?
    rw [extraData_eq_filterMap, find?_filterMap_of_not_mem operationId_of_extraData h]
    rfl

/-- **Lookups agree on every identifier.** In a run that is not stopped, the identifier of an
operation leads to that operation, to its registration and to its options if it has some; any other
text leads nowhere. -/
theorem lookups_agree (s : Schema) (c : Settings) (g : Generation) (h : generate s c = .ok g) :
    (∀ o ∈ g.bundle.operations, Found g.bundle o) ∧
      ∀ id, (∀ o ∈ g.bundle.operations, o.id ≠ id) → Missing g.bundle id := by
  obtain ⟨hconflicts, rfl⟩ := generate_eq_ok_iff.1 h
  have hids : ((operationsOf s c).map (·.id)).Nodup := (conflicts_eq_nil_iff.1 hconflicts).1
  constructor
  · intro o ho
    exact found_of_mem hids ho
  · intro id hid
    exact missing_of_not_mem hid

/-- A schema whose methods have options and no HTTP mapping, both, or a mapping alone. -/
def depot : Schema where
  package := "depot"
  services := [⟨"Stock", [
    ⟨"List", "Item", "Item", some ⟨"GET", "/items", .none, .entire⟩, [⟨"cmd", .text "list"⟩]⟩,
    ⟨"Get", "Item", "Item", some ⟨"GET", "/items/\x7bid\x7d", .none, .entire⟩, []⟩,
    ⟨"Sweep", "Item", "Item", none, [⟨"slow", .flag true⟩, ⟨"cmd", .text "sweep"⟩]⟩,
    ⟨"Count", "Item", "Item", none, [⟨"cmd", .flag true⟩]⟩]⟩]
  messages := [⟨"Item",
    [⟨"id", "id", 1, .scalar "string", false, none, none, none, none⟩], [], {}⟩]

/-- The text option of a mapped method is no identifier. -/
theorem lookups_agree_depot :
    ∃ g, generate depot {} = .ok g ∧
      g.bundle.operations.map (fun o => (o.id, o.extra.length)) =
        [("depot.Stock/List", 1), ("depot.Stock/Get", 0), ("sweep", 2), ("depot.Stock/Count", 1)] ∧
      (∀ o ∈ g.bundle.operations, Found g.bundle o) ∧ Missing g.bundle "list" := by
  have hagree := lookups_agree depot {} _ rfl
  refine ⟨_, rfl, rfl, hagree.1, hagree.2 "list" ?_⟩
  decide

end Bundle

end ServiceContract
