import ServiceContract.Proofs.Conflicts

/-!
# What fails is isolated

Methods without an operation and error enums without a contract can be removed from a schema
beforehand: a run on what remains stops with the same conflicts, or ends with the same bundle and
nothing left to report.

* `prune`: a schema without what leaves no entry in any table.
* `generate_prune`: a run and the run on the pruned schema.
-/

namespace ServiceContract.Bundle

open Schema (Enum Method Service)

variable {s : Schema} {c : Settings}

/-- A schema without the methods that have no operation, and without the error enums that have no
contract. -/
def prune (s : Schema) (c : Settings) : Schema :=
  { dropMethods (fun v m => (operationOf? s c (v, m)).isNone) s with
    enums := s.enums.filter fun e => (enumIssue? c e).isNone }

example : (declared (prune mixed {})).map (·.2.name) = ["GetOrder", "Watch"] := rfl

theorem isBuilt_iff {p : Service × Method} : IsBuilt s c p ↔ (operationOf? s c p).isSome := by
  rw [Option.isSome_iff_exists]
  exact exists_congr fun o => operationOf?_eq_some_iff.symm

/-- **The operations and interfaces of a schema do not look at its enums.** -/
theorem ofSchema_enums (enums : List Enum)
    (h : enums.filterMap (contractOf? c) = s.enums.filterMap (contractOf? c)) :
    ofSchema { s with enums } c = ofSchema s c := by
  have hbuild : ∀ v m, Operation.build { s with enums } v m c = Operation.build s v m c :=
    fun v m => Operation.build_congr rfl rfl rfl
  have hbuilt : ∀ v, built { s with enums } c v = built s c v := by
    intro v
    unfold built attempts
    simp only [hbuild]
  have hops : operationsOf { s with enums } c = operationsOf s c := by
    unfold operationsOf
    simp only [hbuilt]
  have hint : interfaceOf { s with enums } c = interfaceOf s c := by
    funext v
    unfold interfaceOf
    rw [hbuilt]
    rfl
  have herrors : (ofSchema { s with enums } c).errors = (ofSchema s c).errors := by
    rw [ofSchema_errors, ofSchema_errors]
    exact h
  unfold ofSchema at herrors ⊢
  simp only at herrors ⊢
  rw [hops, hint, herrors]

/-- What is left is built as before. -/
theorem build_prune (methods : List Method) (v : Service) (m : Method) :
    Operation.build (prune s c) { v with methods } m c = Operation.build s v m c :=
  Operation.build_congr rfl rfl rfl

/-- An enum has a contract or an issue, not both. -/
theorem contractOf?_eq_none {e : Enum} (h : (enumIssue? c e).isSome) : contractOf? c e = none := by
  unfold enumIssue? at h
  unfold contractOf?
  by_cases he : e.isErrorEnum = true
  · rw [if_pos he] at h ⊢
    cases hof : Failure.ErrorContract.ofEnum e c.fallbackStatus with
    | ok k => simp [hof] at h
    | error i => rfl
  · rw [if_neg he]

/-- **What is pruned leaves no entry in any table.** -/
theorem ofSchema_prune : ofSchema (prune s c) c = ofSchema s c := by
  have henums : (s.enums.filter fun e => (enumIssue? c e).isNone).filterMap (contractOf? c) =
      s.enums.filterMap (contractOf? c) := by
    rw [List.filterMap_filter]
    apply List.filterMap_congr
    intro e _
    by_cases he : (enumIssue? c e).isNone = true
    · rw [if_pos he]
    · rw [if_neg he, contractOf?_eq_none (by simpa [Option.isSome_iff_ne_none] using he)]
  calc ofSchema (prune s c) c
    _ = ofSchema (dropMethods (fun v m => (operationOf? s c (v, m)).isNone) s) c :=
      ofSchema_enums _ henums
    _ = ofSchema s c := by
      apply ofSchema_dropMethods
      intro p _ hnone
      rw [isBuilt_iff]
      simpa using hnone

/-- **What is left after pruning does not fail.** -/
theorem failuresOf_prune : failuresOf (prune s c) c = [] := by
  rw [failuresOf_eq, List.append_eq_nil_iff]
  constructor
  · rw [List.filterMap_eq_nil_iff]
    intro p hp
    obtain ⟨v', hv', hm'⟩ := List.mem_flatMap.1 hp
    obtain ⟨v, -, rfl⟩ := List.mem_map.1 hv'
    obtain ⟨m, hm, rfl⟩ := List.mem_map.1 hm'
    obtain ⟨-, hsome⟩ := List.mem_filter.1 hm
    have hsome : (operationOf? s c (v, m)).isSome := by simpa using hsome
    obtain ⟨o, ho⟩ := isBuilt_iff.2 hsome
    exact issueOf?_eq_none (operationOf?_eq_some_iff.2 ((build_prune _ v m).trans ho))
  · rw [List.filterMap_eq_nil_iff]
    intro e he
    exact Option.isNone_iff_eq_none.1 (List.mem_filter.1 he).2

/-- **Failures are isolated.** A run on the pruned schema stops with the same conflicts, or ends
with the same bundle and without failures. -/
theorem generate_prune (s : Schema) (c : Settings) :
    generate (prune s c) c = (fun g => ⟨g.bundle, []⟩) <$> generate s c := by
  rw [generate_eq, generate_eq, ofSchema_prune, failuresOf_prune]
  split <;> rfl

end ServiceContract.Bundle
