import Mathlib.Data.List.Induction
import ServiceContract.Bundle.Generate
import ServiceContract.Proofs.Attempts

/-!
# The loop that fills the tables

The tables of a bundle are filled side by side, method by method and service by service. Whatever
the mixture of methods that are built, failed and skipped, after each of them the tables are about
the same operations. So they end as `ofSchema` gives them, each table by itself.

* `Gathered`: what the tables hold once some methods are worked on.
* `Serving.takeMethod`, `Serves.takeService`: what one method and one service leave.
* `gather_eq`: what the loop leaves for a whole schema.
-/

namespace ServiceContract.Bundle

open Schema (Method Service)
open Failure (ErrorContract)
open Generation (takeMethod takeService gather)

variable {s : Schema} {c : Settings}

/-! ## Each table by itself -/

/-- The methods of a service, each with its operation. -/
def attempts (s : Schema) (c : Settings) (service : Service) :
    List (Method × Except Issue (Option Operation)) :=
  service.methods.map fun m => (m, Operation.build s service m c)

/-- The methods of a service that have an operation, with it. -/
def built (s : Schema) (c : Settings) (service : Service) : List (Method × Operation) :=
  (attempts s c service).filterMap fun
    | (m, .ok (some o)) => some (m, o)
    | _ => none

/-- What keeps methods of a service from having an operation. -/
def unbuilt (s : Schema) (c : Settings) (service : Service) : List Issue :=
  failures ((attempts s c service).map (·.2))

/-- The operations of a schema. -/
def operationsOf (s : Schema) (c : Settings) : List Operation :=
  s.services.flatMap fun service => (built s c service).map (·.2)

/-- The interface of a service. -/
def interfaceOf (s : Schema) (c : Settings) (service : Service) : Interface :=
  ⟨service.name, s.qualified service.name,
    (built s c service).map fun (m, o) => .ofOperation m o⟩

/-- The tables of a schema. -/
def ofSchema (s : Schema) (c : Settings) : Bundle :=
  let operations := operationsOf s c
  { package := s.package
    operations
    interfaces := s.services.map (interfaceOf s c)
    registrations := operations.map .ofOperation
    extraData := operations.filterMap ExtraData.ofOperation?
    errors := successes (ErrorContract.attempts s.enums c.fallbackStatus) }

/-- The methods and enums that are in no table, with the reason. -/
def failuresOf (s : Schema) (c : Settings) : List Issue :=
  s.services.flatMap (unbuilt s c) ++ failures (ErrorContract.attempts s.enums c.fallbackStatus)

/-- The methods that a schema declares, in order, each with its service. -/
def declared (s : Schema) : List (Service × Method) :=
  s.services.flatMap fun v => v.methods.map fun m => (v, m)

/-- The operation of a method that is built. -/
def operationOf? (s : Schema) (c : Settings) (p : Service × Method) : Option Operation :=
  match Operation.build s p.1 p.2 c with
  | .ok o? => o?
  | .error _ => none

/-- The issue of a method that fails. -/
def issueOf? (s : Schema) (c : Settings) (p : Service × Method) : Option Issue :=
  match Operation.build s p.1 p.2 c with
  | .ok _ => none
  | .error i => some i

theorem operationOf?_eq_some_iff {p : Service × Method} {o : Operation} :
    operationOf? s c p = some o ↔ Operation.build s p.1 p.2 c = .ok (some o) := by
  unfold operationOf?
  split <;> simp_all

/-- A method that is built has no issue. -/
theorem issueOf?_eq_none {p : Service × Method} {o : Operation}
    (h : operationOf? s c p = some o) : issueOf? s c p = none := by
  unfold issueOf?
  rw [operationOf?_eq_some_iff.1 h]

/-- The operations of a service, method by method. -/
theorem built_eq (v : Service) :
    built s c v = v.methods.filterMap fun m => (operationOf? s c (v, m)).map fun o => (m, o) := by
  unfold built attempts
  rw [List.filterMap_map]
  apply List.filterMap_congr
  intro m _
  simp only [Function.comp_apply, operationOf?]
  rcases Operation.build s v m c with i | o?
  · rfl
  · cases o? <;> rfl

theorem build_of_mem_built {v : Service} {q : Method × Operation} (h : q ∈ built s c v) :
    Operation.build s v q.1 c = .ok (some q.2) := by
  rw [built_eq] at h
  obtain ⟨m, -, hm⟩ := List.mem_filterMap.1 h
  obtain ⟨o, ho, rfl⟩ := Option.map_eq_some_iff.1 hm
  exact operationOf?_eq_some_iff.1 ho

theorem unbuilt_eq (v : Service) :
    unbuilt s c v = v.methods.filterMap fun m => issueOf? s c (v, m) := by
  unfold unbuilt attempts failures
  rw [List.map_map, List.filterMap_map]
  apply List.filterMap_congr
  intro m _
  simp only [Function.comp_apply, issueOf?]
  cases Operation.build s v m c <;> rfl

/-- The operations of a schema, method by method. -/
theorem operationsOf_eq : operationsOf s c = (declared s).filterMap (operationOf? s c) := by
  unfold operationsOf declared
  rw [List.filterMap_flatMap]
  apply List.flatMap_congr
  intro v _
  rw [built_eq, List.map_filterMap, List.filterMap_map]
  apply List.filterMap_congr
  intro m _
  simp only [Option.map_map, Function.comp_def, Option.map_id']

theorem flatMap_unbuilt_eq :
    s.services.flatMap (unbuilt s c) = (declared s).filterMap (issueOf? s c) := by
  unfold declared
  rw [List.filterMap_flatMap]
  apply List.flatMap_congr
  intro v _
  rw [unbuilt_eq, List.filterMap_map]
  rfl

/-! ## All tables side by side -/

theorem filterMap_concat {α β : Type} (f : α → Option β) (as : List α) (a : α) :
    (as ++ [a]).filterMap f = as.filterMap f ++ (f a).toList := by
  rw [List.filterMap_append, List.filterMap_cons]
  cases f a <;> rfl

/-- **What is gathered** once the methods `done` are worked on: their operations in order, each with
its registration and its options if it has some, and the issues of those that failed. -/
structure Gathered (s : Schema) (c : Settings) (done : List (Service × Method)) (g : Generation) :
    Prop where
  operations : g.bundle.operations = done.filterMap (operationOf? s c)
  registrations : g.bundle.registrations = g.bundle.operations.map .ofOperation
  extraData : g.bundle.extraData = g.bundle.operations.filterMap ExtraData.ofOperation?
  failures : g.failures = done.filterMap (issueOf? s c)

/-- What is gathered within a service `v`, once its methods `ms` are worked on after `done`: its
interface signs those that are built, and the interfaces of other services stay as they are. -/
structure Serving (s : Schema) (c : Settings) (done : List (Service × Method)) (v : Service)
    (before : Generation) (ms : List Method) (state : Generation × Interface) : Prop where
  gathered : Gathered s c (done ++ ms.map fun m => (v, m)) state.1
  package : state.1.bundle.package = before.bundle.package
  interfaces : state.1.bundle.interfaces = before.bundle.interfaces
  name : state.2.name = v.name
  qualifiedName : state.2.qualifiedName = s.qualified v.name
  methods : state.2.methods = ms.filterMap fun m =>
    (operationOf? s c (v, m)).map fun o => .ofOperation m o

/-- What is gathered once the services `vs` are worked on. -/
structure Serves (s : Schema) (c : Settings) (vs : List Service) (g : Generation) : Prop where
  gathered : Gathered s c (vs.flatMap fun v => v.methods.map fun m => (v, m)) g
  package : g.bundle.package = s.package
  interfaces : g.bundle.interfaces = vs.map (interfaceOf s c)

variable {done : List (Service × Method)} {v : Service} {m : Method} {before g : Generation}
  {ms : List Method} {vs : List Service} {state : Generation × Interface}

section

variable {o : Operation}

/-- A method that fails and one that is skipped differ in whether there is an issue. -/
theorem takeMethod_of_none (h : operationOf? s c (v, m) = none) :
    takeMethod s c v state m =
      ({ state.1 with failures := state.1.failures ++ (issueOf? s c (v, m)).toList }, state.2) := by
  unfold Generation.takeMethod issueOf?
  rcases hbuild : Operation.build s v m c with i | _ | o
  · rfl
  · simp only [Option.toList_none, List.append_nil]
  · rw [operationOf?_eq_some_iff.2 hbuild] at h
    cases h

theorem takeMethod_of_some (h : operationOf? s c (v, m) = some o) :
    takeMethod s c v state m =
      (state.1.enter o, { state.2 with methods := state.2.methods ++ [.ofOperation m o] }) := by
  unfold Generation.takeMethod
  rw [operationOf?_eq_some_iff.1 h]

/-- A method without operation adds at most an issue. -/
theorem Gathered.of_none (h : Gathered s c done g) (hnone : operationOf? s c (v, m) = none) :
    Gathered s c (done ++ [(v, m)])
      { g with failures := g.failures ++ (issueOf? s c (v, m)).toList } where
  operations := by
    rw [filterMap_concat, hnone]
    exact h.operations.trans (List.append_nil _).symm
  registrations := h.registrations
  extraData := h.extraData
  failures := by
    rw [filterMap_concat, h.failures]

/-- An operation is entered into all tables at once. -/
theorem Gathered.enter (h : Gathered s c done g) (hsome : operationOf? s c (v, m) = some o) :
    Gathered s c (done ++ [(v, m)]) (g.enter o) where
  operations := by
    rw [filterMap_concat, hsome, ← h.operations]
    rfl
  registrations := by
    unfold Generation.enter
    rw [h.registrations, List.map_append, List.map_singleton]
  extraData := by
    unfold Generation.enter
    rw [h.extraData, filterMap_concat]
  failures := by
    rw [filterMap_concat, issueOf?_eq_none hsome, ← h.failures]
    exact (List.append_nil _).symm

end

/-- **One method**, whether it is built, fails or is skipped. -/
theorem Serving.takeMethod (h : Serving s c done v before ms state) :
    Serving s c done v before (ms ++ [m]) (takeMethod s c v state m) := by
  obtain ⟨hgathered, hpackage, hinterfaces, hname, hqualified, hmethods⟩ := h
  have hdone : (done ++ (ms ++ [m]).map fun m => (v, m)) =
      (done ++ ms.map fun m => (v, m)) ++ [(v, m)] := by
    rw [List.map_append, List.append_assoc, List.map_singleton]
  have hsigned : ((ms ++ [m]).filterMap fun m =>
      (operationOf? s c (v, m)).map fun o => Signature.ofOperation m o) =
        state.2.methods ++ ((operationOf? s c (v, m)).map fun o => .ofOperation m o).toList := by
    rw [filterMap_concat, hmethods]
  cases hmade : operationOf? s c (v, m) with
  | none =>
    rw [takeMethod_of_none hmade]
    refine ⟨?_, hpackage, hinterfaces, hname, hqualified, ?_⟩
    · rw [hdone]
      exact hgathered.of_none hmade
    · rw [hsigned, hmade]
      exact (List.append_nil _).symm
  | some o =>
    rw [takeMethod_of_some hmade]
    refine ⟨?_, hpackage, hinterfaces, hname, hqualified, ?_⟩
    · rw [hdone]
      exact hgathered.enter hmade
    · rw [hsigned, hmade]
      rfl

/-- **The methods of a service**, from any state of the tables. -/
theorem serving_foldl (h : Gathered s c done before) (ms : List Method) :
    Serving s c done v before ms
      (ms.foldl (takeMethod s c v) (before, ⟨v.name, s.qualified v.name, []⟩)) := by
  induction ms using List.reverseRecOn with
  | nil =>
    refine ⟨?_, rfl, rfl, rfl, rfl, rfl⟩
    rw [List.map_nil, List.append_nil]
    exact h
  | append_singleton ms m ih =>
    rw [List.foldl_append]
    exact ih.takeMethod

/-- **One service**: its interface comes after those before it. -/
theorem Serves.takeService (h : Serves s c vs g) :
    Serves s c (vs ++ [v]) (takeService s c g v) := by
  have hserving := serving_foldl (v := v) h.gathered v.methods
  unfold Generation.takeService
  generalize v.methods.foldl (Generation.takeMethod s c v) _ = state at hserving
  obtain ⟨g', interface⟩ := state
  obtain ⟨hgathered, hpackage, hinterfaces, hname, hqualified, hmethods⟩ := hserving
  have hinterface : interface = interfaceOf s c v := by
    unfold interfaceOf
    rw [built_eq, List.map_filterMap]
    obtain ⟨name, qualifiedName, methods⟩ := interface
    simp only at hname hqualified hmethods
    rw [hname, hqualified, hmethods]
    simp only [Option.map_map, Function.comp_def]
  refine ⟨⟨?_, hgathered.registrations, hgathered.extraData, ?_⟩, hpackage.trans h.package, ?_⟩
  · rw [List.flatMap_append, List.flatMap_singleton]
    exact hgathered.operations
  · rw [List.flatMap_append, List.flatMap_singleton]
    exact hgathered.failures
  · rw [List.map_append, List.map_singleton, ← h.interfaces, ← hinterface]
    exact congrArg (· ++ [interface]) hinterfaces

theorem serves_foldl (vs : List Service) :
    Serves s c vs (vs.foldl (takeService s c) ⟨⟨s.package, [], [], [], [], []⟩, []⟩) := by
  induction vs using List.reverseRecOn with
  | nil => exact ⟨⟨rfl, rfl, rfl, rfl⟩, rfl, rfl⟩
  | append_singleton vs v ih =>
    rw [List.foldl_append]
    exact ih.takeService

/-- **The loop fills each table as if it were the only one.** -/
theorem gather_eq : gather s c = ⟨ofSchema s c, failuresOf s c⟩ := by
  have hserves := serves_foldl (s := s) (c := c) s.services
  unfold Generation.gather ofSchema failuresOf
  generalize s.services.foldl (Generation.takeService s c) _ = g at hserves
  obtain ⟨⟨package, operations, interfaces, registrations, extraData, errors⟩, failures⟩ := g
  obtain ⟨⟨hoperations, hregistrations, hextra, hfailures⟩, hpackage, hinterfaces⟩ := hserves
  simp only at hoperations hregistrations hextra hfailures hpackage hinterfaces
  rw [operationsOf_eq, flatMap_unbuilt_eq]
  unfold declared
  rw [← hoperations, ← hfailures, hregistrations, hextra, hpackage, hinterfaces]

theorem generate_eq :
    generate s c =
      if ((ofSchema s c).conflicts c.errorCodeScope).isEmpty then
        .ok ⟨ofSchema s c, failuresOf s c⟩
      else .error ((ofSchema s c).conflicts c.errorCodeScope) := by
  unfold generate
  rw [gather_eq]

theorem generate_eq_ok_iff {g : Generation} :
    generate s c = .ok g ↔
      (ofSchema s c).conflicts c.errorCodeScope = [] ∧ g = ⟨ofSchema s c, failuresOf s c⟩ := by
  rw [generate_eq]
  simp only [List.isEmpty_iff]
  split
  · next h => simp [h, eq_comm]
  · next h => simp [h]

theorem generate_eq_error_iff {issues : List Issue} :
    generate s c = .error issues ↔
      issues ≠ [] ∧ issues = (ofSchema s c).conflicts c.errorCodeScope := by
  rw [generate_eq]
  simp only [List.isEmpty_iff]
  split
  · next h =>
    rw [h]
    simp only [reduceCtorEq, false_iff, not_and]
    exact fun hne heq => hne heq
  · next h =>
    simp only [Except.error.injEq]
    constructor
    · rintro rfl
      exact ⟨h, rfl⟩
    · intro hi
      exact hi.2.symm

end ServiceContract.Bundle
