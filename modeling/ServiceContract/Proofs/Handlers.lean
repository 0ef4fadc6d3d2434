import ServiceContract.Proofs.Image
import ServiceContract.Proofs.SnakeCase
import ServiceContract.Proofs.Tables

/-!
# Handlers of methods

A registration names a handler by the service and by the method in snake case. Nothing compares
handlers: services may share a name, and methods of different names may be the same in snake case.

* `nodup_slots_iff`: handlers are distinct exactly when no two built methods have the same.
* `handlers_distinct`: they are where services have names of their own and methods are named in
  plain mixed case.
* `handlers_collide`: they need not be otherwise.
-/

namespace ServiceContract.Bundle

open Schema (Service Method)

variable {s : Schema} {c : Settings} {g : Generation}

/-- The handler that a registration names. -/
def Registration.slot (r : Registration) : String × String := (r.service, r.handlerName)

/-- Methods with the same handler: of services of one name, and with names that are the same in
snake case. -/
def SameHandler (p q : Service × Method) : Prop :=
  p.1.name = q.1.name ∧ Text.snakeCase p.2.name = Text.snakeCase q.2.name

theorem slots_ofSchema :
    (ofSchema s c).registrations.map (·.slot) =
      (operationsOf s c).map fun o => (o.service, o.handlerName) := by
  rw [show (ofSchema s c).registrations = (operationsOf s c).map .ofOperation from rfl,
    List.map_map]
  rfl

theorem ne_iff_not_sameHandler {p q : Service × Method} {o o' : Operation}
    (hp : Operation.build s p.1 p.2 c = .ok (some o))
    (hq : Operation.build s q.1 q.2 c = .ok (some o')) :
    (o.service, o.handlerName) ≠ (o'.service, o'.handlerName) ↔ ¬ SameHandler p q := by
  have hd := Operation.describes_of_build hp
  have hd' := Operation.describes_of_build hq
  rw [hd.service, hd.handlerName, hd'.service, hd'.handlerName, ne_eq, Prod.mk.injEq]
  rfl

/-- **Handlers are distinct exactly when no two built methods have the same.** -/
theorem nodup_slots_iff :
    ((ofSchema s c).registrations.map (·.slot)).Nodup ↔
      (declared s).Pairwise fun p q => IsBuilt s c p → IsBuilt s c q → ¬ SameHandler p q := by
  rw [slots_ofSchema, operationsOf_eq, List.Nodup, List.pairwise_map, List.pairwise_filterMap]
  apply List.Pairwise.iff
  intro p q
  simp only [operationOf?_eq_some_iff]
  constructor
  · rintro h ⟨o, ho⟩ ⟨o', ho'⟩
    exact (ne_iff_not_sameHandler ho ho').1 (h o ho o' ho')
  · intro h o ho o' ho'
    exact (ne_iff_not_sameHandler ho ho').2 (h ⟨o, ho⟩ ⟨o', ho'⟩)

/-- Where handlers are distinct, they are so within each interface. -/
theorem nodup_handlerNames_of_nodup_slots
    (h : ((ofSchema s c).registrations.map (·.slot)).Nodup) :
    ∀ i ∈ (ofSchema s c).interfaces, (i.methods.map (·.handlerName)).Nodup := by
  intro i hi
  obtain ⟨v, hv, rfl⟩ := List.mem_map.1 hi
  rw [slots_ofSchema, operationsOf, List.map_flatMap] at h
  have hservice := (List.pairwise_flatMap.1 h).1 v hv
  rw [List.map_map, List.pairwise_map] at hservice
  unfold interfaceOf
  rw [List.map_map, List.Nodup, List.pairwise_map]
  -- all operations of the interface are of one service, so the names alone tell them apart
  refine hservice.imp_of_mem fun {q q'} hq hq' hne heq => hne ?_
  have hd := Operation.describes_of_build (build_of_mem_built hq)
  have hd' := Operation.describes_of_build (build_of_mem_built hq')
  exact Prod.ext (hd.service.trans hd'.service.symm) heq

/-- Methods of services with names of their own have different handlers if they are named in plain
mixed case. -/
theorem pairwise_not_sameHandler {d : Document} (hload : Schema.load d = .ok s)
    (hservices : (d.services.map (·.name)).Nodup)
    (hmethods : ∀ v ∈ d.services, ∀ m ∈ v.methods, Text.IsMixedCase m.name) :
    (declared s).Pairwise fun p q => ¬ SameHandler p q := by
  obtain ⟨hissues, rfl⟩ := Schema.load_eq_ok_iff.1 hload
  have himage := Schema.isImage_interpret hissues
  have hwell := Schema.issues_interpret_eq_nil_iff_wellFormed.1 hissues
  have hnames : (Schema.interpret d).value.services.map (·.name) = d.services.map (·.name) :=
    map_eq_of_forall₂ himage.services fun _ _ hv => hv.name
  rw [← hnames, List.Nodup, List.pairwise_map] at hservices
  unfold declared
  rw [List.pairwise_flatMap]
  -- within a service the names of methods tell them apart, across services those of the services
  refine ⟨fun v hv => ?_, hservices.imp fun {v w} hne p hp q hq hsame => ?_⟩
  · obtain ⟨v', hv', hv⟩ := exists_of_forall₂_of_mem himage.services hv
    have hnames : v.methods.map (·.name) = v'.methods.map (·.name) :=
      map_eq_of_forall₂ hv.methods fun _ _ hm => hm.name
    have hdistinct : (v.methods.map (·.name)).Nodup := hnames ▸ (hwell.services v' hv').distinct
    have hmixed : ∀ m ∈ v.methods, Text.IsMixedCase m.name := by
      intro m hm
      obtain ⟨m', hm', hm⟩ := exists_of_forall₂_of_mem hv.methods hm
      exact hm.name ▸ hmethods v' hv' m' hm'
    rw [List.Nodup, List.pairwise_map] at hdistinct
    rw [List.pairwise_map]
    exact hdistinct.imp_of_mem fun hm hm' hne hsame =>
      hne (Text.snakeCase_injOn (hmixed _ hm) (hmixed _ hm') hsame.2)
  · obtain ⟨m, -, rfl⟩ := List.mem_map.1 hp
    obtain ⟨m', -, rfl⟩ := List.mem_map.1 hq
    exact hne hsame.1

/-- **Handlers are distinct where names are plain.** In a result from a document, handlers are
distinct exactly when no two built methods have the same; so they are, in the table and within each
interface, if services have names of their own and methods are named in plain mixed case. -/
theorem handlers_distinct (d : Document) (s : Schema) (c : Settings) (g : Generation)
    (hload : Schema.load d = .ok s) (hg : generate s c = .ok g) :
    ((g.bundle.registrations.map (·.slot)).Nodup ↔
      (declared s).Pairwise fun p q => IsBuilt s c p → IsBuilt s c q → ¬ SameHandler p q) ∧
    ((d.services.map (·.name)).Nodup →
      (∀ v ∈ d.services, ∀ m ∈ v.methods, Text.IsMixedCase m.name) →
      (g.bundle.registrations.map (·.slot)).Nodup ∧
        ∀ i ∈ g.bundle.interfaces, (i.methods.map (·.handlerName)).Nodup) := by
  obtain ⟨-, rfl⟩ := generate_eq_ok_iff.1 hg
  refine ⟨nodup_slots_iff, fun hservices hmethods => ?_⟩
  have hnodup : ((ofSchema s c).registrations.map (·.slot)).Nodup := by
    rw [nodup_slots_iff]
    exact (pairwise_not_sameHandler hload hservices hmethods).imp fun h _ _ => h
  exact ⟨hnodup, nodup_handlerNames_of_nodup_slots hnodup⟩

/-- A document whose service has methods of different names. -/
def library : Document where
  package := "library"
  services := [{
    name := "Books"
    methods := [
      { name := "GetBook", inputType := "Key", outputType := "Key"
        extensions := [("http", .object [("get", .text "/books/\x7bid\x7d")])] },
      { name := "ListBooks2Go", inputType := "Key", outputType := "Key"
        extensions := [("http", .object [("get", .text "/books")])] }] }]
  messages := [
    { name := "Key", fields := [{ name := "id", number := 1, scalar := some "string" }] }]

theorem handlers_distinct_library : ∃ s g, Schema.load library = .ok s ∧ generate s {} = .ok g ∧
    g.bundle.registrations.map (·.slot) = [("Books", "get_book"), ("Books", "list_books2_go")] ∧
    (g.bundle.registrations.map (·.slot)).Nodup ∧
      ∀ i ∈ g.bundle.interfaces, (i.methods.map (·.handlerName)).Nodup :=
  ⟨_, _, rfl, rfl, rfl,
    (handlers_distinct library _ {} _ rfl rfl).2 (by decide) (by decide +kernel)⟩

/-- A document with two methods that are the same in snake case. -/
def users : Document where
  package := "demo"
  services := [{
    name := "Users"
    methods := [
      { name := "GetUser", inputType := "Key", outputType := "Key"
        extensions := [("http", .object [("get", .text "/users/\x7bid\x7d")])] },
      { name := "get_user", inputType := "Key", outputType := "Key"
        extensions := [("http", .object [("get", .text "/people/\x7bid\x7d")])] }] }]
  messages := [
    { name := "Key", fields := [{ name := "id", number := 1, scalar := some "string" }] }]

/-- A document that declares a service twice; the operations have identifiers of their own. -/
def desks : Document where
  package := "demo"
  services := [
    { name := "Desk"
      methods := [{
        name := "Call", inputType := "Key", outputType := "Key"
        extensions := [("http", .object [("get", .text "/call")])] }] },
    { name := "Desk"
      methods := [{
        name := "Call", inputType := "Key", outputType := "Key"
        extensions := [
          ("extra", .array [.object [("key", .text "cmd"), ("text", .text "call")]])] }] }]
  messages := [{ name := "Key" }]

/-- **Handlers may collide**: of two methods of one service, and of two services of one name. -/
theorem handlers_collide :
    (∃ s g, Schema.load users = .ok s ∧ generate s {} = .ok g ∧
      g.bundle.registrations.map (·.slot) = [("Users", "get_user"), ("Users", "get_user")] ∧
      g.bundle.interfaces.map (·.methods.map (·.handlerName)) = [["get_user", "get_user"]] ∧
      ¬ (g.bundle.registrations.map (·.slot)).Nodup) ∧
    ∃ s g, Schema.load desks = .ok s ∧ generate s {} = .ok g ∧
      g.bundle.registrations.map (·.slot) = [("Desk", "call"), ("Desk", "call")] ∧
      ¬ (g.bundle.registrations.map (·.slot)).Nodup :=
  ⟨⟨_, _, rfl, rfl, rfl, rfl, by decide +kernel⟩, ⟨_, _, rfl, rfl, rfl, by decide +kernel⟩⟩

end ServiceContract.Bundle
