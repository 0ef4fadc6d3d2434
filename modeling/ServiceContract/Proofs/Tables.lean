import Mathlib.Data.List.Forall2
import ServiceContract.Proofs.Gathering
import ServiceContract.Proofs.Operation

/-!
# The tables of a bundle agree

A declared method is built, failed or skipped. The tables of a bundle are all about the built
ones, in the order of their declaration; the failed ones are reported, before the enums that
failed, and otherwise leave no trace.

* `Consistent`: what the tables of a run say of the methods that the schema declares.
* `generate_consistent`: every run that is not stopped is consistent.
-/

namespace ServiceContract.Bundle

open Schema (Method Service)
open Failure (ErrorContract)

variable {s : Schema} {c : Settings} {g : Generation}

/-- A declared method has an operation. -/
def IsBuilt (s : Schema) (c : Settings) (p : Service × Method) : Prop :=
  ∃ o, Operation.build s p.1 p.2 c = .ok (some o)

/-- A declared method fails. -/
def IsFailed (s : Schema) (c : Settings) (p : Service × Method) : Prop :=
  ∃ i, Operation.build s p.1 p.2 c = .error i

/-- A declared method is skipped. -/
def IsSkipped (s : Schema) (c : Settings) (p : Service × Method) : Prop :=
  Operation.build s p.1 p.2 c = .ok none

/-- The issue of an enum that describes errors and has no contract. -/
def enumIssue? (c : Settings) (e : Schema.Enum) : Option Issue :=
  if e.isErrorEnum then
    match ErrorContract.ofEnum e c.fallbackStatus with
    | .ok _ => none
    | .error i => some i
  else none

/-- The methods of a list that are built, each with its operation. -/
def withOperations (s : Schema) (c : Settings) (ps : List (Service × Method)) :
    List ((Service × Method) × Operation) :=
  ps.filterMap fun p => (operationOf? s c p).map fun o => (p, o)

/-- A schema without some of its methods. -/
def dropMethods (drop : Service → Method → Bool) (s : Schema) : Schema :=
  { s with services := s.services.map fun v =>
      { v with methods := v.methods.filter fun m => !drop v m } }

/-- A registration is that of an operation. -/
structure Registers (o : Operation) (r : Registration) : Prop where
  operationId : r.operationId = o.id
  service : r.service = o.service
  handlerName : r.handlerName = o.handlerName
  verb_isSome : r.verb.isSome ↔ o.route.isSome
  pattern_isSome : r.pattern.isSome ↔ o.route.isSome
  route : ∀ e, o.route = some e → r.verb = some e.verb ∧ r.pattern = some e.pattern

/-- A signature is that of a method and its operation, which have one service and name. -/
structure Signs (p : (Service × Method) × Operation) (x : Signature) : Prop where
  service : p.2.service = p.1.1.name
  declared : p.2.method = p.1.2.name
  method : x.method = p.2.method
  handlerName : x.handlerName = p.2.handlerName
  operationId : x.operationId = p.2.id
  request : x.request = p.1.2.request
  response : x.response = p.1.2.response

/-- **What the tables of a run say.** -/
structure Consistent (s : Schema) (c : Settings) (g : Generation) : Prop where
  /-- Every declared method is in exactly one of the three classes. -/
  outcome : ∀ p ∈ declared s,
    (IsBuilt s c p ∧ ¬ IsFailed s c p ∧ ¬ IsSkipped s c p) ∨
      (¬ IsBuilt s c p ∧ IsFailed s c p ∧ ¬ IsSkipped s c p) ∨
      (¬ IsBuilt s c p ∧ ¬ IsFailed s c p ∧ IsSkipped s c p)
  operations : g.bundle.operations = (declared s).filterMap (operationOf? s c)
  registrations : List.Forall₂ Registers g.bundle.operations g.bundle.registrations
  /-- One interface a service, which signs the built methods of that service. -/
  interfaces : List.Forall₂ (fun v i => i.name = v.name ∧ i.qualifiedName = s.qualified v.name ∧
    List.Forall₂ Signs (withOperations s c (v.methods.map fun m => (v, m))) i.methods)
    s.services g.bundle.interfaces
  signatures : List.Forall₂ Signs (withOperations s c (declared s))
    (g.bundle.interfaces.flatMap (·.methods))
  extraData : g.bundle.extraData =
    (g.bundle.operations.filter fun o => !o.extra.isEmpty).map fun o => ⟨o.id, o.extra⟩
  failures : g.failures = (declared s).filterMap (issueOf? s c) ++ s.enums.filterMap (enumIssue? c)
  /-- Methods that are not built may be left out of the schema: every table stays as it is. -/
  unaffected : ∀ drop, (∀ p ∈ declared s, drop p.1 p.2 = true → ¬ IsBuilt s c p) →
    ∃ rest, generate (dropMethods drop s) c = .ok ⟨g.bundle, rest⟩

/-! ## One table at a time -/

theorem mem_withOperations {ps : List (Service × Method)} {p : Service × Method} {o : Operation} :
    (p, o) ∈ withOperations s c ps ↔ p ∈ ps ∧ Operation.build s p.1 p.2 c = .ok (some o) := by
  unfold withOperations
  simp only [List.mem_filterMap, Option.map_eq_some_iff, Prod.mk.injEq, operationOf?_eq_some_iff]
  constructor
  · rintro ⟨q, hq, o', ho, rfl, rfl⟩
    exact ⟨hq, ho⟩
  · rintro ⟨hp, ho⟩
    exact ⟨p, hp, o, ho, rfl, rfl⟩

/-- The built methods of a service. -/
theorem withOperations_service (v : Service) :
    withOperations s c (v.methods.map fun m => (v, m)) =
      (built s c v).map fun q => ((v, q.1), q.2) := by
  unfold withOperations built attempts
  rw [List.filterMap_map, List.filterMap_map, List.map_filterMap]
  apply List.filterMap_congr
  intro m _
  simp only [Function.comp_apply, operationOf?]
  rcases Operation.build s v m c with i | o?
  · rfl
  · cases o? <;> rfl

theorem withOperations_declared :
    withOperations s c (declared s) =
      s.services.flatMap fun v => (built s c v).map fun q => ((v, q.1), q.2) := by
  unfold declared
  rw [withOperations, List.filterMap_flatMap]
  apply List.flatMap_congr
  intro v _
  exact withOperations_service v

/-- The signatures of built methods are those of their operations. -/
theorem forall₂_signs (ps : List (Service × Method)) :
    List.Forall₂ Signs (withOperations s c ps)
      ((withOperations s c ps).map fun p => .ofOperation p.1.2 p.2) := by
  rw [List.forall₂_map_right_iff, List.forall₂_same]
  rintro ⟨p, o⟩ h
  have hd := Operation.describes_of_build (mem_withOperations.1 h).2
  exact ⟨hd.service, hd.method, rfl, rfl, rfl, rfl, rfl⟩

theorem registers_ofOperation (o : Operation) : Registers o (.ofOperation o) := by
  refine ⟨rfl, rfl, rfl, ?_, ?_, fun e he => ?_⟩
  · simp [Registration.ofOperation]
  · simp [Registration.ofOperation]
  · simp [Registration.ofOperation, he]

theorem failuresOf_eq :
    failuresOf s c = (declared s).filterMap (issueOf? s c) ++ s.enums.filterMap (enumIssue? c) := by
  unfold failuresOf
  rw [flatMap_unbuilt_eq]
  congr 1
  unfold failures ErrorContract.attempts
  rw [List.filterMap_map, List.filterMap_filter]
  apply List.filterMap_congr
  intro e _
  simp only [Function.comp_apply, enumIssue?]
  cases ErrorContract.ofEnum e c.fallbackStatus <;> rfl

theorem extraDataOf_eq (operations : List Operation) :
    operations.filterMap ExtraData.ofOperation? =
      (operations.filter fun o => !o.extra.isEmpty).map fun o => ⟨o.id, o.extra⟩ := by
  rw [← List.filterMap_eq_map, List.filterMap_filter]
  apply List.filterMap_congr
  intro o _
  unfold ExtraData.ofOperation?
  cases o.extra.isEmpty <;> rfl

/-! ## Methods that are not built -/

/-- Dropping methods of a service that are not built changes nothing about the others. -/
theorem built_dropMethods {drop : Service → Method → Bool} {v : Service}
    (hdrop : ∀ m ∈ v.methods, drop v m = true → ¬ IsBuilt s c (v, m)) :
    built (dropMethods drop s) c { v with methods := v.methods.filter fun m => !drop v m } =
      built s c v := by
  unfold built attempts dropMethods
  simp only [Operation.build_services]
  rw [List.filterMap_map, List.filterMap_map, List.filterMap_filter]
  apply List.filterMap_congr
  intro m hm
  by_cases hd : drop v m = true
  -- a method that is dropped had no operation to lose
  · have hb := hdrop m hm hd
    simp only [hd, Bool.not_true, Function.comp_apply]
    rw [if_neg Bool.false_ne_true]
    split
    · next o heq =>
      exact absurd ⟨o, (Prod.mk.inj heq).2⟩ hb
    · rfl
  · simp [hd]

/-- **Methods that are not built leave no trace in the tables.** -/
theorem ofSchema_dropMethods {drop : Service → Method → Bool}
    (hdrop : ∀ p ∈ declared s, drop p.1 p.2 = true → ¬ IsBuilt s c p) :
    ofSchema (dropMethods drop s) c = ofSchema s c := by
  have hbuilt : ∀ v ∈ s.services,
      built (dropMethods drop s) c { v with methods := v.methods.filter fun m => !drop v m } =
        built s c v := by
    intro v hv
    apply built_dropMethods
    intro m hm
    exact hdrop (v, m) (List.mem_flatMap.2 ⟨v, hv, List.mem_map_of_mem hm⟩)
  have hops : operationsOf (dropMethods drop s) c = operationsOf s c := by
    unfold operationsOf
    rw [show (dropMethods drop s).services = s.services.map _ from rfl, List.flatMap_map]
    apply List.flatMap_congr
    intro v hv
    rw [hbuilt v hv]
  have hint : (dropMethods drop s).services.map (interfaceOf (dropMethods drop s) c) =
      s.services.map (interfaceOf s c) := by
    rw [show (dropMethods drop s).services = s.services.map _ from rfl, List.map_map]
    apply List.map_congr_left
    intro v hv
    simp only [Function.comp_apply, interfaceOf, hbuilt v hv]
    rfl
  unfold ofSchema
  rw [hops, hint]
  rfl

/-- **How requests of an operation are read** comes from a message of the schema and an HTTP
mapping. -/
theorem exists_buildHttp (h : generate s c = .ok g) {o : Operation}
    (ho : o ∈ g.bundle.operations) {k : Operation.Decode} (hk : o.decode = some k) :
    ∃ request place rule r, s.message? k.request = some request ∧
      Operation.buildHttp s place rule request c.maxDepth = .ok (r, k) := by
  obtain ⟨-, rfl⟩ := generate_eq_ok_iff.1 h
  have ho : o ∈ operationsOf s c := ho
  rw [operationsOf_eq, List.mem_filterMap] at ho
  obtain ⟨p, -, hbuilt⟩ := ho
  obtain ⟨request, hrequest, hmaps⟩ :=
    Operation.exists_maps_of_build (operationOf?_eq_some_iff.1 hbuilt)
  rw [hk] at hmaps
  generalize p.2.http = rule? at hmaps
  generalize o.route = r? at hmaps
  cases hmaps with
  | some hhttp =>
    have hname : request.name = p.2.request := by simpa using List.find?_some hrequest
    have hread : k.request = request.name := by
      obtain ⟨t, fields, -, -, -, -, -, rfl⟩ := Operation.buildHttp_eq_ok_iff.1 hhttp
      rfl
    rw [hread, hname]
    exact ⟨request, _, _, _, hrequest, hhttp⟩

/-- **The tables agree.** A run that is not stopped is consistent, whatever the schema, the
settings, and the mixture of methods that are built, failed and skipped. -/
theorem generate_consistent (s : Schema) (c : Settings) (g : Generation)
    (h : generate s c = .ok g) : Consistent s c g := by
  obtain ⟨hnone, rfl⟩ := generate_eq_ok_iff.1 h
  refine ⟨fun p _ => ?_, operationsOf_eq, ?_, ?_, ?_, extraDataOf_eq _, failuresOf_eq,
    fun drop hdrop => ?_⟩
  · unfold IsBuilt IsFailed IsSkipped
    rcases Operation.build s p.1 p.2 c with i | o?
    · simp
    · cases o? <;> simp
  · exact List.forall₂_map_right_iff.2 (List.forall₂_same.2 fun o _ => registers_ofOperation o)
  · refine List.forall₂_map_right_iff.2 (List.forall₂_same.2 fun v _ => ⟨rfl, rfl, ?_⟩)
    -- the signatures of one service are those of its built methods
    have hsigns := forall₂_signs (s := s) (c := c) (v.methods.map fun m => (v, m))
    rw [withOperations_service, List.map_map] at hsigns
    rw [withOperations_service]
    exact hsigns
  · have hsigns := forall₂_signs (s := s) (c := c) (declared s)
    rw [withOperations_declared, List.map_flatMap] at hsigns
    rw [withOperations_declared]
    simp only [List.map_map] at hsigns
    rw [show (ofSchema s c).interfaces = s.services.map (interfaceOf s c) from rfl,
      List.flatMap_map]
    exact hsigns
  · refine ⟨failuresOf (dropMethods drop s) c, generate_eq_ok_iff.2 ?_⟩
    rw [ofSchema_dropMethods hdrop]
    exact ⟨hnone, rfl⟩

/-- A schema with methods of all three classes. -/
def mixed : Schema where
  package := "shop"
  services := [⟨"Orders", [
    ⟨"GetOrder", "Order", "Order", some ⟨"GET", "/orders/\x7bid\x7d", .none, .entire⟩, []⟩,
    ⟨"Ping", "Order", "Order", none, []⟩,
    ⟨"Refund", "Order", "Receipt", none, [⟨"cmd", .text "refund"⟩]⟩,
    ⟨"Watch", "Order", "Order", none, [⟨"cmd", .text "watch"⟩]⟩]⟩]
  messages := [⟨"Order",
    [⟨"id", "id", 1, .scalar "string", false, none, none, none, none⟩], [], {}⟩]

theorem generate_consistent_mixed :
    ∃ g, generate mixed {} = .ok g ∧
      g.bundle.operations.map (·.id) = ["shop.Orders/GetOrder", "watch"] ∧
      g.failures.map (·.cause) = [.messageNotLoaded "Receipt"] ∧ Consistent mixed {} g :=
  ⟨_, rfl, rfl, rfl, generate_consistent mixed {} _ rfl⟩

end ServiceContract.Bundle
