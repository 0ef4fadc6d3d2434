import Mathlib.Data.List.Forall2
import ServiceContract.Proofs.Before
import ServiceContract.Proofs.Shape
import ServiceContract.Proofs.Tables

/-!
# What stops a run

A run is stopped by what spans several methods or enums, and by nothing else: operations of one
identifier, routes that differ at most in the names of their parameters, and, where codes must
differ in the whole schema, errors of one code.

* `ListsConflicts`: the issues that stop a run, in order, each naming the first holder.
* `generate_stopped`: when a run is stopped, and with which issues.
-/

namespace ServiceContract.Bundle

open Operation (Endpoint)
open Failure (ErrorContract ErrorDescriptor)

variable {s : Schema} {c : Settings}

/-- The operations that are built, in the order of their methods. -/
def builtOperations (s : Schema) (c : Settings) : List Operation :=
  (declared s).filterMap (operationOf? s c)

/-- The contract of an enum that describes errors. -/
def contractOf? (c : Settings) (e : Schema.Enum) : Option ErrorContract :=
  if e.isErrorEnum then
    match ErrorContract.ofEnum e c.fallbackStatus with
    | .ok k => some k
    | .error _ => none
  else none

/-- The errors of all contracts, in the order of their enums. -/
def descriptors (s : Schema) (c : Settings) : List ErrorDescriptor :=
  (s.enums.filterMap (contractOf? c)).flatMap (·.values)

/-- Operations of one identifier. -/
def SameId (o p : Operation) : Prop := o.id = p.id

/-- HTTP operations that a router cannot tell apart: both have a route, of one verb, and with
segments that are alike. -/
def SameRoute (o p : Operation) : Prop :=
  ∃ r r', o.route = some r ∧ p.route = some r' ∧ r.verb = r'.verb ∧
    List.Forall₂ Route.Segment.Alike r.segments r'.segments

/-- Errors of one code. -/
def SameCode (d e : ErrorDescriptor) : Prop := d.code = e.code

/-- The issue of an operation whose identifier another has. -/
def idIssue (p : Operation × Operation) : Issue :=
  ⟨p.1.place, .operationIdTaken p.1.id p.2.service p.2.method⟩

/-- The issue of an operation whose route another has. -/
def IsRouteIssue (p : Operation × Operation) (i : Issue) : Prop :=
  ∃ r, p.1.route = some r ∧
    i = ⟨p.1.place, .routeTaken r.verb r.pattern p.2.service p.2.method⟩

/-- The issue of an error whose code another has. -/
def codeIssue (p : ErrorDescriptor × ErrorDescriptor) : Issue :=
  ⟨(Place.enum p.1.enumName).inside .value p.1.name,
    .codeTaken p.1.code.toInt (p.2.enumName ++ "." ++ p.2.name)⟩

/-- **The issues that stop a run**: those of identifiers, those of routes, and, if codes must
differ in the whole schema, those of codes. -/
def ListsConflicts (s : Schema) (c : Settings) (issues : List Issue) : Prop :=
  ∃ ids routes codes routeIssues,
    ListsRepeats SameId (builtOperations s c) ids ∧
    ListsRepeats SameRoute (builtOperations s c) routes ∧
    ListsRepeats SameCode (descriptors s c) codes ∧
    List.Forall₂ IsRouteIssue routes routeIssues ∧
    issues = ids.map idIssue ++ routeIssues ++
      if c.errorCodeScope = .schema then codes.map codeIssue else []

/-! ## The tables that are compared -/

theorem ofSchema_operations : (ofSchema s c).operations = builtOperations s c :=
  operationsOf_eq

theorem ofSchema_errors : (ofSchema s c).errors = s.enums.filterMap (contractOf? c) := by
  unfold ofSchema successes ErrorContract.attempts
  simp only
  rw [List.filterMap_map, List.filterMap_filter]
  apply List.filterMap_congr
  intro e _
  simp only [Function.comp_apply, contractOf?]
  cases ErrorContract.ofEnum e c.fallbackStatus <;> rfl

theorem ofSchema_descriptors : (ofSchema s c).errors.flatMap (·.values) = descriptors s c := by
  rw [ofSchema_errors, descriptors]

/-- The segments of every route are plain. -/
theorem plain_of_mem_builtOperations {o : Operation} {r : Endpoint}
    (ho : o ∈ builtOperations s c) (hr : o.route = some r) : ∀ y ∈ r.segments, y.Plain := by
  unfold builtOperations at ho
  obtain ⟨p, -, hp⟩ := List.mem_filterMap.1 ho
  have hd := Operation.describes_of_build (operationOf?_eq_some_iff.1 hp)
  obtain ⟨rule, t, -, ht, rfl⟩ := hd.route r hr
  exact Route.plain_of_parse ht

/-! ## The three lists -/

theorem listsRepeats_ids (operations : List Operation) :
    ListsRepeats SameId operations (repeats (·.id) operations) :=
  listsRepeats_repeats _ fun _ _ _ _ => beq_iff_eq

theorem listsRepeats_codes (ds : List ErrorDescriptor) :
    ListsRepeats SameCode ds (repeats (·.code) ds) :=
  listsRepeats_repeats _ fun _ _ _ _ => beq_iff_eq

/-- Whether two operations have routes of one verb and shape. -/
def routesMeet (o p : Operation) : Bool :=
  o.route.any fun r => p.route.any fun r' =>
    (r.verb, Route.shape r.segments) == (r'.verb, Route.shape r'.segments)

theorem routesMeet_iff {o p : Operation} : routesMeet o p = true ↔
    ∃ r r', o.route = some r ∧ p.route = some r' ∧ r.verb = r'.verb ∧
      Route.shape r.segments = Route.shape r'.segments := by
  unfold routesMeet
  simp only [Option.any_eq_true, beq_iff_eq, Prod.mk.injEq]
  constructor
  · rintro ⟨r, hr, r', hr', hverb, hshape⟩
    exact ⟨r, r', hr, hr', hverb, hshape⟩
  · rintro ⟨r, r', hr, hr', hverb, hshape⟩
    exact ⟨r, hr, r', hr', hverb, hshape⟩

/-- Routes are compared by the text of their shape, which decides whether they are alike. -/
theorem listsRepeats_routes :
    ListsRepeats SameRoute (builtOperations s c)
      (foundBefore routesMeet (builtOperations s c)) := by
  apply listsRepeats_foundBefore
  intro o ho p hp
  rw [routesMeet_iff]
  unfold SameRoute
  refine exists_congr fun r => exists_congr fun r' => and_congr_right fun hr =>
    and_congr_right fun hr' => and_congr_right' ?_
  exact Route.shape_eq_iff (plain_of_mem_builtOperations ho hr)
    (plain_of_mem_builtOperations hp hr')

/-- An operation without route meets no other. -/
theorem find?_routesMeet_of_none {o : Operation} (hr : o.route = none)
    (operations : List Operation) : operations.find? (routesMeet · o) = none := by
  rw [List.find?_eq_none]
  intro p _ hmeet
  obtain ⟨-, r', -, hr', -⟩ := routesMeet_iff.1 hmeet
  rw [hr] at hr'
  cases hr'

/-- The first route that equals that of an operation belongs to the first operation it meets. -/
theorem find?_routed {o : Operation} {r : Endpoint} (hr : o.route = some r)
    (operations : List Operation) :
    (routed operations).find?
        (fun q => (q.2.verb, Route.shape q.2.segments) == (r.verb, Route.shape r.segments)) =
      (operations.find? (routesMeet · o)).bind fun p => p.route.map fun r' => (p, r') := by
  unfold routed routesMeet
  rw [List.find?_filterMap]
  simp only [Option.any_map, hr, Option.any_some]

/-- **An issue for each operation whose route an earlier one has.** -/
theorem forall₂_conflictingRoutes (operations : List Operation) :
    List.Forall₂ IsRouteIssue (foundBefore routesMeet operations)
      (conflictingRoutes operations) := by
  unfold conflictingRoutes repeats foundBefore
  rw [routed, withBefore_filterMap, List.filterMap_filterMap, List.map_filterMap]
  apply forall₂_filterMap_of_rel
  rintro ⟨before, o⟩ -
  simp only
  cases hr : o.route with
  | none =>
    rw [find?_routesMeet_of_none hr]
    exact .none
  | some r =>
    simp only [Option.map_some, Option.bind_some]
    rw [← routed, find?_routed hr]
    cases hfirst : before.find? (routesMeet · o) with
    | none => exact .none
    | some first =>
      have hmeet : routesMeet first o = true := by simpa using List.find?_some hfirst
      obtain ⟨r', -, hr', -⟩ := routesMeet_iff.1 hmeet
      simp only [Option.bind_some, hr', Option.map_some]
      exact .some ⟨r, hr, rfl⟩

theorem listsConflicts_conflicts :
    ListsConflicts s c ((ofSchema s c).conflicts c.errorCodeScope) := by
  refine ⟨_, _, _, _, listsRepeats_ids _, listsRepeats_routes, listsRepeats_codes _,
    forall₂_conflictingRoutes _, ?_⟩
  unfold conflicts
  rw [ofSchema_operations]
  congr 1
  -- codes are compared only if they must differ in the whole schema
  cases c.errorCodeScope with
  | enum => rfl
  | schema =>
    rw [if_pos rfl, ← ofSchema_descriptors]
    rfl

theorem ListsConflicts.unique {issues issues' : List Issue} (h : ListsConflicts s c issues)
    (h' : ListsConflicts s c issues') : issues = issues' := by
  obtain ⟨ids, routes, codes, issues, hi, hr, hc, hissues, rfl⟩ := h
  obtain ⟨ids', routes', codes', issues', hi', hr', hc', hissues', rfl⟩ := h'
  obtain rfl := hr.unique hr'
  have hroutes : issues = issues' := by
    refine List.right_unique_forall₂' ?_ hissues hissues'
    rintro p i i' ⟨r, hr, rfl⟩ ⟨r', hr', rfl⟩
    rw [hr] at hr'
    cases hr'
    rfl
  rw [hi.unique hi', hc.unique hc', hroutes]

theorem ListsConflicts.ne_nil_iff {issues : List Issue} (h : ListsConflicts s c issues) :
    issues ≠ [] ↔ Shared SameId (builtOperations s c) ∨
      Shared SameRoute (builtOperations s c) ∨
      (c.errorCodeScope = .schema ∧ Shared SameCode (descriptors s c)) := by
  obtain ⟨ids, routes, codes, issues, hi, hr, hc, hissues, rfl⟩ := h
  have hroutes : issues = [] ↔ routes = [] := by
    rw [← List.length_eq_zero_iff, ← List.length_eq_zero_iff, hissues.length_eq]
  rw [← hi.ne_nil_iff, ← hr.ne_nil_iff, ← hc.ne_nil_iff]
  by_cases hs : c.errorCodeScope = .schema
  · simp only [hs, if_true, ne_eq, List.append_eq_nil_iff, List.map_eq_nil_iff, true_and, hroutes]
    tauto
  · simp only [hs, if_false, List.append_nil, ne_eq, List.append_eq_nil_iff, List.map_eq_nil_iff,
      false_and, hroutes]
    tauto

/-- **What stops a run.** A run is stopped exactly when two built operations share an identifier or
a route, or two errors share a code that must differ in the whole schema; its issues are then
those that `ListsConflicts` lists, and there is one such list. -/
theorem generate_stopped (s : Schema) (c : Settings) :
    ((∃ issues, generate s c = .error issues) ↔
      Shared SameId (builtOperations s c) ∨ Shared SameRoute (builtOperations s c) ∨
        (c.errorCodeScope = .schema ∧ Shared SameCode (descriptors s c))) ∧
    (∀ issues, generate s c = .error issues ↔ issues ≠ [] ∧ ListsConflicts s c issues) ∧
    (∀ p, (idIssue p).kind = .duplicateOperation) ∧
    (∀ p i, IsRouteIssue p i → i.kind = .duplicateOperation) ∧
    (∀ p, (codeIssue p).kind = .duplicateErrorCode) := by
  have hlist := listsConflicts_conflicts (s := s) (c := c)
  refine ⟨?_, fun issues => ?_, fun _ => rfl, ?_, fun _ => rfl⟩
  · rw [← hlist.ne_nil_iff]
    simp only [generate_eq_error_iff]
    constructor
    · rintro ⟨issues, hne, rfl⟩
      exact hne
    · exact fun hne => ⟨_, hne, rfl⟩
  · rw [generate_eq_error_iff]
    constructor
    · rintro ⟨hne, rfl⟩
      exact ⟨hne, hlist⟩
    · rintro ⟨hne, h⟩
      exact ⟨hne, h.unique hlist⟩
  · rintro p i ⟨r, -, rfl⟩
    rfl

/-- A schema with an identifier, a route and a code that occur twice. The parameters of the route
have different names. -/
def clashing : Schema where
  package := "shop"
  services := [⟨"Orders", [
    ⟨"GetOrder", "Order", "Order", some ⟨"GET", "/orders/\x7bid\x7d", .none, .entire⟩, []⟩,
    ⟨"FindOrder", "Order", "Order", some ⟨"GET", "/orders/\x7bkey\x7d", .none, .entire⟩, []⟩,
    ⟨"Watch", "Order", "Order", none, [⟨"cmd", .text "watch"⟩]⟩,
    ⟨"Follow", "Order", "Order", none, [⟨"cmd", .text "watch"⟩]⟩]⟩]
  messages := [⟨"Order",
    [⟨"id", "id", 1, .scalar "string", false, none, none, none, none⟩,
      ⟨"key", "key", 2, .scalar "string", false, none, none, none, none⟩], [], {}⟩]
  enums := [⟨"OrderError", some 404, [⟨"MISSING", 1, none, none, none⟩]⟩,
    ⟨"StockError", some 409, [⟨"EMPTY", 1, none, none, none⟩]⟩]

/-- What stops the run on that schema. -/
def clashes : List Issue :=
  [⟨(Place.service "Orders").inside .method "Follow", .operationIdTaken "watch" "Orders" "Watch"⟩,
    ⟨(Place.service "Orders").inside .method "FindOrder",
      .routeTaken "GET" "/orders/:key" "Orders" "GetOrder"⟩,
    ⟨(Place.enum "StockError").inside .value "EMPTY", .codeTaken 1 "OrderError.MISSING"⟩]

/-- Codes stop the run only if they must differ in the whole schema. -/
theorem generate_stopped_clashing :
    (generate clashing { errorCodeScope := .schema } = .error clashes ∧
      ListsConflicts clashing { errorCodeScope := .schema } clashes) ∧
    (generate clashing {} = .error (clashes.take 2) ∧
      ListsConflicts clashing {} (clashes.take 2)) := by
  have hschema : generate clashing { errorCodeScope := .schema } = .error clashes := rfl
  have henum : generate clashing {} = .error (clashes.take 2) := rfl
  exact ⟨⟨hschema, (((generate_stopped clashing _).2.1 clashes).1 hschema).2⟩,
    henum, (((generate_stopped clashing _).2.1 _).1 henum).2⟩

end ServiceContract.Bundle
