import ServiceContract.Bundle.Basic
import ServiceContract.Operation.Build

/-!
# Bundles from schemas

Every method is worked on by itself, and so is every enum: one that fails is reported and is in
no table. What spans several of them stops the run: operations of one identifier, routes that a
router cannot tell apart, and error codes that are shared although they must differ.

* `Bundle.Generation.gather`: the tables of a schema, filled method by method.
* `Bundle.generate`: the bundle of a schema with what failed, or the conflicts.
-/

namespace ServiceContract.Bundle

open Schema (Method Service)
open Failure (ErrorContract)

/-- A bundle with what was left out of it. -/
structure Generation where
  bundle : Bundle
  failures : List Issue
  deriving DecidableEq, Repr

namespace Generation

/-- Whether nothing was left out. -/
def isComplete (g : Generation) : Bool :=
  g.failures.isEmpty

/-- Enters an operation into the tables. -/
def enter (g : Generation) (o : Operation) : Generation :=
  { g with bundle := { g.bundle with
      operations := g.bundle.operations ++ [o]
      registrations := g.bundle.registrations ++ [.ofOperation o]
      extraData := g.bundle.extraData ++ (ExtraData.ofOperation? o).toList } }

/-- Works on a method of a service: its operation is entered into the tables and its signature into
the interface of the service. A method that fails is noted, and one without operation passed
over. -/
def takeMethod (s : Schema) (c : Settings) (service : Service) (state : Generation × Interface)
    (m : Method) : Generation × Interface :=
  match Operation.build s service m c with
  | .ok (some o) =>
    (state.1.enter o, { state.2 with methods := state.2.methods ++ [.ofOperation m o] })
  | .ok none => state
  | .error i => ({ state.1 with failures := state.1.failures ++ [i] }, state.2)

/-- Works on the methods of a service, and enters its interface. -/
def takeService (s : Schema) (c : Settings) (g : Generation) (service : Service) : Generation :=
  let (g, interface) := service.methods.foldl (takeMethod s c service)
    (g, ⟨service.name, s.qualified service.name, []⟩)
  { g with bundle := { g.bundle with interfaces := g.bundle.interfaces ++ [interface] } }

/-- Works on the services of a schema and then on its enums. -/
def gather (s : Schema) (c : Settings) : Generation :=
  let g := s.services.foldl (takeService s c) ⟨⟨s.package, [], [], [], [], []⟩, []⟩
  let contracts := ErrorContract.attempts s.enums c.fallbackStatus
  { bundle := { g.bundle with errors := successes contracts }
    failures := g.failures ++ ServiceContract.failures contracts }

end Generation

/-- An issue for each operation whose identifier an earlier one has. -/
def repeatedIds (operations : List Operation) : List Issue :=
  (repeats (·.id) operations).map fun (o, first) =>
    ⟨o.place, .operationIdTaken o.id first.service first.method⟩

/-- The operations that have a route, with it. -/
def routed (operations : List Operation) : List (Operation × Operation.Endpoint) :=
  operations.filterMap fun o => o.route.map fun r => (o, r)

/-- An issue for each route that has the verb and shape of an earlier one. -/
def conflictingRoutes (operations : List Operation) : List Issue :=
  (repeats (fun (_, r) => (r.verb, Route.shape r.segments)) (routed operations)).map
    fun ((o, r), (first, _)) =>
      ⟨o.place, .routeTaken r.verb r.pattern first.service first.method⟩

/-- Everything that keeps the tables of a bundle from standing together. -/
def conflicts (b : Bundle) (scope : Settings.CodeScope) : List Issue :=
  repeatedIds b.operations ++ conflictingRoutes b.operations ++
    match scope with
    | .schema => ErrorContract.sharedCodes b.errors
    | .enum => []

/-- The bundle of a schema with what failed, or the conflicts. -/
def generate (s : Schema) (c : Settings) : Except (List Issue) Generation :=
  let g := Generation.gather s c
  let issues := g.bundle.conflicts c.errorCodeScope
  if issues.isEmpty then .ok g else .error issues

end ServiceContract.Bundle
