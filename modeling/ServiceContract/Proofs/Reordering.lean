import Mathlib.Data.List.Find
import Mathlib.Data.Multiset.Bind
import ServiceContract.Proofs.Conflicts

/-!
# The order of declarations

A schema may declare its services, the methods of a service, its messages and its enums in any
order. Messages are found by name, so their order is seen by nothing; the order of the others is
that of the tables, and whether a run is stopped does not depend on it.

* `Schema.Reordered`: a schema with its declarations in another order.
* `conflicts_eq_nil_iff`: tables stand together if their keys are distinct, in whatever order.
* `generate_reordered`: the runs on a schema and on a reordered one.
-/

namespace ServiceContract

namespace Schema

/-- A service with its methods in another order. -/
structure Service.Reordered (v v' : Service) : Prop where
  name : v'.name = v.name
  methods : v'.methods.Perm v.methods

/-- **A schema with its declarations in another order**: services and the methods inside them,
messages, and enums. -/
structure Reordered (s s' : Schema) : Prop where
  package : s'.package = s.package
  services : Multiset.Rel Service.Reordered (s.services : Multiset Service) s'.services
  messages : s'.messages.Perm s.messages
  enums : s'.enums.Perm s.enums

/-- Messages of distinct names are found wherever they are declared. -/
theorem message?_eq_of_perm {s s' : Schema} (hnames : (s.messages.map (·.name)).Nodup)
    (h : s'.messages.Perm s.messages) : s'.message? = s.message? := by
  funext name
  apply (List.find?_eq_find?_of_perm h.symm ?_).symm
  rintro x ⟨hx, hxname⟩ y ⟨hy, hyname⟩
  have hname : x.name = y.name := (beq_iff_eq.1 hxname).trans (beq_iff_eq.1 hyname).symm
  exact List.inj_on_of_nodup_map hnames hx hy hname

end Schema

namespace Bundle

open Schema (Service Method)
open Failure (ErrorContract)

variable {s s' : Schema} {c : Settings} {v v' : Service}

/-- An interface with its signatures in another order. -/
structure Interface.Reordered (i i' : Interface) : Prop where
  name : i'.name = i.name
  qualifiedName : i'.qualifiedName = i.qualifiedName
  methods : i'.methods.Perm i.methods

/-- **The results of two runs, the second on a reordered schema**: the same entries in every table,
and for each service an interface of the same signatures. -/
structure SameEntries (s s' : Schema) (g g' : Generation) : Prop where
  package : g'.bundle.package = g.bundle.package
  operations : g'.bundle.operations.Perm g.bundle.operations
  registrations : g'.bundle.registrations.Perm g.bundle.registrations
  extraData : g'.bundle.extraData.Perm g.bundle.extraData
  errors : g'.bundle.errors.Perm g.bundle.errors
  failures : g'.failures.Perm g.failures
  interfaces : Multiset.Rel Interface.Reordered (g.bundle.interfaces : Multiset Interface)
    g'.bundle.interfaces
  /-- The interfaces correspond as the services do. -/
  served : Multiset.Rel
    (fun (p p' : Service × Interface) => p.1.Reordered p'.1 ∧ p.2.Reordered p'.2)
    (s.services.zip g.bundle.interfaces) (s'.services.zip g'.bundle.interfaces)

/-! ## What stops a run, in any order -/

/-- **Tables stand together if their keys are distinct.** -/
theorem conflicts_eq_nil_iff {b : Bundle} {scope : Settings.CodeScope} :
    b.conflicts scope = [] ↔ (b.operations.map (·.id)).Nodup ∧
      ((routed b.operations).map fun (_, r) => (r.verb, Route.shape r.segments)).Nodup ∧
      (scope = .schema → ((b.errors.flatMap (·.values)).map (·.code)).Nodup) := by
  unfold conflicts repeatedIds conflictingRoutes
  rw [List.append_eq_nil_iff, List.append_eq_nil_iff, List.map_eq_nil_iff, List.map_eq_nil_iff,
    repeats_eq_nil_iff, repeats_eq_nil_iff, and_assoc]
  refine and_congr_right' (and_congr_right' ?_)
  cases scope with
  | enum => simp
  | schema =>
    unfold ErrorContract.sharedCodes
    rw [List.map_eq_nil_iff, repeats_eq_nil_iff]
    simp

theorem conflicts_eq_nil_of_perm {b b' : Bundle} {scope : Settings.CodeScope}
    (hoperations : b'.operations.Perm b.operations) (herrors : b'.errors.Perm b.errors) :
    b'.conflicts scope = [] ↔ b.conflicts scope = [] := by
  have hrouted : (routed b'.operations).Perm (routed b.operations) := hoperations.filterMap _
  have hvalues : (b'.errors.flatMap (·.values)).Perm (b.errors.flatMap (·.values)) :=
    herrors.flatMap_right _
  rw [conflicts_eq_nil_iff, conflicts_eq_nil_iff, (hoperations.map _).nodup_iff,
    (hrouted.map _).nodup_iff, (hvalues.map _).nodup_iff]

/-! ## The tables of a reordered schema -/

/-- What is listed service by service is the same up to order if it is so for each service. -/
theorem perm_flatMap_of_rel {α β γ : Type} {R : α → β → Prop} {as : List α} {bs : List β}
    {f : α → List γ} {g : β → List γ} (h : Multiset.Rel R (as : Multiset α) bs)
    (hfg : ∀ a b, R a b → (g b).Perm (f a)) : (bs.flatMap g).Perm (as.flatMap f) := by
  rw [← Multiset.coe_eq_coe, ← Multiset.coe_bind, ← Multiset.coe_bind, eq_comm,
    ← Multiset.rel_eq]
  apply Multiset.rel_bind _ h
  intro a b hab
  rw [Multiset.rel_eq, eq_comm, Multiset.coe_eq_coe]
  exact hfg a b hab

section

variable (hnames : (s.messages.map (·.name)).Nodup) (h : s.Reordered s')
include hnames h

theorem build_reordered (hname : v'.name = v.name) (m : Method) :
    Operation.build s' v' m c = Operation.build s v m c :=
  Operation.build_congr h.package (Schema.message?_eq_of_perm hnames h.messages) hname

theorem attempts_reordered (hv : v.Reordered v') : (attempts s' c v').Perm (attempts s c v) := by
  unfold attempts
  simp only [build_reordered hnames h hv.name]
  exact hv.methods.map _

theorem built_reordered (hv : v.Reordered v') : (built s' c v').Perm (built s c v) :=
  (attempts_reordered hnames h hv).filterMap _

theorem unbuilt_reordered (hv : v.Reordered v') : (unbuilt s' c v').Perm (unbuilt s c v) :=
  ((attempts_reordered hnames h hv).map _).filterMap _

theorem operationsOf_reordered : (operationsOf s' c).Perm (operationsOf s c) :=
  perm_flatMap_of_rel h.services fun _ _ hv => (built_reordered hnames h hv).map _

theorem interfaceOf_reordered (hv : v.Reordered v') :
    (interfaceOf s c v).Reordered (interfaceOf s' c v') where
  name := hv.name
  qualifiedName := by
    unfold interfaceOf Schema.qualified
    rw [h.package, hv.name]
  methods := (built_reordered hnames h hv).map _

omit hnames in
theorem contracts_reordered :
    (ErrorContract.attempts s'.enums c.fallbackStatus).Perm
      (ErrorContract.attempts s.enums c.fallbackStatus) :=
  (h.enums.filter _).map _

theorem failuresOf_reordered : (failuresOf s' c).Perm (failuresOf s c) := by
  apply List.Perm.append
  · exact perm_flatMap_of_rel h.services fun _ _ hv => unbuilt_reordered hnames h hv
  · exact (contracts_reordered h).filterMap _

/-- **The tables of a reordered schema have the same entries.** -/
theorem ofSchema_reordered :
    SameEntries s s' ⟨ofSchema s c, failuresOf s c⟩ ⟨ofSchema s' c, failuresOf s' c⟩ where
  package := h.package
  operations := operationsOf_reordered hnames h
  registrations := (operationsOf_reordered hnames h).map _
  extraData := (operationsOf_reordered hnames h).filterMap _
  errors := (contracts_reordered h).filterMap _
  failures := failuresOf_reordered hnames h
  interfaces := by
    unfold ofSchema
    simp only [← Multiset.map_coe, Multiset.rel_map]
    exact h.services.mono fun v _ v' _ hv => interfaceOf_reordered hnames h hv
  served := by
    have hzip : ∀ s : Schema, s.services.zip (ofSchema s c).interfaces =
        s.services.map fun v => (v, interfaceOf s c v) := fun s => by
      rw [show (ofSchema s c).interfaces = s.services.map (interfaceOf s c) from rfl]
      simpa using List.zip_map' (f := id) (g := interfaceOf s c) (l := s.services)
    simp only [hzip, ← Multiset.map_coe, Multiset.rel_map]
    exact h.services.mono fun v _ v' _ hv => ⟨hv, interfaceOf_reordered hnames h hv⟩

end

/-- **The order of messages is seen by nothing.** -/
theorem generate_messages (messages : List Schema.Message)
    (h : { s with messages }.message? = s.message?) :
    generate { s with messages } c = generate s c := by
  have hbuild : ∀ v m, Operation.build { s with messages } v m c = Operation.build s v m c :=
    fun v m => Operation.build_congr rfl h rfl
  have hattempts : attempts { s with messages } c = attempts s c := by
    funext v
    unfold attempts
    simp only [hbuild]
  rw [generate_eq, generate_eq]
  unfold ofSchema failuresOf operationsOf interfaceOf unbuilt built
  rw [hattempts]
  rfl

/-- **The order of declarations does not decide the outcome.** For messages of distinct names, the
run on a reordered schema ends if that on the schema does, with the same entries in every table;
where only messages are reordered, the two runs are the same. -/
theorem generate_reordered (s s' : Schema) (c : Settings)
    (hnames : (s.messages.map (·.name)).Nodup) (h : s.Reordered s') :
    ((∃ g', generate s' c = .ok g') ↔ ∃ g, generate s c = .ok g) ∧
    (∀ g g', generate s c = .ok g → generate s' c = .ok g' → SameEntries s s' g g') ∧
    (s' = { s with messages := s'.messages } → generate s' c = generate s c) := by
  have hsame := ofSchema_reordered (c := c) hnames h
  refine ⟨?_, fun g g' hg hg' => ?_, fun hs' => ?_⟩
  · simp only [generate_eq_ok_iff, exists_and_left, exists_eq, and_true]
    exact conflicts_eq_nil_of_perm hsame.operations hsame.errors
  · obtain ⟨-, rfl⟩ := generate_eq_ok_iff.1 hg
    obtain ⟨-, rfl⟩ := generate_eq_ok_iff.1 hg'
    exact hsame
  · rw [hs']
    exact generate_messages s'.messages (Schema.message?_eq_of_perm hnames h.messages)

/-- A schema with two services, two messages and two enums; one method and one enum fail. -/
def staff : Schema where
  package := "staff"
  services := [
    ⟨"People", [
      ⟨"Get", "Key", "Key", some ⟨"GET", "/people/\x7bid\x7d", .none, .entire⟩, []⟩,
      ⟨"Fire", "Key", "Letter", none, [⟨"cmd", .text "fire"⟩]⟩]⟩,
    ⟨"Teams", [⟨"Watch", "Key", "Page", none, [⟨"cmd", .text "watch"⟩]⟩]⟩]
  messages := [
    ⟨"Key", [⟨"id", "id", 1, .scalar "string", false, none, none, none, none⟩], [], {}⟩,
    ⟨"Page", [], [], {}⟩]
  enums := [
    ⟨"Fault", some 400, [⟨"GONE", 1, none, none, none⟩]⟩,
    ⟨"Alarm", some 500, [⟨"RED", 2, none, none, none⟩, ⟨"BLUE", 2, none, none, none⟩]⟩]

/-- The same schema with everything in the opposite order. -/
def staffReversed : Schema :=
  { staff with
    services := (staff.services.map fun v => { v with methods := v.methods.reverse }).reverse
    messages := staff.messages.reverse
    enums := staff.enums.reverse }

theorem staff_reordered : staff.Reordered staffReversed where
  package := rfl
  services := by
    unfold staffReversed
    rw [Multiset.coe_reverse, ← Multiset.map_coe, Multiset.rel_map_right]
    exact Multiset.rel_refl_of_refl_on fun v _ => ⟨rfl, v.methods.reverse_perm⟩
  messages := staff.messages.reverse_perm
  enums := staff.enums.reverse_perm

theorem staff_reordered_messages :
    staff.Reordered { staff with messages := staff.messages.reverse } where
  package := rfl
  services := Multiset.rel_refl_of_refl_on fun _ _ => ⟨rfl, .refl _⟩
  messages := staff.messages.reverse_perm
  enums := .refl _

theorem generate_reordered_staff :
    (∃ g g', generate staff {} = .ok g ∧ generate staffReversed {} = .ok g' ∧
      g.bundle.operations.map (·.id) = ["staff.People/Get", "watch"] ∧
      g'.bundle.operations.map (·.id) = ["watch", "staff.People/Get"] ∧
      g.failures.map (·.kind) = [.unresolvedReference, .duplicateErrorCode] ∧
      SameEntries staff staffReversed g g') ∧
    generate { staff with messages := staff.messages.reverse } {} = generate staff {} :=
  ⟨⟨_, _, rfl, rfl, rfl, rfl, rfl,
    (generate_reordered staff staffReversed {} (by decide) staff_reordered).2.1 _ _ rfl rfl⟩,
    (generate_reordered staff _ {} (by decide) staff_reordered_messages).2.2 rfl⟩

end Bundle

end ServiceContract
