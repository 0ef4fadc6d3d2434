import ServiceContract.Proofs.Conflicts

/-!
# What settings decide

Three settings are policies: what becomes of unmapped methods, where error codes must differ, and
the status of errors that have none. Each is compared over two runs that differ in it alone.

* `Unbuildable.ne_unmappedMethod`: a mapped method may fail, but never for being unmapped.
* `ofEnum_withFallback`: a fallback status changes the status of errors and nothing else.
* `generate_policies`: what each policy changes in the result of a run.
-/

namespace ServiceContract

/-! ## Mapped methods -/

namespace Operation

open Schema (Method Service)

variable {s : Schema}

theorem Unbuildable.ne_unmappedMethod {i : Issue} (h : Unbuildable i) :
    i.kind ≠ .unmappedMethod := by
  cases h with
  | unresolved h =>
    rw [h]
    decide
  | template place e =>
    unfold Issue.kind Cause.kind Cause.kindOfTemplate
    simp only
    split <;> decide
  | binding place e =>
    unfold Issue.kind Cause.kind Cause.kindOfBinding
    simp only
    split <;> decide

/-- A mapped method is built in the same way whatever becomes of the others. -/
theorem build_of_mapped {v : Service} {m : Method} {c : Settings} {u : Settings.Unmapped}
    (hm : ¬ m.isUnmapped = true) :
    build s v m { c with unmapped := u } = some <$> buildMapped s v m c := by
  unfold build
  rw [if_neg hm]
  rfl

end Operation

/-! ## Statuses of errors -/

namespace Failure

variable (enums : List Schema.Enum) (fallback status : Nat)

/-- A descriptor with another fallback status, which it has if no other is given. -/
def ErrorDescriptor.withFallback (d : ErrorDescriptor) : ErrorDescriptor :=
  match d.statusSource with
  | .fallback => { d with status }
  | _ => d

theorem ErrorDescriptor.status_withFallback {d : ErrorDescriptor}
    (h : (d.withFallback status).statusSource = .fallback) :
    (d.withFallback status).status = status := by
  unfold withFallback at h ⊢
  cases hsource : d.statusSource with
  | fallback => rfl
  | value => simp [hsource] at h
  | enum => simp [hsource] at h

namespace ErrorContract

/-- A contract with another fallback status. -/
def withFallback (k : ErrorContract) : ErrorContract :=
  { k with values := k.values.map (·.withFallback status) }

theorem describe_withFallback (e : Schema.Enum) (v : Schema.EnumValue) :
    describe e status v = (describe e fallback v).withFallback status := by
  unfold describe statusOf ErrorDescriptor.withFallback
  cases v.status <;> cases e.defaultStatus <;> rfl

theorem ofEnum_withFallback (e : Schema.Enum) :
    ofEnum e status = withFallback status <$> ofEnum e fallback := by
  unfold ofEnum
  cases repeats (·.number) e.values with
  | cons p ps => rfl
  | nil =>
    have hvalues : e.values.map (describe e status) =
        (e.values.map (describe e fallback)).map (·.withFallback status) := by
      rw [List.map_map]
      exact List.map_congr_left fun v _ => describe_withFallback fallback status e v
    simp only [hvalues]
    rfl

theorem attempts_withFallback :
    attempts enums status = (attempts enums fallback).map (withFallback status <$> ·) := by
  unfold attempts
  rw [List.map_map]
  exact List.map_congr_left fun e _ => ofEnum_withFallback fallback status e

/-- **Codes are compared without looking at statuses.** -/
theorem sharedCodes_withFallback (contracts : List ErrorContract) :
    sharedCodes (contracts.map (withFallback status)) = sharedCodes contracts := by
  have hkeeps : ∀ d : ErrorDescriptor, (d.withFallback status).code = d.code ∧
      (d.withFallback status).enumName = d.enumName ∧ (d.withFallback status).name = d.name := by
    intro d
    unfold ErrorDescriptor.withFallback
    split <;> exact ⟨rfl, rfl, rfl⟩
  have hvalues : (contracts.map (withFallback status)).flatMap (·.values) =
      (contracts.flatMap (·.values)).map (·.withFallback status) := by
    rw [List.flatMap_map, List.map_flatMap]
    rfl
  unfold sharedCodes
  rw [hvalues, repeats_map, List.map_map]
  simp only [hkeeps, Function.comp_def, Prod.map]

end ErrorContract

end Failure

namespace Bundle

open Schema (Service Method)
open Failure (ErrorContract ErrorDescriptor)

variable (s : Schema) (c : Settings)

/-- A result without the failures of unmapped methods. -/
def Generation.withoutUnmapped (g : Generation) : Generation :=
  { g with failures := g.failures.filter fun i => i.kind != .unmappedMethod }

/-- A bundle with another fallback status. -/
def withFallback (status : Nat) (b : Bundle) : Bundle :=
  { b with errors := b.errors.map (·.withFallback status) }

/-- A result with another fallback status. -/
def Generation.withFallback (status : Nat) (g : Generation) : Generation :=
  { g with bundle := g.bundle.withFallback status }

/-! ## Unmapped methods -/

/-- An unmapped method has no operation, whether it is skipped or fails. -/
theorem operationOf?_skip (p : Service × Method) :
    operationOf? s { c with unmapped := .skip } p =
      operationOf? s { c with unmapped := .error } p := by
  by_cases hm : p.2.isUnmapped = true
  · unfold operationOf? Operation.build
    simp only [hm, if_true]
  · unfold operationOf?
    rw [Operation.build_of_mapped hm, Operation.build_of_mapped hm]

/-- What is skipped is what fails for being unmapped. -/
theorem issueOf?_skip (p : Service × Method) :
    issueOf? s { c with unmapped := .skip } p =
      (issueOf? s { c with unmapped := .error } p).filter fun i => i.kind != .unmappedMethod := by
  by_cases hm : p.2.isUnmapped = true
  · unfold issueOf? Operation.build
    simp only [hm, if_true]
    rfl
  · unfold issueOf?
    rw [Operation.build_of_mapped hm, Operation.build_of_mapped hm]
    cases hb : Operation.buildMapped s p.1 p.2 c with
    | ok o => rfl
    | error i =>
      have hi : (i.kind != .unmappedMethod) = true :=
        bne_iff_ne.2 (Operation.unbuildable_buildMapped i hb).ne_unmappedMethod
      change some i = (some i).filter fun i => i.kind != .unmappedMethod
      rw [Option.filter_some, if_pos hi]

theorem ofSchema_skip :
    ofSchema s { c with unmapped := .skip } = ofSchema s { c with unmapped := .error } := by
  have hbuilt : built s { c with unmapped := .skip } = built s { c with unmapped := .error } := by
    funext v
    rw [built_eq, built_eq]
    simp only [operationOf?_skip]
  unfold ofSchema operationsOf interfaceOf
  rw [hbuilt]

theorem failuresOf_skip :
    failuresOf s { c with unmapped := .skip } =
      (failuresOf s { c with unmapped := .error }).filter fun i => i.kind != .unmappedMethod := by
  -- an enum fails for its codes
  have henum : ∀ e, enumIssue? { c with unmapped := .skip } e =
      (enumIssue? { c with unmapped := .error } e).filter fun i => i.kind != .unmappedMethod := by
    intro e
    unfold enumIssue? ErrorContract.ofEnum
    simp only
    cases e.isErrorEnum with
    | false => rfl
    | true => cases repeats (·.number) e.values <;> rfl
  rw [failuresOf_eq, failuresOf_eq, List.filter_append, List.filter_filterMap,
    List.filter_filterMap]
  simp only [issueOf?_skip, henum]

theorem generate_skip :
    generate s { c with unmapped := .skip } =
      Generation.withoutUnmapped <$> generate s { c with unmapped := .error } := by
  rw [generate_eq, generate_eq, ofSchema_skip, failuresOf_skip]
  simp only
  split <;> rfl

/-! ## The scope of error codes -/

theorem conflicts_schema (b : Bundle) :
    b.conflicts .schema = b.conflicts .enum ++ ErrorContract.sharedCodes b.errors := by
  unfold conflicts
  simp only [List.append_nil]

variable {s c}

theorem generate_enum_of_schema {g : Generation}
    (h : generate s { c with errorCodeScope := .schema } = .ok g) :
    generate s { c with errorCodeScope := .enum } = .ok g := by
  rw [generate_eq_ok_iff] at h ⊢
  obtain ⟨hnone, rfl⟩ := h
  rw [conflicts_schema, List.append_eq_nil_iff] at hnone
  exact ⟨hnone.1, rfl⟩

theorem generate_schema_of_enum {issues : List Issue}
    (h : generate s { c with errorCodeScope := .enum } = .error issues) :
    ∃ all, generate s { c with errorCodeScope := .schema } = .error all ∧ issues <+: all := by
  obtain ⟨hne, hissues⟩ := generate_eq_error_iff.1 h
  have hall : (ofSchema s c).conflicts .schema =
      issues ++ ErrorContract.sharedCodes (ofSchema s c).errors := by
    rw [conflicts_schema, hissues]
    rfl
  refine ⟨_, generate_eq_error_iff.2 ⟨?_, rfl⟩, ?_⟩
  · change (ofSchema s c).conflicts .schema ≠ []
    rw [hall]
    exact List.append_ne_nil_of_left_ne_nil hne _
  · change issues <+: (ofSchema s c).conflicts .schema
    rw [hall]
    exact List.prefix_append _ _

/-! ## The fallback status -/

theorem ofSchema_fallback (status status' : Nat) :
    ofSchema s { c with fallbackStatus := status' } =
      (ofSchema s { c with fallbackStatus := status }).withFallback status' := by
  unfold ofSchema withFallback
  simp only [ErrorContract.attempts_withFallback s.enums status status', successes_map]
  rfl

theorem failuresOf_fallback (status status' : Nat) :
    failuresOf s { c with fallbackStatus := status' } =
      failuresOf s { c with fallbackStatus := status } := by
  unfold failuresOf
  simp only [ErrorContract.attempts_withFallback s.enums status status', failures_map]
  rfl

theorem conflicts_withFallback (b : Bundle) (status : Nat) (scope : Settings.CodeScope) :
    (b.withFallback status).conflicts scope = b.conflicts scope := by
  unfold conflicts withFallback
  simp only [ErrorContract.sharedCodes_withFallback]

theorem generate_fallback (status status' : Nat) :
    generate s { c with fallbackStatus := status' } =
      Generation.withFallback status' <$> generate s { c with fallbackStatus := status } := by
  rw [generate_eq, generate_eq, ofSchema_fallback status status',
    failuresOf_fallback status status']
  simp only [conflicts_withFallback]
  split <;> rfl

/-- The fallback status is that of the errors it is said to be. -/
theorem status_of_fallback {k : ErrorContract} (hk : k ∈ (ofSchema s c).errors)
    {d : ErrorDescriptor} (hd : d ∈ k.values) (hsource : d.statusSource = .fallback) :
    d.status = c.fallbackStatus := by
  -- the tables of a run are their own with the fallback status they already have
  have hself : (ofSchema s c).errors =
      (ofSchema s c).errors.map (·.withFallback c.fallbackStatus) :=
    congrArg errors (ofSchema_fallback (c := c) c.fallbackStatus c.fallbackStatus)
  rw [hself] at hk
  obtain ⟨k, -, rfl⟩ := List.mem_map.1 hk
  obtain ⟨d, -, rfl⟩ := List.mem_map.1 hd
  exact ErrorDescriptor.status_withFallback _ hsource

/-- **Policies do not interfere.** Two runs that differ in one policy alone stop with the same
conflicts or end with the same bundle, but for what the policy is about:

* skipping unmapped methods takes their failures away and changes nothing else;
* codes that must differ in the whole schema may stop a run, or add conflicts to those that are
  there, and otherwise change nothing;
* the fallback status is the status of those errors that have it as their source. -/
theorem generate_policies (s : Schema) (c : Settings) :
    (generate s { c with unmapped := .skip } =
      Generation.withoutUnmapped <$> generate s { c with unmapped := .error }) ∧
    ((∀ g, generate s { c with errorCodeScope := .schema } = .ok g →
        generate s { c with errorCodeScope := .enum } = .ok g) ∧
      ∀ issues, generate s { c with errorCodeScope := .enum } = .error issues →
        ∃ all, generate s { c with errorCodeScope := .schema } = .error all ∧ issues <+: all) ∧
    ∀ status status',
      generate s { c with fallbackStatus := status' } =
        Generation.withFallback status' <$> generate s { c with fallbackStatus := status } ∧
      ∀ g, generate s { c with fallbackStatus := status } = .ok g →
        ∀ k ∈ g.bundle.errors, ∀ d ∈ k.values, d.statusSource = .fallback → d.status = status := by
  refine ⟨generate_skip s c, ⟨fun g => generate_enum_of_schema, fun issues =>
    generate_schema_of_enum⟩, fun status status' => ⟨generate_fallback status status', ?_⟩⟩
  intro g hg k hk d hd hsource
  obtain ⟨-, rfl⟩ := generate_eq_ok_iff.1 hg
  exact status_of_fallback hk hd hsource

/-- A schema with an unmapped method and errors without a status. -/
def clinic : Schema where
  package := "clinic"
  services := [⟨"Desk", [
    ⟨"Ping", "Note", "Note", none, []⟩,
    ⟨"Call", "Note", "Note", none, [⟨"cmd", .text "call"⟩]⟩]⟩]
  messages := [⟨"Note", [], [], {}⟩]
  enums := [⟨"Fault", none, [
    ⟨"GONE", 1, none, some "gone", none⟩, ⟨"BUSY", 2, some 503, none, none⟩]⟩]

/-- The same with everything twice. -/
def clinicTwice : Schema :=
  { clinic with
    services := clinic.services ++ clinic.services
    enums := clinic.enums ++ clinic.enums }

theorem generate_policies_clinic :
    (∃ g, generate clinic { unmapped := .error, errorCodeScope := .schema } = .ok g ∧
      g.failures.map (·.kind) = [.unmappedMethod] ∧
      generate clinic { unmapped := .skip, errorCodeScope := .schema } = .ok g.withoutUnmapped ∧
      generate clinic { unmapped := .error, errorCodeScope := .enum } = .ok g ∧
      generate clinic { unmapped := .error, errorCodeScope := .schema, fallbackStatus := 404 } =
        .ok (g.withFallback 404) ∧
      ∀ k ∈ g.bundle.errors, ∀ d ∈ k.values, d.statusSource = .fallback → d.status = 500) ∧
    ∃ issues all, generate clinicTwice {} = .error issues ∧ issues.length = 1 ∧
      generate clinicTwice { errorCodeScope := .schema } = .error all ∧ all.length = 3 ∧
      issues <+: all := by
  have hok := generate_policies clinic { unmapped := .error, errorCodeScope := .schema }
  have hstopped := generate_policies clinicTwice {}
  refine ⟨⟨_, rfl, rfl, hok.1, hok.2.1.1 _ rfl, (hok.2.2 500 404).1, (hok.2.2 500 404).2 _ rfl⟩, ?_⟩
  obtain ⟨all, hall, hprefix⟩ := hstopped.2.1.2 _ rfl
  refine ⟨_, all, rfl, rfl, hall, ?_, hprefix⟩
  cases hall
  rfl

end Bundle

end ServiceContract
