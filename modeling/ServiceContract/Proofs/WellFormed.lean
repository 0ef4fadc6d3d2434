import ServiceContract.Proofs.Mapping
import ServiceContract.Proofs.Names
import ServiceContract.Schema.Load

/-!
# Well-formed documents

What a document must be to have a schema: names and numbers are distinct, references stand for
declared types, and extensions are attached where they may be and say something.

* `Document.WellFormed`: the conditions, element by element.
* `issues_loadMethod_eq_nil_iff` and its like: an element is loaded without issue exactly when it
  is well formed.
* `load_eq_ok_iff_wellFormed`: a document has a schema exactly when it is well formed; otherwise
  there is at least one issue.
-/

namespace ServiceContract.Document

open Schema (FieldKind Names OptionEntry SaysMapping SaysEntries)
open Extension (Placed SaysText SaysLocation SaysStatus)

/-- A method of a schema with declared names: both messages are declared, and the HTTP mapping and
the options are sound. -/
@[mk_iff]
structure Method.WellFormed (n : Names) (m : Method) : Prop where
  placed : Placed .method m.extensions
  request : ∃ x, n.Resolves n.messages m.inputType x
  response : ∃ x, n.Resolves n.messages m.outputType x
  http : Extension.http.Readable (fun v h => SaysMapping v h ∧ h.Sound) m.extensions
  extra : Extension.extra.Readable (fun v es => SaysEntries v es ∧ OptionEntry.Sound es)
    m.extensions

@[mk_iff]
structure Service.WellFormed (n : Names) (s : Service) : Prop where
  placed : Placed .service s.extensions
  distinct : (s.methods.map (·.name)).Nodup
  methods : ∀ m ∈ s.methods, m.WellFormed n

/-- Defaults that say something, if there are any. -/
@[mk_iff]
structure DefaultsReadable (xs : Extensions) : Prop where
  location : Extension.defaultLocation.Readable SaysLocation xs
  autoTags : Extension.defaultAutoTags.Readable SaysText xs

@[mk_iff]
structure Oneof.WellFormed (o : Oneof) : Prop where
  placed : Placed .oneof o.extensions
  defaults : DefaultsReadable o.extensions

/-- Whether a field with a label is repeated. -/
inductive Labels : Option String → Bool → Prop
  | absent : Labels none false
  | optional : Labels (some "optional") false
  | required : Labels (some "required") false
  | repeated : Labels (some "repeated") true

/-- The type of a field: what its reference stands for, or else its scalar type. -/
inductive Field.HasKind (n : Names) (f : Field) : FieldKind → Prop
  | reference {r : String} {kind : FieldKind} : f.typeName = some r → n.Types r kind →
      HasKind n f kind
  | scalar {t : String} : f.typeName = none → f.scalar = some t → HasKind n f (.scalar t)

@[mk_iff]
structure Field.WellFormed (n : Names) (f : Field) : Prop where
  placed : Placed .field f.extensions
  label : ∃ repeated, Labels f.label repeated
  kind : ∃ kind, f.HasKind n kind
  location : Extension.location.Readable SaysLocation f.extensions
  tag : Extension.tag.Readable SaysText f.extensions
  autoTags : Extension.autoTags.Readable SaysText f.extensions

@[mk_iff]
structure Message.WellFormed (n : Names) (m : Message) : Prop where
  placed : Placed .message m.extensions
  defaults : DefaultsReadable m.extensions
  distinctOneofs : (m.oneofs.map (·.name)).Nodup
  oneofs : ∀ o ∈ m.oneofs, o.WellFormed
  distinctNames : (m.fields.map (·.name)).Nodup
  distinctNumbers : (m.fields.map (·.number)).Nodup
  grouped : ∀ f ∈ m.fields, ∀ o, f.oneof = some o → o ∈ m.oneofs.map (·.name)
  fields : ∀ f ∈ m.fields, f.WellFormed n

@[mk_iff]
structure EnumValue.WellFormed (v : EnumValue) : Prop where
  placed : Placed .enumValue v.extensions
  status : Extension.status.Readable SaysStatus v.extensions
  reason : Extension.reason.Readable SaysText v.extensions
  message : Extension.message.Readable SaysText v.extensions

@[mk_iff]
structure Enum.WellFormed (e : Enum) : Prop where
  placed : Placed .enum e.extensions
  defaultStatus : Extension.defaultStatus.Readable SaysStatus e.extensions
  distinct : (e.values.map (·.name)).Nodup
  values : ∀ v ∈ e.values, v.WellFormed

end ServiceContract.Document

namespace ServiceContract

/-- **A document that has a schema.** -/
@[mk_iff]
structure Document.WellFormed (d : Document) : Prop where
  distinctMessages : (d.messages.map (·.name)).Nodup
  distinctEnums : (d.enums.map (·.name)).Nodup
  disjoint : ∀ name ∈ d.enums.map (·.name), name ∉ d.messages.map (·.name)
  services : ∀ s ∈ d.services, s.WellFormed (Schema.Names.ofDocument d)
  messages : ∀ m ∈ d.messages, m.WellFormed (Schema.Names.ofDocument d)
  enums : ∀ e ∈ d.enums, e.WellFormed

namespace Schema

open Document (DefaultsReadable Labels)

variable {n : Names} {place : Place} {xs : Document.Extensions}

/-! ## Methods and services -/

theorem issues_orNote_eq_nil_iff {α : Type} {found : Option α} {cause : Cause} :
    (orNote found place cause).issues = [] ↔ ∃ a, found = some a := by
  cases found <;> simp [orNote]

theorem issues_loadMethod_eq_nil_iff {m : Document.Method} :
    (loadMethod n place m).issues = [] ↔ m.WellFormed n := by
  rw [Document.Method.wellFormed_iff]
  unfold loadMethod
  simp only [Noted.issues_bind_eq_nil_iff, Noted.issues_report, Noted.issues_pure,
    Extension.misplaced_eq_nil_iff, issues_orNote_eq_nil_iff, Names.message?_eq_some_iff,
    issues_http_eq_nil_iff, and_true, issues_extra_eq_nil_iff]

theorem issues_loadService_eq_nil_iff {s : Document.Service} :
    (loadService n s).issues = [] ↔ s.WellFormed n := by
  rw [Document.Service.wellFormed_iff]
  unfold loadService
  simp only [Noted.issues_bind_eq_nil_iff, Noted.issues_report, Noted.issues_pure,
    Extension.misplaced_eq_nil_iff, Noted.issues_keep_eq_nil_iff, Noted.issues_unless_eq_nil_iff,
    issues_loadMethod_eq_nil_iff, and_true]
  rw [forall_withBefore_fresh (·.name) s.methods (P := fun m => m.WellFormed n)]

/-! ## Messages -/

theorem issues_loadDefaults_eq_nil_iff :
    (loadDefaults xs place).issues = [] ↔ DefaultsReadable xs := by
  rw [Document.defaultsReadable_iff]
  unfold loadDefaults
  simp only [Noted.issues_bind_eq_nil_iff, Noted.issues_pure, and_true,
    Extension.issues_interpret_eq_nil_iff Extension.decodes_location,
    Extension.issues_interpret_eq_nil_iff Extension.decodes_text]

theorem issues_loadOneof_eq_nil_iff {o : Document.Oneof} :
    (loadOneof place o).issues = [] ↔ o.WellFormed := by
  rw [Document.Oneof.wellFormed_iff]
  unfold loadOneof
  simp only [Noted.issues_bind_eq_nil_iff, Noted.issues_report, Noted.issues_pure,
    Extension.misplaced_eq_nil_iff, issues_loadDefaults_eq_nil_iff, and_true]

theorem repeatedOfLabel_eq_ok_iff {label : Option String} {repeated : Bool} :
    repeatedOfLabel label = .ok repeated ↔ Labels label repeated := by
  constructor
  · intro h
    unfold repeatedOfLabel at h
    split at h <;> cases h
    · exact .absent
    · exact .optional
    · exact .required
    · exact .repeated
  · rintro ⟨⟩ <;> rfl

theorem fieldKind_eq_ok_iff {f : Document.Field} {kind : FieldKind} :
    fieldKind n f = .ok kind ↔ f.HasKind n kind := by
  constructor
  · intro h
    unfold fieldKind at h
    split at h
    · next r _ hr =>
      split at h
      · next k hk =>
        cases h
        exact .reference hr (Names.type?_eq_some_iff.1 hk)
      · cases h
    · next t hr ht =>
      cases h
      exact .scalar hr ht
    · cases h
  · rintro (⟨hr, hkind⟩ | ⟨hr, ht⟩)
    · unfold fieldKind
      rw [hr]
      simp only [Names.type?_eq_some_iff.2 hkind]
    · unfold fieldKind
      rw [hr, ht]

theorem issues_loadField_eq_nil_iff {f : Document.Field} :
    (loadField n place f).issues = [] ↔ f.WellFormed n := by
  rw [Document.Field.wellFormed_iff]
  unfold loadField
  simp only [Noted.issues_bind_eq_nil_iff, Noted.issues_report,
    Extension.misplaced_eq_nil_iff, Noted.issues_attempt_eq_nil_iff, repeatedOfLabel_eq_ok_iff]
  apply and_congr_right
  intro _
  apply and_congr_right
  intro _
  simp only [← fieldKind_eq_ok_iff]
  -- the extensions are looked at only if the type is known
  cases fieldKind n f with
  | error cause => simp
  | ok kind =>
    simp only [Noted.value_attempt_of_ok rfl, Noted.issues_bind_eq_nil_iff, Noted.issues_pure,
      Extension.issues_interpret_eq_nil_iff Extension.decodes_location,
      Extension.issues_interpret_eq_nil_iff Extension.decodes_text, and_true]

theorem undeclaredOneof_eq_nil_iff {m : Document.Message} {f : Document.Field} :
    undeclaredOneof m place f = [] ↔ ∀ o, f.oneof = some o → o ∈ m.oneofs.map (·.name) := by
  unfold undeclaredOneof
  cases f.oneof with
  | none => simp
  | some o => simp

theorem fieldClash?_eq_none_iff {before : List Document.Field} {f : Document.Field} :
    fieldClash? before f = none ↔ before.any (·.name == f.name) = false ∧
      (firsts (·.name) before).any (·.number == f.number) = false := by
  unfold fieldClash?
  split
  · next h => simp [h]
  · next h =>
    simp only [Bool.not_eq_true] at h
    simp [h]

/-- No field clashes with those before it exactly when names and numbers are distinct. -/
theorem forall_fieldClash?_eq_none_iff {fs : List Document.Field} {P : Document.Field → Prop} :
    (∀ p ∈ withBefore fs, fieldClash? p.1 p.2 = none ∧ P p.2) ↔
      (fs.map (·.name)).Nodup ∧ (fs.map (·.number)).Nodup ∧ ∀ f ∈ fs, P f := by
  -- once names are distinct, numbers are compared with those of all fields before
  have hfirsts (hnames : (fs.map (·.name)).Nodup) : ∀ p ∈ withBefore fs,
      firsts (·.name) p.1 = p.1 := fun p hp =>
    firsts_eq_self (hnames.sublist ((fst_prefix_of_mem_withBefore hp).sublist.map _))
  simp only [fieldClash?_eq_none_iff, ← forall_withBefore_fresh (·.number) fs]
  constructor
  · intro h
    have hnames := (forall_withBefore_iff_nodup (·.name) fs).1 fun p hp => (h p hp).1.1
    refine ⟨hnames, fun p hp => ?_⟩
    obtain ⟨⟨-, hnumber⟩, hP⟩ := h p hp
    rw [hfirsts hnames p hp] at hnumber
    exact ⟨hnumber, hP⟩
  · rintro ⟨hnames, h⟩ p hp
    rw [hfirsts hnames p hp]
    exact ⟨⟨(forall_withBefore_iff_nodup (·.name) fs).2 hnames p hp, (h p hp).1⟩, (h p hp).2⟩

theorem issues_clash_eq_nil_iff {clash : Option Cause} {x : Noted (Option Field)} :
    (match clash with
      | some cause => Noted.attempt place (.error cause)
      | none => x).issues = [] ↔ clash = none ∧ x.issues = [] := by
  cases clash <;> simp [Noted.attempt]

theorem issues_loadMessage_eq_nil_iff {m : Document.Message} :
    (loadMessage n m).issues = [] ↔ m.WellFormed n := by
  rw [Document.Message.wellFormed_iff]
  unfold loadMessage
  simp only [Noted.issues_bind_eq_nil_iff, Noted.issues_report, Noted.issues_pure,
    Extension.misplaced_eq_nil_iff, issues_loadDefaults_eq_nil_iff, and_true,
    Noted.issues_keep_eq_nil_iff, Noted.issues_unless_eq_nil_iff, Noted.issues_map,
    issues_loadOneof_eq_nil_iff]
  rw [forall_withBefore_fresh (·.name) m.oneofs (P := fun o => o.WellFormed), and_assoc]
  refine and_congr_right' (and_congr_right' (and_congr_right' (and_congr_right' ?_)))
  calc
    _ ↔ ∀ p ∈ withBefore m.fields, fieldClash? p.1 p.2 = none ∧
        (∀ o, p.2.oneof = some o → o ∈ m.oneofs.map (·.name)) ∧ p.2.WellFormed n := by
      apply forall₂_congr
      intro p _
      refine issues_clash_eq_nil_iff.trans (and_congr_right' ?_)
      rw [Noted.issues_bind_eq_nil_iff, Noted.issues_report,
        undeclaredOneof_eq_nil_iff, issues_loadField_eq_nil_iff]
    _ ↔ _ := by
      rw [forall_fieldClash?_eq_none_iff (P := fun f =>
        (∀ o, f.oneof = some o → o ∈ m.oneofs.map (·.name)) ∧ f.WellFormed n)]
      simp only [forall_and]

/-! ## Enums -/

theorem issues_loadEnumValue_eq_nil_iff {v : Document.EnumValue} :
    (loadEnumValue place v).issues = [] ↔ v.WellFormed := by
  rw [Document.EnumValue.wellFormed_iff]
  unfold loadEnumValue
  simp only [Noted.issues_bind_eq_nil_iff, Noted.issues_report, Noted.issues_pure,
    Extension.misplaced_eq_nil_iff, Extension.issues_interpret_eq_nil_iff Extension.decodes_status,
    Extension.issues_interpret_eq_nil_iff Extension.decodes_text, and_true]

theorem issues_loadEnum_eq_nil_iff {e : Document.Enum} :
    (loadEnum e).issues = [] ↔ e.WellFormed := by
  rw [Document.Enum.wellFormed_iff]
  unfold loadEnum
  simp only [Noted.issues_bind_eq_nil_iff, Noted.issues_report, Noted.issues_pure,
    Extension.misplaced_eq_nil_iff, Extension.issues_interpret_eq_nil_iff Extension.decodes_status,
    Noted.issues_keep_eq_nil_iff,
    Noted.issues_unless_eq_nil_iff, Noted.issues_map, issues_loadEnumValue_eq_nil_iff, and_true]
  rw [forall_withBefore_fresh (·.name) e.values (P := fun v => v.WellFormed)]

/-! ## Documents -/

variable {d : Document}

theorem repeatedNames_eq_nil_iff :
    repeatedNames d = [] ↔ (d.messages.map (·.name)).Nodup ∧ (d.enums.map (·.name)).Nodup ∧
      ∀ name ∈ d.enums.map (·.name), name ∉ d.messages.map (·.name) := by
  unfold repeatedNames
  rw [List.append_eq_nil_iff, List.map_eq_nil_iff, repeats_eq_nil_iff, List.filterMap_eq_nil_iff]
  apply and_congr_right
  intro _
  have hfresh := forall_withBefore_fresh (·.name) d.enums
    (P := fun e => d.messages.any (·.name == e.name) = false)
  rw [List.forall_mem_map]
  calc
    _ ↔ ∀ p ∈ withBefore d.enums, p.1.any (·.name == p.2.name) = false ∧
        d.messages.any (·.name == p.2.name) = false := by
      apply forall₂_congr
      intro p _
      simp only [ite_eq_right_iff, reduceCtorEq, imp_false, Bool.not_eq_true,
        Bool.or_eq_false_iff]
    _ ↔ _ := by
      rw [hfresh]
      simp

theorem issues_interpret_eq_nil_iff_wellFormed :
    (interpret d).issues = [] ↔ d.WellFormed := by
  rw [Document.wellFormed_iff]
  unfold interpret
  simp only [Noted.issues_bind_eq_nil_iff, Noted.issues_report, Noted.issues_pure,
    Noted.issues_each, List.flatMap_eq_nil_iff, repeatedNames_eq_nil_iff,
    issues_loadService_eq_nil_iff, issues_loadMessage_eq_nil_iff, issues_loadEnum_eq_nil_iff,
    and_true, and_assoc]

theorem load_eq_ok_iff {s : Schema} :
    load d = .ok s ↔ (interpret d).issues = [] ∧ (interpret d).value = s := by
  unfold load
  simp only [List.isEmpty_iff]
  split
  · next h => simp [h]
  · next h => simp [h]

theorem load_eq_error_iff {issues : List Issue} :
    load d = .error issues ↔ issues ≠ [] ∧ (interpret d).issues = issues := by
  unfold load
  simp only [List.isEmpty_iff]
  split
  · next h => simp [h, eq_comm]
  · next h =>
    simp only [Except.error.injEq, iff_and_self]
    exact fun heq => heq ▸ h

/-- **A document has a schema exactly when it is well formed**, and otherwise issues. -/
theorem load_eq_ok_iff_wellFormed (d : Document) :
    ((∃ s, load d = .ok s) ↔ d.WellFormed) ∧
      (¬ d.WellFormed ↔ ∃ issues, issues ≠ [] ∧ load d = .error issues) := by
  simp only [load_eq_ok_iff, load_eq_error_iff, ← issues_interpret_eq_nil_iff_wellFormed]
  constructor
  · simp
  · simp

end Schema

end ServiceContract
