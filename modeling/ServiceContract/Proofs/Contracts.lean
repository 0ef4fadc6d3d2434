import ServiceContract.Failure.Contract
import ServiceContract.Proofs.Attempts
import ServiceContract.Proofs.Before
import ServiceContract.Proofs.Image
import ServiceContract.Settings.Basic

/-!
# Error contracts

An enum whose codes differ becomes a contract with one descriptor a value; otherwise the first value
whose code is taken is reported, with the value that has the code. The status of a value comes from
the value itself, from its enum, or from the settings. A document can give statuses in two places,
and both are read as HTTP statuses; settings with another fallback are refused.

* `ofEnum_eq_ok_iff`, `ofEnum_eq_error_iff`: what becomes of an enum.
* `forall₂_contracts`, `forall₂_clashes`: which enums of a schema become contracts, and which fail.
* `isHttp_of_describes`: every status of a loaded schema is an HTTP status.
* `contracts_exact`: all of this together.
-/

namespace ServiceContract

open Schema (Enum EnumValue)

/-! ## Enums that describe errors -/

namespace Schema.Enum

/-- **An enum describes errors** if it or one of its values says something about them. -/
def DescribesErrors (e : Enum) : Prop :=
  e.defaultStatus ≠ none ∨ ∃ v ∈ e.values, v.status ≠ none ∨ v.reason ≠ none ∨ v.message ≠ none

/-- No two values of an enum have the same number. -/
def CodesDiffer (e : Enum) : Prop := (e.values.map (·.number)).Nodup

instance (e : Enum) : Decidable e.DescribesErrors :=
  inferInstanceAs (Decidable (_ ∨ _))

instance (e : Enum) : Decidable e.CodesDiffer :=
  inferInstanceAs (Decidable (List.Nodup _))

theorem isErrorEnum_iff (e : Enum) : e.isErrorEnum = true ↔ e.DescribesErrors := by
  unfold isErrorEnum DescribesErrors
  simp only [Bool.or_eq_true, List.any_eq_true, Option.isSome_iff_ne_none, or_assoc]

end Schema.Enum

namespace Failure

/-- Whether a number is an HTTP status. -/
def IsHttp (status : Nat) : Prop := 100 ≤ status ∧ status ≤ 599

/-- **What may give the status of a value**, in order of precedence: the value, its enum, and the
fallback. -/
def statusLayers (e : Enum) (v : EnumValue) (fallback : Nat) : List (Option (Nat × StatusSource)) :=
  [v.status.map fun n => (n, .value), e.defaultStatus.map fun n => (n, .enum),
    some (fallback, .fallback)]

/-- **What the errors of a value say**: the number of the value, the status of the first layer that
gives one, and the reason and message of the value, or its name and no message. -/
structure DescribesValue (e : Enum) (fallback : Nat) (v : EnumValue) (d : ErrorDescriptor) :
    Prop where
  enumName : d.enumName = e.name
  name : d.name = v.name
  code : d.code = v.number
  status : (statusLayers e v fallback).findSome? id = some (d.status, d.statusSource)
  reason_of_given : ∀ r, v.reason = some r → r ≠ "" → d.reason = r
  reason_of_not_given : (∀ r, v.reason = some r → r = "") → d.reason = v.name
  message : d.message = v.message.getD ""

/-- **The contract of an enum**: codes differ, and each value has its descriptor, in order. -/
structure IsContract (fallback : Nat) (e : Enum) (k : ErrorContract) : Prop where
  codes : e.CodesDiffer
  enumName : k.enumName = e.name
  values : List.Forall₂ (DescribesValue e fallback) e.values k.values

/-- **The issue of an enum whose codes do not differ**: it is at the first value whose number an
earlier value has, and names the first value that has it. -/
def IsClash (e : Enum) (issue : Issue) : Prop :=
  ∃ i j : Fin e.values.length,
    IsFirstRepeat (fun v w : EnumValue => v.number = w.number) e.values i j ∧
    issue.place = [⟨.enum, e.name⟩, ⟨.value, e.values[i].name⟩] ∧
    issue.cause = .codeTaken e.values[i].number.toInt e.values[j].name

variable {e : Enum} {fallback : Nat}

/-! ## One value -/

theorem findSome?_statusLayers (e : Enum) (v : EnumValue) (fallback : Nat) :
    (statusLayers e v fallback).findSome? id = some (ErrorContract.statusOf e v fallback) := by
  unfold statusLayers ErrorContract.statusOf
  cases v.status with
  | some n => rfl
  | none => cases e.defaultStatus <;> rfl

theorem describesValue_describe (e : Enum) (fallback : Nat) (v : EnumValue) :
    DescribesValue e fallback v (ErrorContract.describe e fallback v) := by
  refine ⟨rfl, rfl, rfl, findSome?_statusLayers e v fallback, ?_, ?_, rfl⟩
  · intro r hr hne
    change ErrorContract.reasonOf v = r
    unfold ErrorContract.reasonOf
    rw [hr]
    simp [hne]
  · intro hnot
    change ErrorContract.reasonOf v = v.name
    unfold ErrorContract.reasonOf
    cases hr : v.reason with
    | none => rfl
    | some r => simp [hnot r hr]

/-- A value is described in one way only. -/
theorem DescribesValue.unique {v : EnumValue} {d d' : ErrorDescriptor}
    (h : DescribesValue e fallback v d) (h' : DescribesValue e fallback v d') : d = d' := by
  have hstatus : (d.status, d.statusSource) = (d'.status, d'.statusSource) :=
    Option.some.inj (h.status.symm.trans h'.status)
  have hreason : d.reason = d'.reason := by
    by_cases hnot : ∀ r, v.reason = some r → r = ""
    · rw [h.reason_of_not_given hnot, h'.reason_of_not_given hnot]
    · push Not at hnot
      obtain ⟨r, hr, hne⟩ := hnot
      rw [h.reason_of_given r hr hne, h'.reason_of_given r hr hne]
  obtain ⟨hnumber, hsource⟩ := Prod.mk.inj hstatus
  cases d
  cases d'
  simp only [ErrorDescriptor.mk.injEq]
  exact ⟨h.enumName.trans h'.enumName.symm, h.name.trans h'.name.symm, h.code.trans h'.code.symm,
    hnumber, hreason, h.message.trans h'.message.symm, hsource⟩

theorem describesValue_iff {v : EnumValue} {d : ErrorDescriptor} :
    DescribesValue e fallback v d ↔ ErrorContract.describe e fallback v = d := by
  constructor
  · intro h
    exact (describesValue_describe e fallback v).unique h
  · rintro rfl
    exact describesValue_describe e fallback v

/-! ## One enum -/

theorem isContract_iff {k : ErrorContract} :
    IsContract fallback e k ↔
      e.CodesDiffer ∧ k = ⟨e.name, e.values.map (ErrorContract.describe e fallback)⟩ := by
  have hvalues : ∀ ds, List.Forall₂ (DescribesValue e fallback) e.values ds ↔
      e.values.map (ErrorContract.describe e fallback) = ds := by
    intro ds
    rw [← List.forall₂_eq_eq_eq, List.forall₂_map_left_iff]
    constructor
    · exact fun h => h.imp fun _ _ => describesValue_iff.1
    · exact fun h => h.imp fun _ _ => describesValue_iff.2
  constructor
  · rintro ⟨hcodes, hname, hds⟩
    have hds := (hvalues k.values).1 hds
    refine ⟨hcodes, ?_⟩
    rw [← hname, hds]
  · rintro ⟨hcodes, rfl⟩
    exact ⟨hcodes, rfl, (hvalues _).2 rfl⟩

theorem ofEnum_of_codesDiffer (h : e.CodesDiffer) :
    ErrorContract.ofEnum e fallback =
      .ok ⟨e.name, e.values.map (ErrorContract.describe e fallback)⟩ := by
  have hnone : repeats (·.number) e.values = [] := (repeats_eq_nil_iff _ _).2 h
  unfold ErrorContract.ofEnum
  rw [hnone]

/-- An enum whose codes do not differ fails at the first value whose code is taken. -/
theorem exists_ofEnum_eq_error (fallback : Nat) (h : ¬ e.CodesDiffer) :
    ∃ issue, ErrorContract.ofEnum e fallback = .error issue ∧ IsClash e issue := by
  have hsome : repeats (·.number) e.values ≠ [] := fun hnil => h ((repeats_eq_nil_iff _ _).1 hnil)
  have hlists : ListsRepeats (fun v w : EnumValue => v.number = w.number) e.values
      (repeats (·.number) e.values) :=
    listsRepeats_repeats _ fun _ _ _ _ => beq_iff_eq
  unfold ErrorContract.ofEnum
  cases hrepeats : repeats (·.number) e.values with
  | nil => exact absurd hrepeats hsome
  | cons p rest =>
    rw [hrepeats] at hlists
    obtain ⟨i, j, hfirst, hv, hw⟩ := hlists.exists_isFirstRepeat
    refine ⟨_, rfl, i, j, hfirst, ?_, ?_⟩
    · rw [← hv]
      rfl
    · rw [← hv, ← hw]

theorem IsClash.unique {issue issue' : Issue} (h : IsClash e issue) (h' : IsClash e issue') :
    issue = issue' := by
  obtain ⟨i, j, hfirst, hplace, hcause⟩ := h
  obtain ⟨i', j', hfirst', hplace', hcause'⟩ := h'
  obtain ⟨rfl, rfl⟩ := hfirst.unique hfirst'
  cases issue
  cases issue'
  simp only at hplace hcause hplace' hcause'
  rw [hplace, hcause, hplace', hcause']

theorem IsClash.not_codesDiffer {issue : Issue} (h : IsClash e issue) : ¬ e.CodesDiffer := by
  obtain ⟨i, j, hfirst, -, -⟩ := h
  intro hcodes
  unfold Schema.Enum.CodesDiffer at hcodes
  rw [List.Nodup, List.pairwise_map, List.pairwise_iff_getElem] at hcodes
  exact hcodes j i j.isLt i.isLt hfirst.lt hfirst.repeated

theorem ofEnum_eq_ok_iff {k : ErrorContract} :
    ErrorContract.ofEnum e fallback = .ok k ↔ IsContract fallback e k := by
  rw [isContract_iff]
  by_cases hcodes : e.CodesDiffer
  · rw [ofEnum_of_codesDiffer hcodes, Except.ok.injEq, eq_comm]
    exact ⟨fun h => ⟨hcodes, h⟩, fun h => h.2⟩
  · obtain ⟨issue, herror, -⟩ := exists_ofEnum_eq_error fallback hcodes
    rw [herror]
    simp [hcodes]

theorem ofEnum_eq_error_iff {issue : Issue} :
    ErrorContract.ofEnum e fallback = .error issue ↔ IsClash e issue := by
  by_cases hcodes : e.CodesDiffer
  · rw [ofEnum_of_codesDiffer hcodes]
    simp only [reduceCtorEq, false_iff]
    exact fun hclash => hclash.not_codesDiffer hcodes
  · obtain ⟨found, herror, hfound⟩ := exists_ofEnum_eq_error fallback hcodes
    rw [herror, Except.error.injEq]
    constructor
    · rintro rfl
      exact hfound
    · exact fun hclash => hfound.unique hclash

theorem exists_ofEnum_eq_ok_iff :
    (∃ k, ErrorContract.ofEnum e fallback = .ok k) ↔ e.CodesDiffer := by
  constructor
  · rintro ⟨k, hk⟩
    exact (ofEnum_eq_ok_iff.1 hk).codes
  · intro hcodes
    exact ⟨_, ofEnum_of_codesDiffer hcodes⟩

theorem exists_ofEnum_eq_error_iff :
    (∃ issue, ErrorContract.ofEnum e fallback = .error issue) ↔ ¬ e.CodesDiffer := by
  constructor
  · rintro ⟨issue, hissue⟩
    exact (ofEnum_eq_error_iff.1 hissue).not_codesDiffer
  · intro hcodes
    obtain ⟨issue, hissue, -⟩ := exists_ofEnum_eq_error fallback hcodes
    exact ⟨issue, hissue⟩

/-! ## All enums of a schema -/

/-- The enums that describe errors and have a property. -/
theorem filter_isErrorEnum (enums : List Enum) (P : Enum → Prop) [DecidablePred P] :
    (enums.filter (·.isErrorEnum)).filter (fun e => decide (P e)) =
      enums.filter fun e => decide (e.DescribesErrors ∧ P e) := by
  rw [List.filter_filter]
  apply List.filter_congr
  intro e _
  rw [Bool.eq_iff_iff]
  simp only [Bool.and_eq_true, decide_eq_true_eq, Enum.isErrorEnum_iff, and_comm]

theorem forall₂_contracts (enums : List Enum) (fallback : Nat) :
    List.Forall₂ (IsContract fallback)
      (enums.filter fun e => decide (e.DescribesErrors ∧ e.CodesDiffer))
      (successes (ErrorContract.attempts enums fallback)) := by
  unfold ErrorContract.attempts
  rw [← filter_isErrorEnum]
  have hsucceeds : ∀ e : Enum, decide e.CodesDiffer = true ↔
      ∃ k, ErrorContract.ofEnum e fallback = .ok k := by
    intro e
    rw [decide_eq_true_eq, exists_ofEnum_eq_ok_iff]
  exact (forall₂_successes _ hsucceeds).imp fun _ _ hk => ofEnum_eq_ok_iff.1 hk

theorem forall₂_clashes (enums : List Enum) (fallback : Nat) :
    List.Forall₂ IsClash
      (enums.filter fun e => decide (e.DescribesErrors ∧ ¬ e.CodesDiffer))
      (failures (ErrorContract.attempts enums fallback)) := by
  unfold ErrorContract.attempts
  rw [← filter_isErrorEnum]
  have hfails : ∀ e : Enum, decide (¬ e.CodesDiffer) = true ↔
      ∃ issue, ErrorContract.ofEnum e fallback = .error issue := by
    intro e
    rw [decide_eq_true_eq, exists_ofEnum_eq_error_iff]
  exact (forall₂_failures _ hfails).imp fun _ _ hissue => ofEnum_eq_error_iff.1 hissue

/-! ## Statuses -/

/-- Every status that an enum gives is an HTTP status. -/
structure GivesHttp (e : Enum) : Prop where
  defaultStatus : ∀ n, e.defaultStatus = some n → IsHttp n
  status : ∀ v ∈ e.values, ∀ n, v.status = some n → IsHttp n

theorem isHttp_of_carries {x : Extension} {xs : Document.Extensions} {given : Option Nat}
    (h : x.Carries Extension.SaysStatus xs given) {n : Nat} (hn : given = some n) : IsHttp n := by
  obtain ⟨v, -, hlow, hhigh, -⟩ := h.says_of_some n hn
  exact ⟨hlow, hhigh⟩

/-- Both places where a document gives statuses are read as HTTP statuses. -/
theorem givesHttp_of_isImage {r : Document.Enum} (h : Enum.IsImage r e) : GivesHttp e := by
  constructor
  · intro n hn
    exact isHttp_of_carries h.defaultStatus hn
  · intro v hv n hn
    obtain ⟨w, -, hw⟩ := exists_of_forall₂_of_mem h.values hv
    exact isHttp_of_carries hw.status hn

theorem givesHttp_of_load {d : Document} {s : Schema} (h : Schema.load d = .ok s)
    (he : e ∈ s.enums) : GivesHttp e := by
  obtain ⟨hissues, rfl⟩ := Schema.load_eq_ok_iff.1 h
  have himage := Schema.isImage_interpret hissues
  obtain ⟨r, -, hr⟩ := exists_of_forall₂_of_mem himage.enums he
  exact givesHttp_of_isImage hr

theorem isHttp_fallbackStatus {c : Settings} (h : c.fault? = none) : IsHttp c.fallbackStatus := by
  unfold Settings.fault? at h
  split at h
  · cases h
  · split at h
    · cases h
    · next hrange =>
      simp only [Bool.not_eq_true', Bool.not_eq_false, Bool.and_eq_true,
        decide_eq_true_eq] at hrange
      exact hrange

/-- **Whatever layer decides, the status is an HTTP status.** -/
theorem isHttp_of_describes (he : GivesHttp e) (hfallback : IsHttp fallback) {v : EnumValue}
    (hv : v ∈ e.values) {d : ErrorDescriptor} (hd : DescribesValue e fallback v d) :
    IsHttp d.status := by
  obtain ⟨layer, hlayer, hgives⟩ := List.exists_of_findSome?_eq_some hd.status
  simp only [id_eq] at hgives
  subst hgives
  simp only [statusLayers, List.mem_cons, List.not_mem_nil, or_false] at hlayer
  rcases hlayer with hvalue | henum | hdefault
  · obtain ⟨n, hn, hpair⟩ := Option.map_eq_some_iff.1 hvalue.symm
    have hstatus : n = d.status := congrArg Prod.fst hpair
    exact hstatus ▸ he.status v hv n hn
  · obtain ⟨n, hn, hpair⟩ := Option.map_eq_some_iff.1 henum.symm
    have hstatus : n = d.status := congrArg Prod.fst hpair
    exact hstatus ▸ he.defaultStatus n hn
  · have hstatus : d.status = fallback := congrArg Prod.fst (Option.some.inj hdefault)
    exact hstatus ▸ hfallback

/-- **Error contracts are exact**:

* an enum has a contract exactly if its codes differ, with a descriptor for each value in order, and
  otherwise fails at the first value whose code is taken, naming the first that has it;
* of the enums of a schema that describe errors, those whose codes differ become contracts and the
  others fail, in order, and no other enum does either;
* every status in the contracts of a loaded schema is an HTTP status, if the settings can be
  used. -/
theorem contracts_exact :
    (∀ (e : Enum) (fallback : Nat),
      ((∃ k, ErrorContract.ofEnum e fallback = .ok k) ↔ e.CodesDiffer) ∧
      (∀ k, ErrorContract.ofEnum e fallback = .ok k ↔ IsContract fallback e k) ∧
      ∀ issue, ErrorContract.ofEnum e fallback = .error issue ↔ IsClash e issue) ∧
    (∀ (s : Schema) (fallback : Nat),
      List.Forall₂ (IsContract fallback)
        (s.enums.filter fun e => decide (e.DescribesErrors ∧ e.CodesDiffer))
        (successes (ErrorContract.attempts s.enums fallback)) ∧
      List.Forall₂ IsClash
        (s.enums.filter fun e => decide (e.DescribesErrors ∧ ¬ e.CodesDiffer))
        (failures (ErrorContract.attempts s.enums fallback))) ∧
    ∀ (d : Document) (s : Schema) (c : Settings), Schema.load d = .ok s → c.fault? = none →
      ∀ k ∈ successes (ErrorContract.attempts s.enums c.fallbackStatus), ∀ x ∈ k.values,
        100 ≤ x.status ∧ x.status ≤ 599 := by
  refine ⟨?_, ?_, ?_⟩
  · intro e fallback
    exact ⟨exists_ofEnum_eq_ok_iff, fun k => ofEnum_eq_ok_iff, fun issue => ofEnum_eq_error_iff⟩
  · intro s fallback
    exact ⟨forall₂_contracts s.enums fallback, forall₂_clashes s.enums fallback⟩
  · intro d s c hload hc k hk x hx
    obtain ⟨e, he, hcontract⟩ :=
      exists_of_forall₂_of_mem (forall₂_contracts s.enums c.fallbackStatus) hk
    obtain ⟨v, hv, hdescribes⟩ := exists_of_forall₂_of_mem hcontract.values hx
    have hgives : GivesHttp e := givesHttp_of_load hload (List.mem_of_mem_filter he)
    exact isHttp_of_describes hgives (isHttp_fallbackStatus hc) hv hdescribes

/-- A document with an enum of data, an enum whose statuses come from everywhere, one whose codes
are taken twice, and one that describes errors by a message alone. -/
def harbour : Document where
  package := "harbour"
  enums := [
    { name := "Side", values := [{ name := "PORT", number := 1 }, { name := "BOW", number := 1 }] },
    { name := "Berth"
      extensions := [("default_status", .number (.int 599))]
      values := [
        { name := "TAKEN", number := 7, extensions := [("status", .text " 100 ")] },
        { name := "CLOSED", number := -7, extensions := [("reason", .text "")] }] },
    { name := "Crane"
      extensions := [("default_status", .number (.int 503))]
      values := [{ name := "BUSY", number := 1 }, { name := "LOCKED", number := 2 },
        { name := "STUCK", number := 1 }, { name := "SHUT", number := 2 },
        { name := "WAITS", number := 1 }] },
    { name := "Tide"
      values := [{ name := "LOW", number := 3, extensions := [("message", .text "wait")] }] }]

theorem contracts_exact_harbour :
    ∃ s, Schema.load harbour = .ok s ∧ Settings.fault? { fallbackStatus := 404 } = none ∧
      (successes (ErrorContract.attempts s.enums 404)).map
          (fun k => (k.enumName, k.values.map fun x => (x.code, x.status, x.reason))) =
        [("Berth", [(7, 100, "TAKEN"), (-7, 599, "CLOSED")]), ("Tide", [(3, 404, "LOW")])] ∧
      failures (ErrorContract.attempts s.enums 404) =
        [⟨[⟨.enum, "Crane"⟩, ⟨.value, "STUCK"⟩], .codeTaken 1 "BUSY"⟩] ∧
      (∀ k ∈ successes (ErrorContract.attempts s.enums 404), ∀ x ∈ k.values,
        100 ≤ x.status ∧ x.status ≤ 599) := by
  refine ⟨_, rfl, rfl, rfl, rfl, ?_⟩
  exact contracts_exact.2.2 harbour _ { fallbackStatus := 404 } rfl rfl

end Failure

end ServiceContract
