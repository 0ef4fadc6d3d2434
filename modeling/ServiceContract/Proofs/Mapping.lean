import Mathlib.Data.List.Forall2
import ServiceContract.Proofs.Extension
import ServiceContract.Proofs.Letters
import ServiceContract.Proofs.Noted
import ServiceContract.Schema.Mapping

/-!
# What HTTP mappings and options say

A mapping declares verbs, each with a path. It is sound if it declares one verb, a verb of its own
is a token, and a verb whose requests carry no body comes without one.

* `exists_rule_iff`: a mapping has a rule exactly when it is sound.
* `means_of_rule`: the rule is the declared verb with its path and the selected parts.
* `issues_options_eq_nil_iff`, `forall₂_options`: options are kept one for one when they have keys
  of their own and one value each.
-/

namespace ServiceContract.Schema

/-- The name of a verb: a token as HTTP has them. -/
def IsToken (s : String) : Prop := s ≠ "" ∧ ∀ c ∈ s.toList, isVerbChar c = true

theorem isVerbChar_toUpper (c : Char) : isVerbChar c.toUpper = isVerbChar c := by
  by_cases h : c.isLower = true
  · have hc : c.isAlphanum = true := Text.isAlphanum_iff.2 (.inr (.inl h))
    have hu : c.toUpper.isAlphanum = true := Text.isAlphanum_iff.2 (.inl (Text.isUpper_toUpper h))
    unfold isVerbChar
    rw [hc, hu, Bool.true_or, Bool.true_or]
  · rw [Text.toUpper_of_not_isLower h]

theorem isVerb_upper_iff {s : String} : isVerb (Text.upper s) = true ↔ IsToken s := by
  unfold isVerb IsToken Text.upper
  simp only [Bool.and_eq_true, Bool.not_eq_true', String.toList_ofList, List.all_map,
    List.all_eq_true, Function.comp_apply, isVerbChar_toUpper]
  apply and_congr_left
  intro _
  rw [← Bool.not_eq_true, String.isEmpty_iff, not_iff_not, ← String.toList_inj]
  simp

/-- The verbs whose requests carry no body. -/
def bodiless : List String := ["GET", "DELETE", "HEAD", "OPTIONS"]

theorem carriesBody_eq_false_iff {verb : String} : carriesBody verb = false ↔ verb ∈ bodiless := by
  unfold carriesBody bodiless
  rw [decide_eq_false_iff_not, not_not]

namespace HttpMapping

variable {m : HttpMapping} {r : HttpRule}

/-- A mapping declares a verb with a path. -/
inductive Declares (m : HttpMapping) : String → String → Prop
  | get {path : String} : m.get = some path → Declares m "GET" path
  | post {path : String} : m.post = some path → Declares m "POST" path
  | put {path : String} : m.put = some path → Declares m "PUT" path
  | delete {path : String} : m.delete = some path → Declares m "DELETE" path
  | patch {path : String} : m.patch = some path → Declares m "PATCH" path
  | custom {custom : CustomVerb} : m.custom = some custom →
      Declares m (Text.upper custom.kind) custom.path

/-- **A mapping that has a rule.** -/
structure Sound (m : HttpMapping) : Prop where
  token : ∀ custom, m.custom = some custom → IsToken custom.kind
  oneVerb : [m.get.isSome, m.post.isSome, m.put.isSome, m.delete.isSome, m.patch.isSome,
    m.custom.isSome].count true = 1
  noBody : ∀ verb path, m.Declares verb path → verb ∈ bodiless →
    ∀ body, m.body = some body → Text.trimmed body = ""

/-- **The rule of a mapping**: the one verb it declares, and the parts that it selects. -/
structure Means (m : HttpMapping) (r : HttpRule) : Prop where
  declares : m.Declares r.verb r.path
  only : ∀ verb path, m.Declares verb path → verb = r.verb ∧ path = r.path
  noBody : r.verb ∈ bodiless → r.body = .none
  body : r.verb ∉ bodiless → Text.trimmed (m.body.getD "") ∈ ["", "*"] ∧ r.body = .entire ∨
    ∃ name, name = Text.trimmed (m.body.getD "") ∧ name ≠ "" ∧ name ≠ "*" ∧ r.body = .field name
  response : Text.trimmed (m.responseBody.getD "") ∈ ["", "*"] ∧ r.response = .entire ∨
    ∃ name, name = Text.trimmed (m.responseBody.getD "") ∧ name ≠ "" ∧ name ≠ "*" ∧
      r.response = .field name

/-- The verbs that a mapping declares, in order, each with its path. -/
def declared (m : HttpMapping) : List (String × String) :=
  ([("GET", m.get), ("POST", m.post), ("PUT", m.put), ("DELETE", m.delete),
    ("PATCH", m.patch)].filterMap fun (verb, path?) => path?.map fun path => (verb, path)) ++
    (m.custom.map fun custom => (Text.upper custom.kind, custom.path)).toList

theorem mem_declared {verb path : String} : (verb, path) ∈ m.declared ↔ m.Declares verb path := by
  unfold declared
  simp only [List.mem_append, List.mem_filterMap, List.mem_cons, List.not_mem_nil, or_false,
    Option.mem_toList, Option.map_eq_some_iff, Prod.mk.injEq]
  constructor
  · rintro (⟨_, rfl | rfl | rfl | rfl | rfl, _, hp, rfl, rfl⟩ | ⟨_, hc, rfl, rfl⟩)
    · exact .get hp
    · exact .post hp
    · exact .put hp
    · exact .delete hp
    · exact .patch hp
    · exact .custom hc
  · rintro (hp | hp | hp | hp | hp | hc)
    · exact Or.inl ⟨_, Or.inl rfl, _, hp, rfl, rfl⟩
    · exact Or.inl ⟨_, Or.inr (Or.inl rfl), _, hp, rfl, rfl⟩
    · exact Or.inl ⟨_, Or.inr (Or.inr (Or.inl rfl)), _, hp, rfl, rfl⟩
    · exact Or.inl ⟨_, Or.inr (Or.inr (Or.inr (Or.inl rfl))), _, hp, rfl, rfl⟩
    · exact Or.inl ⟨_, Or.inr (Or.inr (Or.inr (Or.inr rfl))), _, hp, rfl, rfl⟩
    · exact Or.inr ⟨_, hc, rfl, rfl⟩

theorem length_declared : m.declared.length =
    [m.get.isSome, m.post.isSome, m.put.isSome, m.delete.isSome, m.patch.isSome,
      m.custom.isSome].count true := by
  obtain ⟨get, post, put, delete, patch, custom, -, -⟩ := m
  unfold declared
  cases get <;> cases post <;> cases put <;> cases delete <;> cases patch <;> cases custom <;> rfl

theorem verbs_eq_ok_iff {verbs : List (String × String)} :
    m.verbs = .ok verbs ↔
      (∀ custom, m.custom = some custom → IsToken custom.kind) ∧ verbs = m.declared := by
  unfold HttpMapping.verbs declared
  simp only
  cases m.custom with
  | none => simp [eq_comm]
  | some custom =>
    simp only [Option.some.injEq, forall_eq', ← isVerb_upper_iff]
    split
    · next hv => simp [hv, eq_comm]
    · next hv => simp [hv]

theorem bodySelector_ne_none (verb : String) (h : Text.trimmed (m.body.getD "") ≠ "") :
    m.bodySelector verb ≠ .none := by
  unfold bodySelector
  split
  · next heq => exact absurd heq h
  · exact nofun
  · exact nofun

theorem rule_eq_ok_iff {verb path : String} {body : BodySelector} {response : ResponseSelector} :
    m.rule = .ok ⟨verb, path, body, response⟩ ↔
      (∀ custom, m.custom = some custom → IsToken custom.kind) ∧
        m.declared = [(verb, path)] ∧ (verb ∈ bodiless → Text.trimmed (m.body.getD "") = "") ∧
        m.bodySelector verb = body ∧ m.responseSelector = response := by
  unfold rule
  rw [bind_eq_ok]
  constructor
  · rintro ⟨verbs, hverbs, h⟩
    obtain ⟨htoken, rfl⟩ := verbs_eq_ok_iff.1 hverbs
    split at h
    · next verb' path' hdecl =>
      simp only at h
      split at h
      · cases h
      · next hbody =>
        obtain ⟨rfl, rfl, hsel, hresp⟩ := HttpRule.mk.inj (Except.ok.inj h)
        refine ⟨htoken, hdecl, fun hv => ?_, hsel, hresp⟩
        -- a body that is not blank selects something, which the verb does not allow
        by_contra hne
        rw [← carriesBody_eq_false_iff] at hv
        exact hbody (by simpa [hv] using bodySelector_ne_none verb' hne)
    · cases h
  · rintro ⟨htoken, hdecl, hbody, rfl, rfl⟩
    refine ⟨m.declared, verbs_eq_ok_iff.2 ⟨htoken, rfl⟩, ?_⟩
    rw [hdecl]
    simp only
    rw [if_neg]
    · rfl
    · simp only [Bool.and_eq_true, Bool.not_eq_true', bne_iff_ne, ne_eq, not_and, not_not]
      intro hv
      unfold bodySelector
      rw [hbody (carriesBody_eq_false_iff.1 hv)]
      simp [hv]

theorem trimmed_empty : Text.trimmed "" = "" := rfl

/-- **A mapping has a rule exactly when it is sound.** -/
theorem exists_rule_iff : (∃ r, m.rule = .ok r) ↔ m.Sound := by
  constructor
  · rintro ⟨⟨verb, path, body, response⟩, hr⟩
    obtain ⟨htoken, hdecl, hbody, -, -⟩ := rule_eq_ok_iff.1 hr
    refine ⟨htoken, ?_, fun verb' path' hd hv text htext => ?_⟩
    · rw [← length_declared, hdecl]
      rfl
    · rw [← mem_declared, hdecl, List.mem_singleton] at hd
      cases hd
      simpa [htext] using hbody hv
  · rintro ⟨htoken, hone, hbody⟩
    rw [← length_declared, List.length_eq_one_iff] at hone
    obtain ⟨⟨verb, path⟩, hdecl⟩ := hone
    refine ⟨_, rule_eq_ok_iff.2 ⟨htoken, hdecl, fun hv => ?_, rfl, rfl⟩⟩
    -- the one verb that is declared decides whether a body may be there
    have hd : m.Declares verb path := by
      rw [← mem_declared, hdecl]
      exact List.mem_cons_self
    cases hb : m.body with
    | none => exact trimmed_empty
    | some text => exact hbody verb path hd hv text hb

/-- **The rule says what the mapping declares.** -/
theorem means_of_rule (h : m.rule = .ok r) : m.Means r := by
  obtain ⟨verb, path, body, response⟩ := r
  obtain ⟨-, hdecl, hbody, hsel, hresp⟩ := rule_eq_ok_iff.1 h
  refine ⟨?_, fun verb' path' hd => ?_, fun hv => ?_, fun hv => ?_, ?_⟩
  · rw [← mem_declared, hdecl]
    exact List.mem_cons_self
  · rw [← mem_declared, hdecl, List.mem_singleton] at hd
    exact Prod.mk.inj hd
  · subst hsel
    unfold bodySelector
    rw [hbody hv]
    simp [carriesBody_eq_false_iff.2 hv]
  · rw [← carriesBody_eq_false_iff, Bool.not_eq_false] at hv
    subst hsel
    unfold bodySelector
    split
    · next heq => simp [heq, hv]
    · next heq => simp [heq]
    · next h1 h2 => exact Or.inr ⟨_, rfl, h1, h2, rfl⟩
  · subst hresp
    unfold responseSelector
    split
    · next heq => simp [heq]
    · next heq => simp [heq]
    · next h1 h2 => exact Or.inr ⟨_, rfl, h1, h2, rfl⟩

end HttpMapping

namespace OptionEntry

variable {o : OptionEntry} {x : MethodOption} {before entries : List OptionEntry}

/-- An entry gives a value. -/
inductive Gives (o : OptionEntry) : OptionValue → Prop
  | flag {b : Bool} : o.flag = some b → Gives o (.flag b)
  | text {s : String} : o.text = some s → Gives o (.text s)
  | number {n : Binary64} : o.number = some n → Gives o (.number n)
  | map {m : List (String × String)} : o.map = some m → Gives o (.stringMap m)

/-- **Entries that are options**: each has a key that is not blank and no other has, and gives one
value. -/
structure Sound (entries : List OptionEntry) : Prop where
  keyed : ∀ o ∈ entries, ∃ c ∈ o.key.toList, Text.isBlank c = false
  distinct : (entries.map (·.key)).Nodup
  oneValue : ∀ o ∈ entries,
    [o.flag.isSome, o.text.isSome, o.number.isSome, o.map.isSome].count true = 1

/-- **The option of an entry**: its key, and the one value that it gives. -/
structure Means (o : OptionEntry) (x : MethodOption) : Prop where
  key : x.key = o.key
  gives : o.Gives x.value
  only : ∀ value, o.Gives value → value = x.value

theorem mem_values {value : OptionValue} : value ∈ o.values ↔ o.Gives value := by
  unfold values
  simp only [List.mem_append, Option.mem_toList, Option.map_eq_some_iff]
  constructor
  · rintro (((⟨b, hb, rfl⟩ | ⟨s, hs, rfl⟩) | ⟨n, hn, rfl⟩) | ⟨m, hm, rfl⟩)
    · exact .flag hb
    · exact .text hs
    · exact .number hn
    · exact .map hm
  · rintro (hb | hs | hn | hm)
    · exact Or.inl (Or.inl (Or.inl ⟨_, hb, rfl⟩))
    · exact Or.inl (Or.inl (Or.inr ⟨_, hs, rfl⟩))
    · exact Or.inl (Or.inr ⟨_, hn, rfl⟩)
    · exact Or.inr ⟨_, hm, rfl⟩

theorem length_values : o.values.length =
    [o.flag.isSome, o.text.isSome, o.number.isSome, o.map.isSome].count true := by
  obtain ⟨-, flag, text, number, map⟩ := o
  unfold values
  cases flag <;> cases text <;> cases number <;> cases map <;> rfl

theorem option_eq_ok_iff : o.option before = .ok x ↔
    before.any (·.key == o.key) = false ∧ (∃ c ∈ o.key.toList, Text.isBlank c = false) ∧
      o.values = [x.value] ∧ x.key = o.key := by
  have hblank : (∃ c ∈ o.key.toList, Text.isBlank c = false) ↔
      Text.isBlankText o.key = false := by
    unfold Text.isBlankText
    simp
  rw [hblank]
  unfold option
  split
  · next h => simp [h]
  · next h =>
    split
    · next h' => simp [h']
    · next h' =>
      simp only [Bool.not_eq_true] at h h'
      simp only [h, h', true_and]
      obtain ⟨key, value⟩ := x
      split
      · next v hv =>
        simp only [hv, Except.ok.injEq, MethodOption.mk.injEq, List.cons.injEq, and_true]
        exact ⟨fun ⟨hk, hv⟩ => ⟨hv, hk.symm⟩, fun ⟨hv, hk⟩ => ⟨hk.symm, hv⟩⟩
      · next hv =>
        simp only [reduceCtorEq, false_iff]
        exact fun hone => hv value hone.1

theorem exists_option_iff : (∃ x, o.option before = .ok x) ↔
    before.any (·.key == o.key) = false ∧ (∃ c ∈ o.key.toList, Text.isBlank c = false) ∧
      [o.flag.isSome, o.text.isSome, o.number.isSome, o.map.isSome].count true = 1 := by
  simp only [option_eq_ok_iff, ← length_values, List.length_eq_one_iff]
  constructor
  · rintro ⟨x, hfresh, hkey, hvalue, -⟩
    exact ⟨hfresh, hkey, _, hvalue⟩
  · rintro ⟨hfresh, hkey, value, hvalue⟩
    exact ⟨⟨o.key, value⟩, hfresh, hkey, hvalue, rfl⟩

theorem means_of_option (h : o.option before = .ok x) : o.Means x := by
  obtain ⟨-, -, hvalue, hkey⟩ := option_eq_ok_iff.1 h
  refine ⟨hkey, ?_, fun value hv => ?_⟩
  · rw [← mem_values, hvalue]
    exact List.mem_cons_self
  · rw [← mem_values, hvalue, List.mem_singleton] at hv
    exact hv

/-- **Options have no issue exactly when they are sound.** -/
theorem issues_options_eq_nil_iff {place : Place} :
    (options place entries).issues = [] ↔ Sound entries := by
  unfold options
  simp only [Noted.issues_keep_eq_nil_iff, Noted.issues_attempt_eq_nil_iff, exists_option_iff]
  rw [forall_withBefore_fresh (·.key) entries (P := fun o =>
    (∃ c ∈ o.key.toList, Text.isBlank c = false) ∧
      [o.flag.isSome, o.text.isSome, o.number.isSome, o.map.isSome].count true = 1)]
  constructor
  · rintro ⟨hdistinct, h⟩
    exact ⟨fun o ho => (h o ho).1, hdistinct, fun o ho => (h o ho).2⟩
  · rintro ⟨hkeyed, hdistinct, hone⟩
    exact ⟨hdistinct, fun o ho => ⟨hkeyed o ho, hone o ho⟩⟩

/-- **Sound options are kept one for one.** -/
theorem forall₂_options {place : Place} (h : Sound entries) :
    List.Forall₂ Means entries (options place entries).value := by
  have hok : (options place entries).issues = [] := issues_options_eq_nil_iff.2 h
  unfold options at hok ⊢
  rw [Noted.issues_keep_eq_nil_iff] at hok
  rw [← forall₂_withBefore_iff]
  apply Noted.forall₂_keep
  intro p hp
  obtain ⟨x, hx⟩ := Noted.issues_attempt_eq_nil_iff.1 (hok p hp)
  exact ⟨x, Noted.value_attempt_of_ok hx, means_of_option hx⟩

end OptionEntry

/-! ## In the values of extensions -/

section Values

variable {xs : Document.Extensions} {place : Place}

/-- A value that is an HTTP mapping. -/
def SaysMapping (v : Json) (m : HttpMapping) : Prop :=
  Json.readRecord HttpMapping.record v = .ok m

/-- A value that is a list of options. -/
def SaysEntries (v : Json) (entries : List OptionEntry) : Prop :=
  Json.readList (Json.readRecord OptionEntry.record) v = .ok entries

/-- A value that has an HTTP rule. -/
def SaysRule (v : Json) (r : HttpRule) : Prop := ∃ m, SaysMapping v m ∧ m.rule = .ok r

theorem decodes_httpRule : Extension.Decodes decodeHttpRule SaysRule := by
  intro name v r
  unfold decodeHttpRule decodeHttpMapping Extension.decode SaysRule SaysMapping
  simp only [bind_eq_ok, mapError_eq_ok]

theorem decodes_optionEntries : Extension.Decodes decodeOptionEntries SaysEntries := by
  intro name v entries
  unfold decodeOptionEntries Extension.decode SaysEntries
  rw [mapError_eq_ok]

/-- An HTTP rule is read without issue from a sound mapping. -/
theorem issues_http_eq_nil_iff :
    (Extension.http.interpret decodeHttpRule xs place).issues = [] ↔
      Extension.http.Readable (fun v m => SaysMapping v m ∧ m.Sound) xs := by
  rw [Extension.issues_interpret_eq_nil_iff decodes_httpRule]
  apply forall₂_congr
  intro v _
  simp only [← HttpMapping.exists_rule_iff, SaysRule]
  constructor
  · rintro ⟨r, m, hm, hr⟩
    exact ⟨m, hm, r, hr⟩
  · rintro ⟨m, hm, r, hr⟩
    exact ⟨r, m, hm, hr⟩

/-- Options are read without issue from sound entries. -/
theorem issues_extra_eq_nil_iff {inner : Place} :
    ((Extension.extra.interpret decodeOptionEntries xs place).issues = [] ∧
      (options inner ((Extension.extra.interpret decodeOptionEntries xs place).value.getD
        [])).issues = []) ↔
      Extension.extra.Readable (fun v es => SaysEntries v es ∧ OptionEntry.Sound es) xs := by
  rw [OptionEntry.issues_options_eq_nil_iff]
  constructor
  · rintro ⟨hissues, hsound⟩ v hv
    rcases Extension.value_interpret_of_issues hissues with ⟨hnone, -⟩ | ⟨v', es, hv', hes, hvalue⟩
    · rw [hnone] at hv
      cases hv
    · rw [hv'] at hv
      cases hv
      rw [hvalue] at hsound
      exact ⟨es, (decodes_optionEntries _ _ _).1 hes, hsound⟩
  · intro h
    have hissues : (Extension.extra.interpret decodeOptionEntries xs place).issues = [] :=
      (Extension.issues_interpret_eq_nil_iff decodes_optionEntries).2
        fun v hv => (h v hv).imp fun es hes => hes.1
    refine ⟨hissues, ?_⟩
    rcases Extension.value_interpret_of_issues hissues with ⟨-, hvalue⟩ | ⟨v, es, hv, hes, hvalue⟩
    · rw [hvalue]
      exact ⟨nofun, .nil, nofun⟩
    · obtain ⟨es', hes', hsound⟩ := h v hv
      have heq : decodeOptionEntries Extension.extra.name v = .ok es' :=
        (decodes_optionEntries _ _ _).2 hes'
      rw [hes] at heq
      cases heq
      rw [hvalue]
      exact hsound

end Values

end ServiceContract.Schema
