import Mathlib.Data.List.Nodup
import ServiceContract.Proofs.Names

/-!
# Spellings of a name

A declared type can be referred to by its name alone or with the package before it, and either
with a leading dot. Declared names are compared as they are written, so that a name may be declared
both with the package and without it; the spellings of a reference then lead to different types.

* `lookup_of_bare_eq`, `lookup_of_bare_eq_qualify`: what each spelling leads to.
* `spellings_agree_iff`: the declared names for which all spellings lead to the same.
* `spellings_differ`: a document whose spellings lead to different messages.
-/

namespace ServiceContract.Schema.Names

/-- A name with the package before it. -/
def qualify (package x : String) : String := package ++ "." ++ x

/-- **The spellings of a name**: alone or with the package, and either with a leading dot. -/
def spellings (package x : String) : List String :=
  [x, "." ++ x, qualify package x, "." ++ qualify package x]

/-- A name without the package before it. -/
def unqualify (package x : String) : String :=
  ((Text.after? (package.toList ++ ['.']) x.toList).map String.ofList).getD x

/-- **All spellings of a name lead to the same among declared names**: the name is declared with
the package or without it but not both, no spelling with a leading dot is declared, and the name
with the package twice is not declared in its place. -/
structure OneMeaning (package : String) (declared : List String) (x : String) : Prop where
  once : ¬ (x ∈ declared ∧ qualify package x ∈ declared)
  dotted : "." ++ x ∉ declared
  dottedQualified : "." ++ qualify package x ∉ declared
  nested : qualify package (qualify package x) ∈ declared →
    x ∈ declared ∨ qualify package x ∈ declared

/-- A package that is given and does not start with a dot. -/
structure PlainPackage (package : String) : Prop where
  ne_empty : package ≠ ""
  head : package.toList.head? ≠ some '.'

/-- What a reference leads to among declared names. -/
def lookup (n : Names) (declared : List String) (r : String) : Option String :=
  (n.candidates r).find? declared.contains

variable {n : Names} {declared : List String} {r x : String}

/-! ## What each spelling leads to -/

theorem bare_of_head? (h : r.toList.head? ≠ some '.') : bare r = r := by
  unfold bare
  rw [← String.toList_inj, String.toList_ofList]
  cases hr : r.toList with
  | nil => rfl
  | cons c cs =>
    rw [hr] at h
    exact List.dropWhile_cons_of_neg (by simpa using h)

theorem bare_dot : bare ("." ++ r) = bare r := by
  unfold bare
  rw [String.toList_append]
  rfl

theorem bare_of_not_mem (hx : '.' ∉ x.toList) : bare x = x :=
  bare_of_head? fun h => hx (List.mem_of_head? h)

theorem toList_qualify (package x : String) :
    (qualify package x).toList = package.toList ++ ['.'] ++ x.toList := by
  unfold qualify
  rw [String.toList_append, String.toList_append]
  rfl

theorem bare_qualify (hp : PlainPackage n.package) :
    bare (qualify n.package x) = qualify n.package x := by
  apply bare_of_head?
  have hne : n.package.toList ≠ [] := fun h => hp.ne_empty (String.toList_inj.1 h)
  rw [toList_qualify, List.append_assoc, List.head?_append_of_ne_nil _ hne]
  exact hp.head

/-- The candidates of a reference, if there is a package. -/
theorem candidates_of_package (hp : n.package ≠ "") :
    n.candidates r = [r, bare r] ++
      (Text.after? (n.package.toList ++ ['.']) (bare r).toList).toList.map String.ofList ++
        [qualify n.package (bare r)] := by
  have hp : n.package.isEmpty = false := by simpa using hp
  unfold candidates bare qualify
  simp only [hp, Bool.false_eq_true, if_false, String.toList_ofList, List.append_assoc]

theorem find?_contains_cons (declared : List String) (a : String) (as : List String) :
    (a :: as).find? declared.contains =
      if a ∈ declared then some a else as.find? declared.contains := by
  rw [List.find?_cons, List.contains_eq_mem]
  by_cases h : a ∈ declared <;> simp [h]

/-- A name without dots is without the package. -/
theorem after?_of_not_mem (hx : '.' ∉ x.toList) {package : List Char} :
    Text.after? (package ++ ['.']) x.toList = none := by
  rw [Option.eq_none_iff_forall_ne_some]
  intro rest hrest
  rw [Text.after?_eq_some_iff] at hrest
  apply hx
  rw [hrest]
  simp

/-- A spelling of a name without the package. -/
theorem lookup_of_bare_eq (hp : PlainPackage n.package) (hx : '.' ∉ x.toList)
    (hr : bare r = x) :
    n.lookup declared r =
      if r ∈ declared then some r
      else if x ∈ declared then some x
      else if qualify n.package x ∈ declared then some (qualify n.package x)
      else none := by
  unfold lookup
  rw [candidates_of_package hp.ne_empty, hr, after?_of_not_mem hx]
  simp only [Option.toList_none, List.map_nil, List.append_nil, List.cons_append, List.nil_append,
    find?_contains_cons, List.find?_nil]

/-- A spelling of a name with the package. -/
theorem lookup_of_bare_eq_qualify (hp : PlainPackage n.package)
    (hr : bare r = qualify n.package x) :
    n.lookup declared r =
      if r ∈ declared then some r
      else if qualify n.package x ∈ declared then some (qualify n.package x)
      else if x ∈ declared then some x
      else if qualify n.package (qualify n.package x) ∈ declared then
        some (qualify n.package (qualify n.package x))
      else none := by
  have hafter : Text.after? (n.package.toList ++ ['.']) (qualify n.package x).toList =
      some x.toList := Text.after?_eq_some_iff.2 (toList_qualify _ _)
  unfold lookup
  rw [candidates_of_package hp.ne_empty, hr, hafter]
  simp only [Option.toList_some, List.map_cons, List.map_nil, String.ofList_toList,
    List.cons_append, List.nil_append, find?_contains_cons, List.find?_nil]

/-! ## When all spellings lead to the same -/

/-- A name alone. -/
theorem lookup_of_not_mem (hp : PlainPackage n.package) (hx : '.' ∉ x.toList) :
    n.lookup declared x =
      if x ∈ declared then some x
      else if qualify n.package x ∈ declared then some (qualify n.package x)
      else none := by
  rw [lookup_of_bare_eq hp hx (bare_of_not_mem hx)]
  by_cases hmem : x ∈ declared
  · rw [if_pos hmem, if_pos hmem]
  · rw [if_neg hmem, if_neg hmem]

theorem lookup_eq_none_iff (hp : PlainPackage n.package) (hx : '.' ∉ x.toList) :
    n.lookup declared x = none ↔ ¬ (x ∈ declared ∨ qualify n.package x ∈ declared) := by
  rw [lookup_of_not_mem hp hx]
  by_cases hmem : x ∈ declared
  · simp [hmem]
  · simp [hmem]

/-- A name alone leads to itself, with the package or without. -/
theorem eq_of_lookup_eq_some (hp : PlainPackage n.package) (hx : '.' ∉ x.toList) {y : String}
    (h : n.lookup declared x = some y) : y = x ∨ y = qualify n.package x := by
  rw [lookup_of_not_mem hp hx] at h
  by_cases hmem : x ∈ declared
  · rw [if_pos hmem] at h
    exact .inl (Option.some.inj h).symm
  · rw [if_neg hmem, Option.ite_none_right_eq_some] at h
    exact .inr (Option.some.inj h.2).symm

/-- The spellings of a name differ, since they have different lengths. -/
theorem spellings_ne (hp : PlainPackage n.package) :
    qualify n.package x ≠ x ∧ "." ++ x ≠ x ∧ "." ++ x ≠ qualify n.package x ∧
      "." ++ qualify n.package x ≠ x ∧ "." ++ qualify n.package x ≠ qualify n.package x := by
  have hne {a b : String} (h : a.length ≠ b.length) : a ≠ b := fun hab => h (hab ▸ rfl)
  have hdot (a : String) : ("." ++ a).length = 1 + a.length := String.length_append _ _
  have hqualify : (qualify n.package x).length = n.package.length + 1 + x.length := by
    unfold qualify
    rw [String.length_append, String.length_append]
    rfl
  have hpackage : n.package.length ≠ 0 := by simpa using hp.ne_empty
  refine ⟨hne ?_, hne ?_, hne ?_, hne ?_, hne ?_⟩ <;> simp only [hdot, hqualify] <;> omega

/-- **All spellings of a name lead to the same exactly when it has one meaning.** -/
theorem lookup_agree_iff (hp : PlainPackage n.package) (hx : '.' ∉ x.toList) :
    (∀ r ∈ spellings n.package x, n.lookup declared r = n.lookup declared x) ↔
      OneMeaning n.package declared x := by
  obtain ⟨hq, hd, hdq, hb, hbq⟩ := spellings_ne (x := x) hp
  have halone : n.lookup declared x = _ := lookup_of_not_mem hp hx
  unfold spellings
  simp only [List.forall_mem_cons, List.not_mem_nil, false_imp_iff, implies_true, and_true,
    true_and]
  rw [lookup_of_bare_eq hp hx (bare_dot.trans (bare_of_not_mem hx)),
    lookup_of_bare_eq_qualify hp (bare_qualify hp),
    lookup_of_bare_eq_qualify hp (bare_dot.trans (bare_qualify hp))]
  constructor
  · rintro ⟨hdotted, hqualified, hboth⟩
    refine ⟨fun ⟨hmem, hmem'⟩ => ?_, fun hmem => ?_, fun hmem => ?_, fun hmem => ?_⟩
    · simp [halone, hmem, hmem', hq] at hqualified
    -- a declared spelling with a leading dot leads to itself, and the name alone never does
    · rw [if_pos hmem] at hdotted
      obtain h | h := eq_of_lookup_eq_some hp hx hdotted.symm
      · exact hd h
      · exact hdq h
    · rw [if_pos hmem] at hboth
      obtain h | h := eq_of_lookup_eq_some hp hx hboth.symm
      · exact hb h
      · exact hbq h
    -- the package is put before a name that has it already, but only as the last candidate
    · by_contra hnone
      rw [not_or] at hnone
      simp [halone, hnone, hmem] at hqualified
  · rintro ⟨honce, hdotted, hboth, hnested⟩
    rw [if_neg hdotted, if_neg hboth, halone]
    by_cases hmem : x ∈ declared
    · have hmem' : qualify n.package x ∉ declared := fun h => honce ⟨hmem, h⟩
      simp [hmem, hmem']
    · by_cases hmem' : qualify n.package x ∈ declared
      · simp [hmem, hmem']
      · have hnested : qualify n.package (qualify n.package x) ∉ declared := by tauto
        simp [hmem, hmem', hnested]

/-- Kinds agree when messages do, and enums too where there is no message. -/
theorem type?_eq_type?_iff {r' : String} :
    n.type? r = n.type? r' ↔ n.message? r = n.message? r' ∧
      (n.message? r' = none → n.enum? r = n.enum? r') := by
  unfold type?
  cases n.message? r <;> cases n.message? r' <;> cases n.enum? r <;> cases n.enum? r' <;> simp

theorem type?_agree_iff (hp : PlainPackage n.package) (hx : '.' ∉ x.toList) :
    (∀ r ∈ spellings n.package x, n.type? r = n.type? x) ↔
      OneMeaning n.package n.messages x ∧
        (x ∈ n.messages ∨ qualify n.package x ∈ n.messages ∨ OneMeaning n.package n.enums x) := by
  have hnone : n.message? x = none ↔ ¬ (x ∈ n.messages ∨ qualify n.package x ∈ n.messages) :=
    lookup_eq_none_iff hp hx
  rw [← lookup_agree_iff hp hx, ← lookup_agree_iff hp hx, ← or_assoc]
  simp only [type?_eq_type?_iff]
  constructor
  · intro h
    refine ⟨fun r hr => (h r hr).1, ?_⟩
    by_cases hmem : x ∈ n.messages ∨ qualify n.package x ∈ n.messages
    · exact .inl hmem
    · exact .inr fun r hr => (h r hr).2 (hnone.2 hmem)
  · rintro ⟨hmessages, hmem | henums⟩ r hr
    · exact ⟨hmessages r hr, fun h => absurd hmem (hnone.1 h)⟩
    · exact ⟨hmessages r hr, fun _ => henums r hr⟩

/-! ## Plain names -/

/-- **Names that are declared plainly**: different without the package, without a leading dot, and
with the package at most once. -/
structure Plainly (package : String) (names : List String) : Prop where
  distinct : (names.map (unqualify package)).Nodup
  undotted : ∀ y ∈ names, y.toList.head? ≠ some '.'
  unnested : ∀ y ∈ names, unqualify package (unqualify package y) = unqualify package y

theorem unqualify_of_not_mem (hx : '.' ∉ x.toList) (package : String) :
    unqualify package x = x := by
  unfold unqualify
  rw [after?_of_not_mem hx]
  rfl

theorem unqualify_qualify (package x : String) : unqualify package (qualify package x) = x := by
  unfold unqualify
  rw [Text.after?_eq_some_iff.2 (toList_qualify package x)]
  exact String.ofList_toList

theorem head?_dot (a : String) : ("." ++ a).toList.head? = some '.' := by
  rw [String.toList_append]
  rfl

theorem Plainly.oneMeaning {names : List String} (h : Plainly n.package names)
    (hp : PlainPackage n.package) (hx : '.' ∉ x.toList) (hsub : declared ⊆ names) :
    OneMeaning n.package declared x where
  once := fun ⟨hmem, hmem'⟩ => (spellings_ne hp).1 <|
    List.inj_on_of_nodup_map h.distinct (hsub hmem') (hsub hmem) <| by
      rw [unqualify_qualify, unqualify_of_not_mem hx]
  dotted := fun hmem => h.undotted _ (hsub hmem) (head?_dot x)
  dottedQualified := fun hmem => h.undotted _ (hsub hmem) (head?_dot _)
  nested := fun hmem => by
    have hunnested := h.unnested _ (hsub hmem)
    rw [unqualify_qualify, unqualify_qualify] at hunnested
    exact absurd hunnested.symm (spellings_ne hp).1

/-- **When the spellings of a name agree.** As the type of a method, all spellings of a simple name
lead to the same message, or none does, exactly when the name has one meaning among the messages;
as the type of a field, when it also has one among the enums or is that of a message. So it is for
every simple name if types are declared plainly. -/
theorem spellings_agree_iff (d : Document) (hp : PlainPackage d.package) :
    let n := ofDocument d
    (∀ x, '.' ∉ x.toList →
      ((∀ r ∈ spellings d.package x, n.message? r = n.message? x) ↔
        OneMeaning d.package n.messages x) ∧
      ((∀ r ∈ spellings d.package x, n.type? r = n.type? x) ↔
        OneMeaning d.package n.messages x ∧
          (x ∈ n.messages ∨ qualify d.package x ∈ n.messages ∨
            OneMeaning d.package n.enums x))) ∧
    (Plainly d.package (n.messages ++ n.enums) → ∀ x, '.' ∉ x.toList →
      ∀ r ∈ spellings d.package x, n.message? r = n.message? x ∧ n.type? r = n.type? x) := by
  intro n
  have hp : PlainPackage n.package := hp
  refine ⟨fun x hx => ⟨lookup_agree_iff hp hx, type?_agree_iff hp hx⟩, fun h x hx r hr => ?_⟩
  have hmessages : OneMeaning n.package n.messages x :=
    h.oneMeaning hp hx (List.subset_append_left _ _)
  have henums : OneMeaning n.package n.enums x :=
    h.oneMeaning hp hx (List.subset_append_right _ _)
  exact ⟨(lookup_agree_iff hp hx).2 hmessages r hr,
    (type?_agree_iff hp hx).2 ⟨hmessages, .inr (.inr henums)⟩ r hr⟩

/-- A document whose messages and enums are declared plainly, with the package and without. -/
def diary : Document where
  package := "diary.v1"
  messages := [{ name := "Entry" }, { name := "diary.v1.Page" }]
  enums := [{ name := "Mood" }]

theorem spellings_agree_iff_diary :
    (∃ s, load diary = .ok s) ∧
    (ofDocument diary).type? "Page" = some (.message "diary.v1.Page") ∧
    ∀ r ∈ spellings "diary.v1" "Page",
      (ofDocument diary).message? r = (ofDocument diary).message? "Page" ∧
        (ofDocument diary).type? r = (ofDocument diary).type? "Page" :=
  ⟨⟨_, rfl⟩, rfl, (spellings_agree_iff diary ⟨by decide, by decide⟩).2
    ⟨by decide +kernel, by decide +kernel, by decide +kernel⟩ "Page" (by decide)⟩

/-- A document that declares a name with the package and without it. -/
def twins : Document where
  package := "demo.v1"
  services := [{
    name := "Directory"
    methods := [
      { name := "Find", inputType := "User", outputType := ".User" },
      { name := "Get", inputType := "demo.v1.User", outputType := ".demo.v1.User" }] }]
  messages := [
    { name := "User" },
    { name := "demo.v1.User", fields := [{ name := "id", number := 1, scalar := some "string" }] }]

/-- **The spellings of a name may lead to different messages.** -/
theorem spellings_differ : ∃ s, load twins = .ok s ∧
    s.messages.map (fun m => unqualify s.package m.name) = ["User", "User"] ∧
    (s.services.flatMap (·.methods)).map (fun m => (m.request, m.response)) =
      [("User", "User"), ("demo.v1.User", "demo.v1.User")] ∧
    (spellings "demo.v1" "User").map (ofDocument twins).type? =
      [some (.message "User"), some (.message "User"),
        some (.message "demo.v1.User"), some (.message "demo.v1.User")] :=
  ⟨_, rfl, rfl, rfl, rfl⟩

end ServiceContract.Schema.Names
