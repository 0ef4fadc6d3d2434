import ServiceContract.Proofs.WellFormed

/-!
# Issues element by element

What is wrong with a document is what is wrong with its declared names, then with each service,
each message and each enum. An element is looked at by itself: its issues lie inside it and depend
on the other elements only through the names of the types.

* `Noted.Inside`: issues that lie inside a place.
* `Names.Alike`: names that nothing can tell apart when references are resolved.
* `Composed`: the issues of a document, put together from those of its elements.
* `load_composed`: the issues of every document that has no schema are.
-/

namespace ServiceContract

/-! ## Issues inside a place -/

namespace Noted

variable {α β : Type} {place : Place}

/-- **Every issue lies inside a place**, or at it. -/
def Inside (place : Place) (x : Noted α) : Prop := ∀ i ∈ x.issues, place <+: i.place

theorem Inside.outer {x : Noted α} {role : Place.Role} {name : String}
    (h : x.Inside (place.inside role name)) : x.Inside place :=
  fun i hi => (List.prefix_append _ _).trans (h i hi)

theorem inside_pure (a : α) : (pure a : Noted α).Inside place := by
  rintro i ⟨⟩

theorem inside_report {issues : List Issue} (h : ∀ i ∈ issues, place <+: i.place) :
    (report issues).Inside place := h

theorem inside_bind {x : Noted α} {f : α → Noted β} (hx : x.Inside place)
    (hf : ∀ a, (f a).Inside place) : (x >>= f).Inside place := by
  intro i hi
  rw [issues_bind, List.mem_append] at hi
  exact hi.elim (hx i) (hf _ i)

theorem inside_map {x : Noted α} (g : α → β) (h : x.Inside place) : (g <$> x).Inside place := by
  intro i hi
  rw [issues_map] at hi
  exact h i hi

theorem inside_note (cause : Cause) : (note place cause).Inside place := by
  apply inside_report
  intro i hi
  obtain rfl := List.mem_singleton.1 hi
  exact List.prefix_refl _

theorem inside_attempt (x : Except Cause α) : (attempt place x).Inside place := by
  cases x with
  | ok a => exact inside_pure (some a)
  | error cause => exact inside_note cause

theorem inside_keep {as : List α} {f : α → Noted (Option β)} (h : ∀ a, (f a).Inside place) :
    (keep as f).Inside place := by
  intro i hi
  rw [issues_keep] at hi
  obtain ⟨a, -, ha⟩ := List.mem_flatMap.1 hi
  exact h a i ha

end Noted

open Noted

namespace Extension

variable {α : Type} (xs : Document.Extensions) (place : Place)

theorem inside_misplaced (element : Element) :
    (report (misplaced element xs place)).Inside place := by
  apply inside_report
  intro i hi
  obtain ⟨⟨name, v⟩, -, hname⟩ := List.mem_filterMap.1 hi
  simp only at hname
  split at hname
  · cases hname
  · split at hname
    · cases hname
    · cases hname
      exact List.prefix_append _ _

theorem inside_interpret (x : Extension) (decode : String → Json → Except Cause α) :
    (x.interpret decode xs place).Inside place := by
  unfold interpret interpretNamed
  split
  · exact inside_pure none
  · exact (inside_attempt _).outer

end Extension

namespace Schema

open Extension (inside_misplaced inside_interpret)

variable {n n' : Names} (place : Place)

theorem inside_orNote {α : Type} (found : Option α) (cause : Cause) :
    (orNote found place cause).Inside place := by
  cases found with
  | some a => exact inside_pure (some a)
  | none => exact inside_bind (inside_note cause) fun _ => inside_pure none

theorem inside_options (entries : List OptionEntry) : (options place entries).Inside place :=
  inside_keep fun _ => inside_attempt _

theorem inside_loadMethod (m : Document.Method) :
    (loadMethod n place m).Inside (place.inside .method m.name) := by
  unfold loadMethod
  refine inside_bind (inside_misplaced _ _ _) fun _ => ?_
  refine inside_bind (inside_orNote _ _ _) fun request => ?_
  refine inside_bind (inside_orNote _ _ _) fun response => ?_
  refine inside_bind (inside_interpret _ _ _ _) fun http => ?_
  refine inside_bind (inside_interpret _ _ _ _) fun entries => ?_
  exact inside_bind (inside_options _ _).outer fun options => inside_pure _

theorem inside_loadService (v : Document.Service) :
    (loadService n v).Inside (.service v.name) := by
  unfold loadService
  refine inside_bind (inside_misplaced _ _ _) fun _ => ?_
  refine inside_bind (inside_keep fun p => ?_) fun methods => inside_pure _
  simp only
  split
  · exact (inside_attempt _).outer
  · exact (inside_loadMethod _ _).outer

theorem inside_loadDefaults (xs : Document.Extensions) : (loadDefaults xs place).Inside place :=
  inside_bind (inside_interpret _ _ _ _) fun _ =>
    inside_bind (inside_interpret _ _ _ _) fun _ => inside_pure _

theorem inside_loadOneof (o : Document.Oneof) : (loadOneof place o).Inside place :=
  inside_bind (inside_misplaced _ _ _) fun _ =>
    inside_bind (inside_loadDefaults _ _) fun _ => inside_pure _

theorem inside_loadField (f : Document.Field) : (loadField n place f).Inside place := by
  unfold loadField
  refine inside_bind (inside_misplaced _ _ _) fun _ => ?_
  refine inside_bind (inside_attempt _) fun repeated => ?_
  refine inside_bind (inside_attempt _) fun kind => ?_
  cases kind with
  | none => exact inside_pure none
  | some kind =>
    refine inside_bind (inside_interpret _ _ _ _) fun location => ?_
    refine inside_bind (inside_interpret _ _ _ _) fun tag => ?_
    exact inside_bind (inside_interpret _ _ _ _) fun autoTags => inside_pure _

theorem inside_undeclaredOneof (m : Document.Message) (f : Document.Field) :
    (report (undeclaredOneof m place f)).Inside place := by
  apply inside_report
  intro i hi
  unfold undeclaredOneof at hi
  split at hi
  · cases hi
  · split at hi
    · cases hi
    · obtain rfl := List.mem_singleton.1 hi
      exact List.prefix_refl _

theorem inside_loadMessage (m : Document.Message) :
    (loadMessage n m).Inside (.message m.name) := by
  unfold loadMessage
  refine inside_bind (inside_misplaced _ _ _) fun _ => ?_
  refine inside_bind (inside_loadDefaults _ _) fun defaults => ?_
  refine inside_bind (inside_keep fun p => ?_) fun oneofs => ?_
  -- a group that cannot stand is reported at its own place, and so is a field below
  · simp only
    split
    · exact (inside_attempt _).outer
    · exact (inside_map _ (inside_loadOneof _ _)).outer
  refine inside_bind (inside_keep fun p => ?_) fun fields => inside_pure _
  simp only
  split
  · exact (inside_attempt _).outer
  · exact (inside_bind (inside_undeclaredOneof _ _ _) fun _ => inside_loadField _ _).outer

theorem inside_loadEnumValue (v : Document.EnumValue) : (loadEnumValue place v).Inside place := by
  unfold loadEnumValue
  refine inside_bind (inside_misplaced _ _ _) fun _ => ?_
  refine inside_bind (inside_interpret _ _ _ _) fun status => ?_
  refine inside_bind (inside_interpret _ _ _ _) fun reason => ?_
  exact inside_bind (inside_interpret _ _ _ _) fun message => inside_pure _

theorem inside_loadEnum (e : Document.Enum) : (loadEnum e).Inside (.enum e.name) := by
  unfold loadEnum
  refine inside_bind (inside_misplaced _ _ _) fun _ => ?_
  refine inside_bind (inside_interpret _ _ _ _) fun status => ?_
  refine inside_bind (inside_keep fun p => ?_) fun values => inside_pure _
  simp only
  split
  · exact (inside_attempt _).outer
  · exact (inside_map _ (inside_loadEnumValue _ _)).outer

/-! ## Names that are alike -/

/-- **Names with the same package and the same names among messages and among enums**, in whatever
order and however often. -/
structure Names.Alike (n n' : Names) : Prop where
  package : n'.package = n.package
  messages : ∀ name, name ∈ n'.messages ↔ name ∈ n.messages
  enums : ∀ name, name ∈ n'.enums ↔ name ∈ n.enums

theorem contains_eq_of_mem_iff {names names' : List String}
    (h : ∀ name, name ∈ names' ↔ name ∈ names) : names'.contains = names.contains := by
  funext name
  rw [Bool.eq_iff_iff, List.contains_iff_mem, List.contains_iff_mem, h]

theorem Names.Alike.message?_eq (h : n.Alike n') : n'.message? = n.message? := by
  funext reference
  unfold Names.message? Names.candidates
  rw [h.package, contains_eq_of_mem_iff h.messages]

theorem Names.Alike.enum?_eq (h : n.Alike n') : n'.enum? = n.enum? := by
  funext reference
  unfold Names.enum? Names.candidates
  rw [h.package, contains_eq_of_mem_iff h.enums]

theorem Names.Alike.type?_eq (h : n.Alike n') : n'.type? = n.type? := by
  funext reference
  unfold Names.type?
  rw [h.message?_eq, h.enum?_eq]

/-- **A service sees of the other elements only the names of messages.** -/
theorem loadService_alike (h : n.Alike n') (v : Document.Service) :
    loadService n' v = loadService n v := by
  unfold loadService loadMethod
  rw [h.message?_eq]

/-- **A message sees of the other elements only the names of types.** -/
theorem loadMessage_alike (h : n.Alike n') (m : Document.Message) :
    loadMessage n' m = loadMessage n m := by
  unfold loadMessage loadField fieldKind
  rw [h.type?_eq]

/-! ## Names that are declared again -/

/-- **The names of a list that an earlier one has or that are taken already**, in order and once
for each time. -/
def declaredAgain (taken names : List String) : List String :=
  ((List.finRange names.length).filter fun i =>
    (∃ j < i, names[j] = names[i]) ∨ names[i] ∈ taken).map fun i => names[i]

theorem mem_take_iff (names : List String) (i : Fin names.length) :
    names[i] ∈ names.take i ↔ ∃ j < i, names[j] = names[i] := by
  rw [List.mem_take_iff_getElem]
  constructor
  · rintro ⟨j, hj, heq⟩
    exact ⟨⟨j, by omega⟩, Fin.lt_def.2 (by simp only; omega), heq⟩
  · rintro ⟨j, hj, heq⟩
    exact ⟨j, by omega, heq⟩

theorem declaredAgain_eq (taken names : List String) :
    declaredAgain taken names = (withBefore names).filterMap fun p =>
      if p.1.any (· == p.2) || taken.any (· == p.2) then some p.2 else none := by
  unfold declaredAgain
  rw [withBefore_eq, List.filterMap_map, ← List.filterMap_eq_map, List.filterMap_filter]
  apply List.filterMap_congr
  intro i _
  simp only [Function.comp_apply, List.any_beq', Bool.or_eq_true, decide_eq_true_eq,
    List.contains_iff_mem, mem_take_iff]

/-- Repeats are seen in the names alone. -/
theorem repeatedNames_eq (d : Document) :
    repeatedNames d =
      ((declaredAgain [] (d.messages.map (·.name))).map fun name =>
        ⟨.message name, .messageRepeated⟩) ++
      (declaredAgain (d.messages.map (·.name)) (d.enums.map (·.name))).map fun name =>
        ⟨.enum name, .typeNameRepeated⟩ := by
  unfold repeatedNames
  rw [declaredAgain_eq, declaredAgain_eq]
  congr 1
  · unfold repeats
    rw [withBefore_map, List.map_filterMap, List.map_filterMap, List.filterMap_map]
    apply List.filterMap_congr
    rintro ⟨before, m⟩ _
    simp only [Function.comp_def, List.any_map, Option.map_map, List.any_nil, Bool.or_false]
    -- the issue does not say which message had the name first, only that one had it
    cases hfind : before.find? (·.name == m.name) with
    | none =>
      have hany : before.any (·.name == m.name) = false :=
        List.any_eq_false.2 (List.find?_eq_none.1 hfind)
      rw [hany]
      rfl
    | some first =>
      have hname : (first.name == m.name) = true := by simpa using List.find?_some hfind
      have hany : before.any (·.name == m.name) = true :=
        List.any_eq_true.2 ⟨first, List.mem_of_find?_eq_some hfind, hname⟩
      rw [hany]
      rfl
  · rw [withBefore_map, List.filterMap_map, List.map_filterMap]
    apply List.filterMap_congr
    rintro ⟨before, e⟩ _
    simp only [Function.comp_def, List.any_map]
    split <;> rfl

/-! ## Documents -/

/-- The issues that are given in place of a schema. -/
def reported (d : Document) : List Issue :=
  match load d with
  | .ok _ => []
  | .error issues => issues

/-- **The issues of names and elements in order**: messages declared again, enums declared again or
under the name of a message, and what is wrong with each service, each message and each enum. -/
def issuesOf (n : Names) (services : List Document.Service) (messages : List Document.Message)
    (enums : List Document.Enum) : List Issue :=
  ((declaredAgain [] n.messages).map fun name => ⟨.message name, .messageRepeated⟩) ++
  ((declaredAgain n.messages n.enums).map fun name => ⟨.enum name, .typeNameRepeated⟩) ++
  services.flatMap (fun v => (loadService n v).issues) ++
  messages.flatMap (fun m => (loadMessage n m).issues) ++
  enums.flatMap (fun e => (loadEnum e).issues)

/-- The issues of an element stand among others that are the same for each allowed element. -/
def Framed {α : Type} (allowed : α → Prop) (own whole : α → List Issue) : Prop :=
  ∃ before after, ∀ a, allowed a → whole a = before ++ own a ++ after

/-- **The issues of a document, put together from those of its elements.** -/
structure Composed (d : Document) (issues : List Issue) : Prop where
  parts : issues = issuesOf (.ofDocument d) d.services d.messages d.enums
  insideService : ∀ v ∈ d.services, (loadService (.ofDocument d) v).Inside (.service v.name)
  insideMessage : ∀ m ∈ d.messages, (loadMessage (.ofDocument d) m).Inside (.message m.name)
  insideEnum : ∀ e ∈ d.enums, (loadEnum e).Inside (.enum e.name)
  /-- An element sees of the others the package and which names are declared. -/
  alike : ∀ n, (Names.ofDocument d).Alike n →
    (∀ v, (loadService n v).issues = (loadService (.ofDocument d) v).issues) ∧
      ∀ m, (loadMessage n m).issues = (loadMessage (.ofDocument d) m).issues
  /-- Another service in the place of one changes the issues of that one. -/
  service : ∀ front v rest, d.services = front ++ v :: rest →
    Framed (·.name = v.name) (fun v' => (loadService (.ofDocument d) v').issues)
      fun v' => reported { d with services := front ++ v' :: rest }
  message : ∀ front m rest, d.messages = front ++ m :: rest →
    Framed (·.name = m.name) (fun m' => (loadMessage (.ofDocument d) m').issues)
      fun m' => reported { d with messages := front ++ m' :: rest }
  enum : ∀ front e rest, d.enums = front ++ e :: rest →
    Framed (·.name = e.name) (fun e' => (loadEnum e').issues)
      fun e' => reported { d with enums := front ++ e' :: rest }

variable {d : Document}

theorem reported_of_load {issues : List Issue} (h : load d = .error issues) :
    reported d = issues := by
  unfold reported
  rw [h]

theorem reported_eq_issuesOf (d : Document) :
    reported d = issuesOf (.ofDocument d) d.services d.messages d.enums := by
  have hinterpret : reported d = (interpret d).issues := by
    cases h : load d with
    | ok s =>
      unfold reported
      rw [h, (load_eq_ok_iff.1 h).1]
    | error issues => rw [reported_of_load h, (load_eq_error_iff.1 h).2]
  rw [hinterpret]
  unfold interpret issuesOf
  simp only [issues_bind, issues_report, issues_each, issues_pure, List.append_nil,
    repeatedNames_eq, List.append_assoc]
  rfl

/-! ## One element replaced -/

section

variable {α : Type} {allowed : α → Prop} {own whole whole' : α → List Issue}

theorem framed_flatMap (front rest : List α) :
    Framed allowed own fun a => (front ++ a :: rest).flatMap own := by
  refine ⟨front.flatMap own, rest.flatMap own, fun a _ => ?_⟩
  simp only [List.flatMap_append, List.flatMap_cons, List.append_assoc]

theorem Framed.append_left (h : Framed allowed own whole) (issues : List Issue) :
    Framed allowed own fun a => issues ++ whole a := by
  obtain ⟨before, after, hwhole⟩ := h
  refine ⟨issues ++ before, after, fun a ha => ?_⟩
  simp only [hwhole a ha, List.append_assoc]

theorem Framed.append_right (h : Framed allowed own whole) (issues : List Issue) :
    Framed allowed own fun a => whole a ++ issues := by
  obtain ⟨before, after, hwhole⟩ := h
  refine ⟨before, after ++ issues, fun a ha => ?_⟩
  simp only [hwhole a ha, List.append_assoc]

theorem Framed.congr (h : Framed allowed own whole) (heq : ∀ a, allowed a → whole' a = whole a) :
    Framed allowed own whole' := by
  obtain ⟨before, after, hwhole⟩ := h
  exact ⟨before, after, fun a ha => (heq a ha).trans (hwhole a ha)⟩

end

theorem framed_service (front rest : List Document.Service) (v : Document.Service) :
    Framed (·.name = v.name) (fun v' => (loadService (.ofDocument d) v').issues)
      fun v' => reported { d with services := front ++ v' :: rest } := by
  have hframed : Framed (·.name = v.name) (fun v' => (loadService (.ofDocument d) v').issues)
      fun v' => issuesOf (.ofDocument d) (front ++ v' :: rest) d.messages d.enums :=
    (((framed_flatMap front rest).append_left _).append_right _).append_right _
  exact hframed.congr fun _ _ => reported_eq_issuesOf _

/-- Another message of the same name leaves the declared names as they are. -/
theorem ofDocument_message {front rest : List Document.Message} {m m' : Document.Message}
    (h : d.messages = front ++ m :: rest) (hname : m'.name = m.name) :
    Names.ofDocument { d with messages := front ++ m' :: rest } = Names.ofDocument d := by
  simp only [Names.ofDocument, h, List.map_append, List.map_cons, hname]

theorem ofDocument_enum {front rest : List Document.Enum} {e e' : Document.Enum}
    (h : d.enums = front ++ e :: rest) (hname : e'.name = e.name) :
    Names.ofDocument { d with enums := front ++ e' :: rest } = Names.ofDocument d := by
  simp only [Names.ofDocument, h, List.map_append, List.map_cons, hname]

theorem framed_message {front rest : List Document.Message} {m : Document.Message}
    (h : d.messages = front ++ m :: rest) :
    Framed (·.name = m.name) (fun m' => (loadMessage (.ofDocument d) m').issues)
      fun m' => reported { d with messages := front ++ m' :: rest } := by
  have hframed : Framed (·.name = m.name) (fun m' => (loadMessage (.ofDocument d) m').issues)
      fun m' => issuesOf (.ofDocument d) d.services (front ++ m' :: rest) d.enums :=
    ((framed_flatMap front rest).append_left _).append_right _
  apply hframed.congr
  intro m' hname
  rw [reported_eq_issuesOf, ofDocument_message h hname]

theorem framed_enum {front rest : List Document.Enum} {e : Document.Enum}
    (h : d.enums = front ++ e :: rest) :
    Framed (·.name = e.name) (fun e' => (loadEnum e').issues)
      fun e' => reported { d with enums := front ++ e' :: rest } := by
  have hframed : Framed (·.name = e.name) (fun e' => (loadEnum e').issues)
      fun e' => issuesOf (.ofDocument d) d.services d.messages (front ++ e' :: rest) :=
    (framed_flatMap front rest).append_left _
  apply hframed.congr
  intro e' hname
  rw [reported_eq_issuesOf, ofDocument_enum h hname]

/-- **The issues of a document are those of its names and of its elements, one after the other.**
No element hides an issue of another or adds one to it. -/
theorem load_composed (d : Document) (issues : List Issue) (h : load d = .error issues) :
    Composed d issues where
  parts := by rw [← reported_of_load h, reported_eq_issuesOf]
  insideService v _ := inside_loadService v
  insideMessage m _ := inside_loadMessage m
  insideEnum e _ := inside_loadEnum e
  alike n hn := ⟨fun v => by rw [loadService_alike hn], fun m => by rw [loadMessage_alike hn]⟩
  service front v rest _ := framed_service front rest v
  message _ _ _ hm := framed_message hm
  enum _ _ _ he := framed_enum he

/-- A document with a type name that is declared three times and issues in every element. -/
def ledger : Document where
  package := "ledger"
  services := [{
    name := "Books"
    methods := [{ name := "Open", inputType := "Entry", outputType := "Missing" }] }]
  messages := [
    { name := "Entry", extensions := [("status", .text "404")] },
    { name := "Entry", fields := [{ name := "kind", number := 1, typeName := some "Nope" }] }]
  enums := [{
    name := "Entry"
    values := [{ name := "DEBIT", number := 1, extensions := [("location", .text "URI")] }] }]

theorem load_composed_ledger : ∃ issues, load ledger = .error issues ∧
    issues.map (·.place.text) = ["message:Entry", "enum:Entry", "service:Books/method:Open",
      "message:Entry/extension:status", "message:Entry/field:kind",
      "enum:Entry/value:DEBIT/extension:location"] ∧
    Composed ledger issues :=
  ⟨_, rfl, by decide, load_composed ledger _ rfl⟩

end Schema

end ServiceContract
