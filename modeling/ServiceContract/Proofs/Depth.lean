import ServiceContract.Proofs.Operation

/-!
# Nesting and its limit

The limit on nesting is looked at in the middle of reading a template, where a placeholder names a
field, and once more when the fields of a request are checked. Two runs under different limits go
through the same steps up to a reference that is too deep for the lower one. So a higher limit lifts
errors of that kind and changes nothing else, and the second look never finds anything.

* `AgreesUnless`: two computations with one result, unless the first fails with an excused error.
* `parse_agrees`, `build_agrees`: templates and operations under a lower and a higher limit.
* `atFirstLook_build`: the second look finds nothing.
* `depth_raised`: what a higher limit changes.
-/

namespace ServiceContract

/-! ## Two runs side by side -/

section Runs

variable {ε ε' α β : Type} {P : ε → Prop} {x y : Except ε α}

/-- **Two computations with one result**, unless the first fails with an error that is excused. -/
def AgreesUnless (P : ε → Prop) (x y : Except ε α) : Prop :=
  x = y ∨ ∃ e, x = .error e ∧ P e

theorem AgreesUnless.refl (x : Except ε α) : AgreesUnless P x x := .inl rfl

theorem AgreesUnless.error {e : ε} (h : P e) : AgreesUnless P (.error e) y := .inr ⟨e, rfl, h⟩

theorem AgreesUnless.bind {f g : α → Except ε β} (h : AgreesUnless P x y)
    (hf : ∀ a, x = .ok a → AgreesUnless P (f a) (g a)) : AgreesUnless P (x >>= f) (y >>= g) := by
  rcases h with rfl | ⟨e, rfl, he⟩
  · cases x with
    | error e => exact .refl _
    | ok a => exact hf a rfl
  · exact .error he

theorem AgreesUnless.map {f : α → β} (h : AgreesUnless P x y) :
    AgreesUnless P (f <$> x) (f <$> y) := by
  rcases h with rfl | ⟨e, rfl, he⟩
  · exact .refl _
  · exact .error he

theorem AgreesUnless.mapError {Q : ε' → Prop} {f : ε → ε'} (h : AgreesUnless P x y)
    (hf : ∀ e, P e → Q (f e)) : AgreesUnless Q (x.mapError f) (y.mapError f) := by
  rcases h with rfl | ⟨e, rfl, he⟩
  · exact .refl _
  · exact .error (hf e he)

/-- A loop agrees if each of its steps does. -/
theorem AgreesUnless.foldlM {f g : β → α → Except ε β}
    (hstep : ∀ b a, AgreesUnless P (f b a) (g b a)) (as : List α) (b : β) :
    AgreesUnless P (as.foldlM f b) (as.foldlM g b) := by
  induction as generalizing b with
  | nil => exact .refl _
  | cons a as ih =>
    rw [List.foldlM_cons, List.foldlM_cons]
    exact (hstep b a).bind fun b' _ => ih b'

/-- **What can be told of the second computation from the first.** -/
structure Lifts (P : ε → Prop) (x y : Except ε α) : Prop where
  ok : ∀ a, x = .ok a → y = .ok a
  error : ∀ e, x = .error e → ¬ P e → y = .error e
  excused : ∀ e, y = .error e → P e → ∃ e', x = .error e' ∧ P e'

theorem AgreesUnless.lifts (h : AgreesUnless P x y) : Lifts P x y := by
  rcases h with rfl | ⟨e, rfl, he⟩
  · exact ⟨fun _ ha => ha, fun _ he _ => he, fun e he hP => ⟨e, he, hP⟩⟩
  · refine ⟨?_, ?_, fun _ _ _ => ⟨e, rfl, he⟩⟩
    · intro a ha
      cases ha
    · intro e' he' hnot
      cases he'
      exact absurd he hnot

end Runs

/-! ## Templates -/

namespace Route

variable {d d' : Nat}

/-- A fault is about a reference that is too deep. -/
def Fault.IsDeep (f : Fault) : Prop := Cause.kindOfTemplate f = .schemaTooDeep

/-- The parts of a reference are compared with the limit after everything else about it. -/
theorem fieldPath_agrees (h : d ≤ d') (reference : List Char) :
    AgreesUnless Fault.IsDeep (fieldPath d reference) (fieldPath d' reference) := by
  unfold fieldPath
  split
  · exact .refl _
  · simp only
    split
    · exact .refl _
    · by_cases hdeep : d < (Text.pieces '.' reference).length
      · rw [if_pos hdeep]
        exact .error rfl
      · have hdeep' : ¬ d' < (Text.pieces '.' reference).length := by omega
        rw [if_neg hdeep, if_neg hdeep']
        exact .refl _

theorem addPlaceholder_agrees (h : d ≤ d') (p : Progress) (inner : List Char) :
    AgreesUnless Fault.IsDeep (p.addPlaceholder d inner) (p.addPlaceholder d' inner) := by
  unfold Progress.addPlaceholder
  exact (fieldPath_agrees h _).bind fun _ _ => .refl _

/-- One segment is added in the same way, unless it is a placeholder that is too deep. -/
theorem addSegment_agrees (h : d ≤ d') (p : Progress) (raw : List Char) :
    AgreesUnless Fault.IsDeep (p.addSegment d raw) (p.addSegment d' raw) := by
  unfold Progress.addSegment
  split
  · exact .refl _
  · split
    · exact .refl _
    · split
      · exact addPlaceholder_agrees h p _
      · exact .refl _

theorem parseChars_agrees (h : d ≤ d') (cs : List Char) :
    AgreesUnless Fault.IsDeep (parseChars d cs) (parseChars d' cs) := by
  unfold parseChars
  split
  · exact .refl _
  · exact (AgreesUnless.refl _).bind fun raws _ => .foldlM (addSegment_agrees h) raws {}
  · exact .refl _

/-- A template is refused for a reference that is too deep. -/
def TemplateError.IsDeep (e : TemplateError) : Prop := (Cause.template e).kind = .schemaTooDeep

/-- A template is refused for its depth or for what it says. -/
theorem TemplateError.not_isDeep_iff (e : TemplateError) :
    ¬ e.IsDeep ↔ (Cause.template e).kind = .invalidPathTemplate := by
  unfold IsDeep Cause.kind Cause.kindOfTemplate
  simp only
  split <;> simp

/-- **Templates under two limits.** -/
theorem parse_agrees (h : d ≤ d') (template : String) :
    AgreesUnless TemplateError.IsDeep (Template.parse template d) (Template.parse template d') := by
  unfold Template.parse
  rcases parseChars_agrees h template.toList with heq | ⟨f, hf, hdeep⟩
  · rw [heq]
    exact .refl _
  · rw [hf]
    exact .error hdeep

end Route

/-! ## Operations -/

namespace Operation

open Schema (HttpRule Message Method Service)

variable {s : Schema} {place : Place} {request : Message} {d d' : Nat}

/-- An issue is of a method whose path is too deep. -/
def IsDeep (i : Issue) : Prop := i.kind = .schemaTooDeep

theorem buildHttp_agrees (h : d ≤ d') (rule : HttpRule) :
    AgreesUnless IsDeep (buildHttp s place rule request d) (buildHttp s place rule request d') := by
  have hparse := Route.parse_agrees h rule.path
  unfold buildHttp
  refine AgreesUnless.bind (hparse.mapError fun _ he => he) fun t ht => ?_
  have ht := mapError_eq_ok.1 ht
  -- from here on neither run looks at its limit
  rw [forM_checkBinding ht le_rfl, forM_checkBinding ht h]
  exact .refl _

theorem buildMapped_agrees {c : Settings} (h : c.maxDepth ≤ d') (v : Service) (m : Method) :
    AgreesUnless IsDeep (buildMapped s v m c) (buildMapped s v m { c with maxDepth := d' }) := by
  unfold buildMapped
  refine (AgreesUnless.refl _).bind fun request _ => ?_
  refine (AgreesUnless.refl _).bind fun response _ => ?_
  refine AgreesUnless.bind ?_ fun http _ => .refl _
  cases m.http with
  | none => exact .refl _
  | some rule =>
    rw [Option.mapM_some, Option.mapM_some]
    exact (buildHttp_agrees h rule).map

/-- **Operations under two limits.** -/
theorem build_agrees {c : Settings} (h : c.maxDepth ≤ d') (v : Service) (m : Method) :
    AgreesUnless IsDeep (build s v m c) (build s v m { c with maxDepth := d' }) := by
  unfold build
  split
  · exact .refl _
  · exact (buildMapped_agrees h v m).map

/-! ## The second look -/

/-- An issue is not one of the second look at the depth of a path. -/
def AtFirstLook (i : Issue) : Prop := ∀ path max, i.cause ≠ .pathTooDeep path max

theorem Unbuildable.atFirstLook {i : Issue} (h : Unbuildable i) : AtFirstLook i := by
  intro path max hcause
  cases h with
  | unresolved h =>
    unfold Issue.kind at h
    rw [hcause] at h
    cases h
  | template place e => cases hcause
  | binding place e => cases hcause

theorem atFirstLook_build (v : Service) (m : Method) (c : Settings) :
    FailsOnly AtFirstLook (build s v m c) := by
  unfold build
  split
  · split
    · exact .ok none
    · refine .error fun path max hcause => ?_
      cases hcause
  · exact (unbuildable_buildMapped.imp fun _ => Unbuildable.atFirstLook).map

/-- **A higher limit lifts errors of depth and changes nothing else**:

* a template that is read, or refused for what it says, stays so under a higher limit;
* a method that has an operation, is skipped, or fails for anything but its depth, stays so under
  settings that differ only in a higher limit;
* the bindings of a template are within the limit it was read under, so no method fails at the
  second look. -/
theorem depth_raised :
    (∀ (template : String) (d d' : Nat), d ≤ d' →
      Lifts Route.TemplateError.IsDeep (Route.Template.parse template d)
        (Route.Template.parse template d')) ∧
    (∀ e : Route.TemplateError, ¬ e.IsDeep ↔ (Cause.template e).kind = .invalidPathTemplate) ∧
    (∀ (s : Schema) (v : Service) (m : Method) (c : Settings) (d' : Nat), c.maxDepth ≤ d' →
      Lifts (fun i => i.kind = .schemaTooDeep) (build s v m c)
        (build s v m { c with maxDepth := d' })) ∧
    (∀ (template : String) (d : Nat) (t : Route.Template), Route.Template.parse template d = .ok t →
      ∀ b ∈ t.bindings, ¬ d < b.fieldPath.length) ∧
    ∀ (s : Schema) (v : Service) (m : Method) (c : Settings) (i : Issue),
      build s v m c = .error i → ∀ path max, i.cause ≠ .pathTooDeep path max := by
  refine ⟨?_, Route.TemplateError.not_isDeep_iff, ?_, ?_, ?_⟩
  · intro template d d' h
    exact (Route.parse_agrees h template).lifts
  · intro s v m c d' h
    exact (build_agrees h v m).lifts
  · intro template d t ht b hb
    exact Nat.not_lt.2 ((Route.wellFormed_of_parse ht).fieldPath_le b hb)
  · intro s v m c i hi
    exact atFirstLook_build v m c i hi

/-- A garage: stops of cars that have a key. -/
def garage : Schema where
  package := "garage"
  messages := [
    ⟨"Stop", [⟨"car", "car", 1, .message "Car", false, none, none, none, none⟩], [], {}⟩,
    ⟨"Car", [⟨"key", "key", 1, .message "Key", false, none, none, none, none⟩], [], {}⟩,
    ⟨"Key", [⟨"id", "id", 1, .scalar "string", false, none, none, none, none⟩], [], {}⟩]

/-- A method of the garage that is reached by a path. -/
def visitAt (path : String) : Method :=
  ⟨"Visit", "Stop", "Stop", some ⟨"GET", path, .none, .entire⟩, []⟩

/-- A path to the key of a car, three parts deep. -/
def keyPath : String := "/cars/\x7bcar.key.id\x7d"

/-- A path to what no car of the garage has. -/
def wheelPath : String := "/cars/\x7bcar.wheel\x7d"

/-- A path with a nameless placeholder before a deep one. -/
def namelessPath : String := "/\x7b\x7d" ++ keyPath

/-- Under the limit 2 the path to a key is too deep, under 3 it is not. -/
theorem depth_raised_garage :
    (∃ t, Route.Template.parse keyPath 3 = .ok t ∧ (∀ b ∈ t.bindings, ¬ 3 < b.fieldPath.length) ∧
      Route.Template.parse keyPath 9 = .ok t) ∧
    (∃ e, Route.Template.parse namelessPath 2 = .error e ∧ e.fault = .emptyName ∧
      Route.Template.parse namelessPath 9 = .error e) ∧
    (∃ i, build garage ⟨"Desk", []⟩ (visitAt keyPath) { maxDepth := 2 } = .error i ∧
      i.kind = .schemaTooDeep ∧ ∀ path max, i.cause ≠ .pathTooDeep path max) ∧
    (∃ o, build garage ⟨"Desk", []⟩ (visitAt keyPath) { maxDepth := 3 } = .ok (some o) ∧
      build garage ⟨"Desk", []⟩ (visitAt keyPath) { maxDepth := 9 } = .ok (some o)) ∧
    ∃ i, build garage ⟨"Desk", []⟩ (visitAt wheelPath) { maxDepth := 2 } = .error i ∧
      i.kind = .unresolvedReference ∧
      build garage ⟨"Desk", []⟩ (visitAt wheelPath) { maxDepth := 9 } = .error i := by
  obtain ⟨htemplate, hinvalid, hbuild, hbindings, hlook⟩ := depth_raised
  refine ⟨⟨_, rfl, hbindings keyPath 3 _ rfl, ?_⟩, ⟨_, rfl, rfl, ?_⟩, ⟨_, rfl, rfl, ?_⟩,
    ⟨_, rfl, ?_⟩, ⟨_, rfl, rfl, ?_⟩⟩
  · exact (htemplate keyPath 3 9 (by decide)).ok _ rfl
  · exact (htemplate namelessPath 2 9 (by decide)).error _ rfl ((hinvalid _).2 rfl)
  · exact hlook garage ⟨"Desk", []⟩ (visitAt keyPath) { maxDepth := 2 } _ rfl
  · exact (hbuild garage ⟨"Desk", []⟩ (visitAt keyPath) { maxDepth := 3 } 9 (by decide)).ok _ rfl
  · have hlift := hbuild garage ⟨"Desk", []⟩ (visitAt wheelPath) { maxDepth := 2 } 9 (by decide)
    exact hlift.error _ rfl (by decide)

end Operation

end ServiceContract
