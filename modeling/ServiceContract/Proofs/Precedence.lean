import ServiceContract.Issue
import ServiceContract.Proofs.Binding
import ServiceContract.Proofs.Tags

/-!
# What decides the binding of a field

A field may be placed by the path, by itself, by its group, by its message and by the HTTP mapping,
and the first of these that says something decides. So it is with its further tags. A field that
the path fills can be placed nowhere else.

* `layers`, `fragments`: what may decide, in order of precedence.
* `locate_eq_ok_iff`, `locate_eq_error_iff`: the location of a field, and when it has none.
* `Determined`: what the binding of a field is, and why there is none otherwise.
* `resolveField_determined`: every field of every message is bound so.
-/

namespace ServiceContract.Binding

open Schema (Field Message)

/-- The group that a field names, as its message declares it. -/
def declaredGroup? (m : Message) (f : Field) : Option Schema.Oneof :=
  m.oneofs.find? fun group => f.oneof = some group.name

/-- **What may place a field**, in order of precedence: the path, the field itself, its group, its
message, and what the body of the request is. -/
def layers (m : Message) (f : Field) (ctx : Context) : List (Option (Location × LocationSource)) :=
  [if f.name ∈ ctx.pathFields then some (.uri, .path) else none,
    f.location.map fun l => (l, .field),
    ((declaredGroup? m f).bind (·.defaults.location)).map fun l => (l, .oneof),
    m.defaults.location.map fun l => (l, .message),
    some (if ctx.body = .entire ∨ ctx.body = .field f.name then .body else .query, .methodDefault)]

/-- The fragments that may give a field further tags, in order of precedence: its own, that of its
group, and that of its message. -/
def fragments (m : Message) (f : Field) : List (Option String) :=
  [f.autoTags, (declaredGroup? m f).bind (·.defaults.autoTags), m.defaults.autoTags]

/-- The further tags of a field. -/
def inheritedTags (m : Message) (f : Field) : Except FragmentFault (List Tag) :=
  tagsOr [] ((fragments m f).findSome? id)

/-- **A field that cannot be placed**: the path fills it, and it is the body or is placed
elsewhere. -/
def Conflicts (f : Field) (ctx : Context) : Prop :=
  f.name ∈ ctx.pathFields ∧ (ctx.body = .field f.name ∨ ∃ l, f.location = some l ∧ l ≠ .uri)

/-- Why a field cannot be placed. -/
inductive Misplaced (f : Field) (ctx : Context) : BindingFault → Prop
  | bodyFromPath : f.name ∈ ctx.pathFields → ctx.body = .field f.name →
      Misplaced f ctx .bodyFromPath
  | conflicting {l : Location} : f.name ∈ ctx.pathFields → ctx.body ≠ .field f.name →
      f.location = some l → l ≠ .uri → Misplaced f ctx (.conflicting l)

/-- **What the binding of a field is.** It is at the location `l` that `source` gives, with the
tags of the three groups in order; there is none exactly when the field cannot be placed, a
fragment cannot be read, or a key occurs twice. -/
structure Determined (m : Message) (f : Field) (ctx : Context) (l : Location)
    (source : LocationSource) : Prop where
  layer : (layers m f ctx).findSome? id = some (l, source)
  conflicting_iff : (∃ e, resolveField m f ctx = .error e ∧
    (Cause.binding e).kind = .conflictingBinding) ↔ Conflicts f ctx
  ok_iff : ∀ b, resolveField m f ctx = .ok b ↔ ¬ Conflicts f ctx ∧ Binds f b ∧
    b.location = l ∧ b.source = source ∧
    ∃ tags, Joined (bodyTags f l) (ownTags f l) (inheritedTags m f) tags ∧
      b.tags = ⟨tags⟩ ∧
      b.tagString = " ".intercalate (tags.map fun t => t.key ++ ":\"" ++ t.value ++ "\"")
  exists_ok_iff : (∃ b, resolveField m f ctx = .ok b) ↔ ¬ Conflicts f ctx ∧
    ∃ own further, ownTags f l = .ok own ∧ inheritedTags m f = .ok further ∧
      KeysDiffer (bodyTags f l ++ own ++ further)
  /-- The error names the field, and what is found first. -/
  error_iff : ∀ e, resolveField m f ctx = .error e ↔ e.field = f.name ∧
    (Misplaced f ctx e.fault ∨ ¬ Conflicts f ctx ∧
      Unjoined (bodyTags f l) (ownTags f l) (inheritedTags m f) e.fault)
  malformed_iff : (∃ e, resolveField m f ctx = .error e ∧
    (Cause.binding e).kind = .malformedSchema) ↔ ¬ Conflicts f ctx ∧
      ((∃ fault, ownTags f l = .error fault) ∨
        ∃ own fault, ownTags f l = .ok own ∧ KeysDiffer (bodyTags f l ++ own) ∧
          inheritedTags m f = .error fault)
  duplicate_iff : (∃ e, resolveField m f ctx = .error e ∧
    (Cause.binding e).kind = .duplicateTagKey) ↔ ¬ Conflicts f ctx ∧
      ∃ own, ownTags f l = .ok own ∧ (¬ KeysDiffer (bodyTags f l ++ own) ∨
        ∃ further, inheritedTags m f = .ok further ∧
          ¬ KeysDiffer (bodyTags f l ++ own ++ further))

variable {m : Message} {f : Field} {ctx : Context} {l : Location} {source : LocationSource}
  {fault : BindingFault}

/-! ## The location -/

theorem exists_misplaced_iff : (∃ fault, Misplaced f ctx fault) ↔ Conflicts f ctx := by
  constructor
  · rintro ⟨fault, h⟩
    cases h with
    | bodyFromPath hpath hbody => exact ⟨hpath, .inl hbody⟩
    | conflicting hpath _ hl hne => exact ⟨hpath, .inr ⟨_, hl, hne⟩⟩
  · rintro ⟨hpath, h⟩
    by_cases hbody : ctx.body = .field f.name
    · exact ⟨_, .bodyFromPath hpath hbody⟩
    · obtain ⟨l, hl, hne⟩ := h.resolve_left hbody
      exact ⟨_, .conflicting hpath hbody hl hne⟩

theorem implicitLocation_eq (body : Schema.BodySelector) :
    implicitLocation body f = if body = .entire ∨ body = .field f.name then .body else .query := by
  cases body with
  | entire => rfl
  | none => rfl
  | field name => simp [implicitLocation]

theorem oneofOf?_eq (m : Message) (f : Field) : m.oneofOf? f = declaredGroup? m f := by
  unfold Message.oneofOf? Message.oneof? declaredGroup?
  cases f.oneof with
  | none =>
    rw [Option.bind_none, eq_comm, List.find?_eq_none]
    simp
  | some name =>
    simp only [Option.bind_some, Option.some.injEq]
    congr 1
    funext group
    rw [Bool.eq_iff_iff, beq_iff_eq, decide_eq_true_iff, eq_comm]

/-- A field that the path does not fill is placed by the first of the other layers. -/
theorem locate_of_not_mem (hpath : f.name ∉ ctx.pathFields) :
    ∃ p, locate m f ctx = .ok p ∧ (layers m f ctx).findSome? id = some p := by
  unfold locate layers
  rw [if_neg (by simpa using hpath), if_neg hpath, implicitLocation_eq, oneofOf?_eq]
  refine ⟨_, rfl, ?_⟩
  cases f.location with
  | some l => rfl
  | none =>
    cases (declaredGroup? m f).bind (·.defaults.location) with
    | some l => rfl
    | none => cases m.defaults.location <;> rfl

theorem layers_of_mem (hpath : f.name ∈ ctx.pathFields) :
    (layers m f ctx).findSome? id = some (.uri, .path) := by
  unfold layers
  rw [if_pos hpath]
  rfl

/-- **The location of a field is that of the first layer**, unless the path and something else
place it. -/
theorem locate_eq_ok_iff :
    locate m f ctx = .ok (l, source) ↔
      ¬ Conflicts f ctx ∧ (layers m f ctx).findSome? id = some (l, source) := by
  by_cases hpath : f.name ∈ ctx.pathFields
  · rw [locate_eq_ok_iff_of_mem hpath, layers_of_mem hpath]
    have hlocation : (f.location = none ∨ f.location = some .uri) ↔
        ¬ ∃ l, f.location = some l ∧ l ≠ .uri := by
      cases f.location <;> simp
    simp only [Conflicts, hpath, true_and, not_or, ← hlocation, Option.some.injEq, Prod.mk.injEq,
      and_assoc, ne_eq, eq_comm]
  · obtain ⟨p, hlocate, hlayer⟩ := locate_of_not_mem (m := m) hpath
    rw [hlocate, hlayer]
    simp [Conflicts, hpath]

/-- **Why a field has no location.** -/
theorem locate_eq_error_iff : locate m f ctx = .error fault ↔ Misplaced f ctx fault := by
  constructor
  · intro h
    unfold locate at h
    split at h
    · next hpath =>
      have hpath := List.contains_iff_mem.1 hpath
      split at h
      · next hbody =>
        cases h
        exact .bodyFromPath hpath hbody
      · next hbody =>
        split at h
        · cases h
        · cases h
        · next l hne hl =>
          cases h
          exact .conflicting hpath hbody hl hne
    · cases h
  · intro h
    unfold locate
    cases h with
    | bodyFromPath hpath hbody => rw [if_pos (List.contains_iff_mem.2 hpath), if_pos hbody]
    | conflicting hpath hbody hl hne =>
      rw [if_pos (List.contains_iff_mem.2 hpath), if_neg hbody, hl]
      split <;> simp_all

/-! ## The binding -/

theorem furtherTags_eq : furtherTags m f = (fragments m f).findSome? id := by
  unfold furtherTags fragments
  rw [oneofOf?_eq]
  cases f.autoTags with
  | some fragment => rfl
  | none =>
    cases (declaredGroup? m f).bind (·.defaults.autoTags) with
    | some fragment => rfl
    | none => cases m.defaults.autoTags <;> rfl

theorem resolveField_eq_error_iff {e : BindingError} :
    resolveField m f ctx = .error e ↔ e.field = f.name ∧ (locate m f ctx = .error e.fault ∨
      ∃ l source, locate m f ctx = .ok (l, source) ∧
        buildTags f l (furtherTags m f) = .error e.fault) := by
  obtain ⟨field, fault⟩ := e
  unfold resolveField
  cases locate m f ctx with
  | error fault' => simp [bind, Except.bind, eq_comm]
  | ok p =>
    obtain ⟨l, source⟩ := p
    cases htags : buildTags f l (furtherTags m f) with
    | error fault' => simp [bind, Except.bind, htags, eq_comm]
    | ok tags => simp [bind, Except.bind, pure, Except.pure, htags]

section

variable (hlayer : (layers m f ctx).findSome? id = some (l, source))
include hlayer

theorem resolveField_eq_ok_iff_joined {b : FieldBinding} :
    resolveField m f ctx = .ok b ↔ ¬ Conflicts f ctx ∧ Binds f b ∧ b.location = l ∧
      b.source = source ∧ Joined (bodyTags f l) (ownTags f l) (inheritedTags m f) b.tags.tags := by
  rw [resolveField_eq_ok_iff, locate_eq_ok_iff, buildTags_eq_ok_iff, furtherTags_eq, hlayer,
    Option.some.injEq, Prod.mk.injEq]
  constructor
  · rintro ⟨hbinds, ⟨hplaced, rfl, rfl⟩, htags⟩
    exact ⟨hplaced, hbinds, rfl, rfl, htags⟩
  · rintro ⟨hplaced, hbinds, rfl, rfl, htags⟩
    exact ⟨hbinds, ⟨hplaced, rfl, rfl⟩, htags⟩

/-- A field that can be placed is bound where its tags can stand together. -/
theorem exists_resolveField_eq_ok_iff :
    (∃ b, resolveField m f ctx = .ok b) ↔ ¬ Conflicts f ctx ∧
      ∃ tags, Joined (bodyTags f l) (ownTags f l) (inheritedTags m f) tags := by
  simp only [resolveField_eq_ok_iff_joined hlayer]
  constructor
  · rintro ⟨b, hplaced, -, -, -, htags⟩
    exact ⟨hplaced, _, htags⟩
  · rintro ⟨hplaced, tags, htags⟩
    exact ⟨⟨f.name, f.wireName, f.number, l, source, ⟨tags⟩, f.kind, f.repeated⟩, hplaced,
      ⟨rfl, rfl, rfl, rfl, rfl⟩, rfl, rfl, htags⟩

theorem resolveField_eq_error_iff_unjoined {e : BindingError} :
    resolveField m f ctx = .error e ↔ e.field = f.name ∧ (Misplaced f ctx e.fault ∨
      ¬ Conflicts f ctx ∧
        Unjoined (bodyTags f l) (ownTags f l) (inheritedTags m f) e.fault) := by
  rw [resolveField_eq_error_iff, locate_eq_error_iff, furtherTags_eq]
  refine and_congr_right' (or_congr_right ?_)
  simp only [locate_eq_ok_iff, hlayer, Option.some.injEq, Prod.mk.injEq, buildTags_eq_error_iff]
  constructor
  · rintro ⟨_, _, ⟨hplaced, rfl, rfl⟩, hunjoined⟩
    exact ⟨hplaced, hunjoined⟩
  · rintro ⟨hplaced, hunjoined⟩
    exact ⟨l, source, ⟨hplaced, rfl, rfl⟩, hunjoined⟩

/-- The kinds of errors are those of what is found first. -/
theorem exists_error_of_kind_iff (kind : Issue.Kind) :
    (∃ e, resolveField m f ctx = .error e ∧ (Cause.binding e).kind = kind) ↔
      (∃ fault, Misplaced f ctx fault ∧ Cause.kindOfBinding fault = kind) ∨
        ¬ Conflicts f ctx ∧ ∃ fault,
          Unjoined (bodyTags f l) (ownTags f l) (inheritedTags m f) fault ∧
            Cause.kindOfBinding fault = kind := by
  simp only [resolveField_eq_error_iff_unjoined hlayer]
  constructor
  · rintro ⟨e, ⟨-, hmisplaced | ⟨hplaced, hunjoined⟩⟩, hkind⟩
    · exact .inl ⟨_, hmisplaced, hkind⟩
    · exact .inr ⟨hplaced, _, hunjoined, hkind⟩
  · rintro (⟨fault, hmisplaced, hkind⟩ | ⟨hplaced, fault, hunjoined, hkind⟩)
    · exact ⟨⟨f.name, fault⟩, ⟨rfl, .inl hmisplaced⟩, hkind⟩
    · exact ⟨⟨f.name, fault⟩, ⟨rfl, .inr ⟨hplaced, hunjoined⟩⟩, hkind⟩

end

theorem Misplaced.kind (h : Misplaced f ctx fault) :
    Cause.kindOfBinding fault = .conflictingBinding := by
  cases h <;> rfl

section

variable {first : List Tag} {own further : Except FragmentFault (List Tag)}

theorem exists_unjoined_conflicting :
    ¬ ∃ fault, Unjoined first own further fault ∧
      Cause.kindOfBinding fault = .conflictingBinding := by
  rintro ⟨fault, h, hkind⟩
  cases h <;> cases hkind

theorem exists_unjoined_malformed_iff :
    (∃ fault, Unjoined first own further fault ∧ Cause.kindOfBinding fault = .malformedSchema) ↔
      (∃ fault, own = .error fault) ∨
        ∃ ts fault, own = .ok ts ∧ KeysDiffer (first ++ ts) ∧ further = .error fault := by
  constructor
  · rintro ⟨fault, h, hkind⟩
    cases h with
    | malformedOwn hown => exact .inl ⟨_, hown⟩
    | malformedFurther hown hdiffer hfurther => exact .inr ⟨_, _, hown, hdiffer, hfurther⟩
    | repeatedOwn _ _ => cases hkind
    | repeatedFurther _ _ _ _ => cases hkind
  · rintro (⟨fault, hown⟩ | ⟨ts, fault, hown, hdiffer, hfurther⟩)
    · exact ⟨_, .malformedOwn hown, rfl⟩
    · exact ⟨_, .malformedFurther hown hdiffer hfurther, rfl⟩

theorem exists_unjoined_duplicate_iff :
    (∃ fault, Unjoined first own further fault ∧ Cause.kindOfBinding fault = .duplicateTagKey) ↔
      ∃ ts, own = .ok ts ∧ (¬ KeysDiffer (first ++ ts) ∨
        ∃ us, further = .ok us ∧ ¬ KeysDiffer (first ++ ts ++ us)) := by
  simp only [← exists_repeatsFirst_iff]
  constructor
  · rintro ⟨fault, h, hkind⟩
    cases h with
    | malformedOwn _ => cases hkind
    | malformedFurther _ _ _ => cases hkind
    | repeatedOwn hown hrepeats => exact ⟨_, hown, .inl ⟨_, hrepeats⟩⟩
    | repeatedFurther hown _ hfurther hrepeats =>
      exact ⟨_, hown, .inr ⟨_, hfurther, _, hrepeats⟩⟩
  · rintro ⟨ts, hown, h⟩
    by_cases hdiffer : KeysDiffer (first ++ ts)
    · obtain ⟨us, hfurther, key, hrepeats⟩ := h.resolve_left fun h =>
        exists_repeatsFirst_iff.1 h hdiffer
      exact ⟨_, .repeatedFurther hown hdiffer hfurther hrepeats, rfl⟩
    · obtain ⟨key, hrepeats⟩ := exists_repeatsFirst_iff.2 hdiffer
      exact ⟨_, .repeatedOwn hown hrepeats, rfl⟩

end

/-- Some layer always places a field. -/
theorem exists_layer (m : Message) (f : Field) (ctx : Context) :
    ∃ l source, (layers m f ctx).findSome? id = some (l, source) := by
  by_cases hpath : f.name ∈ ctx.pathFields
  · exact ⟨_, _, layers_of_mem hpath⟩
  · obtain ⟨⟨l, source⟩, -, hlayer⟩ := locate_of_not_mem (m := m) hpath
    exact ⟨l, source, hlayer⟩

/-- **The binding of a field is determined by precedence**, for every message, field, body and
set of fields that the path fills. -/
theorem resolveField_determined (m : Message) (f : Field) (ctx : Context) :
    ∃ l source, Determined m f ctx l source := by
  obtain ⟨l, source, hlayer⟩ := exists_layer m f ctx
  have hkinds := exists_error_of_kind_iff hlayer
  have hnot (kind : Issue.Kind) (hne : kind ≠ .conflictingBinding) :
      ¬ ∃ fault, Misplaced f ctx fault ∧ Cause.kindOfBinding fault = kind := by
    rintro ⟨fault, hmisplaced, rfl⟩
    exact hne hmisplaced.kind
  refine ⟨l, source, hlayer, ?_, fun b => ?_, ?_,
    fun e => resolveField_eq_error_iff_unjoined hlayer, ?_, ?_⟩
  · rw [hkinds, or_iff_left fun h => exists_unjoined_conflicting h.2, ← exists_misplaced_iff]
    exact exists_congr fun fault => and_iff_left_of_imp Misplaced.kind
  · rw [resolveField_eq_ok_iff_joined hlayer]
    refine and_congr_right' (and_congr_right' (and_congr_right' (and_congr_right' ?_)))
    constructor
    · intro hjoined
      exact ⟨_, hjoined, rfl, rfl⟩
    · rintro ⟨tags, hjoined, htags, -⟩
      rw [htags]
      exact hjoined
  · rw [exists_resolveField_eq_ok_iff hlayer]
    refine and_congr_right' ⟨?_, ?_⟩
    · rintro ⟨tags, own, further, hown, hfurther, rfl, hdiffer⟩
      exact ⟨own, further, hown, hfurther, hdiffer⟩
    · rintro ⟨own, further, hown, hfurther, hdiffer⟩
      exact ⟨_, own, further, hown, hfurther, rfl, hdiffer⟩
  · rw [hkinds, or_iff_right (hnot _ (by decide)), exists_unjoined_malformed_iff]
  · rw [hkinds, or_iff_right (hnot _ (by decide)), exists_unjoined_duplicate_iff]

/-- A field that leaves its location and further tags to its group. -/
def phone : Field := ⟨"phone", "tel", 1, .scalar "string", false, some "reach", none, none, none⟩

/-- A field of the same group that sets both itself. -/
def mail : Field :=
  ⟨"mail", "mail", 3, .scalar "string", false, some "reach", some .query, none,
    some "trace:\"1\""⟩

/-- A field that sets its tags itself. -/
def note : Field :=
  ⟨"note", "note", 2, .scalar "string", false, none, none, some "check:\"max=9\"", none⟩

/-- A message of these, in which the group and the message give defaults. -/
def contact : Message where
  name := "Contact"
  fields := [phone, note, mail]
  oneofs := [⟨"reach", { location := some .header, autoTags := some "audit:\"on\"" }⟩]
  defaults := { autoTags := some "mask:\"off\"" }

theorem resolveField_determined_contact :
    resolveField contact phone ⟨.field "note", []⟩ =
      .ok ⟨"phone", "tel", 1, .header, .oneof, ⟨[⟨"header", "tel"⟩, ⟨"audit", "on"⟩]⟩,
        .scalar "string", false⟩ ∧
    resolveField contact mail ⟨.field "note", []⟩ =
      .ok ⟨"mail", "mail", 3, .query, .field, ⟨[⟨"query", "mail"⟩, ⟨"trace", "1"⟩]⟩,
        .scalar "string", false⟩ ∧
    resolveField contact note ⟨.field "note", []⟩ =
      .ok ⟨"note", "note", 2, .body, .methodDefault,
        ⟨[⟨"json", "note"⟩, ⟨"check", "max=9"⟩, ⟨"mask", "off"⟩]⟩, .scalar "string", false⟩ ∧
    ∃ e, resolveField contact phone ⟨.field "phone", ["phone"]⟩ = .error e ∧
      (Cause.binding e).kind = .conflictingBinding := by
  refine ⟨?_, ?_, ?_, ?_⟩
  · obtain ⟨l, source, h⟩ := resolveField_determined contact phone ⟨.field "note", []⟩
    obtain ⟨rfl, rfl⟩ := Prod.mk.inj (Option.some.inj
      (h.layer.symm.trans (rfl : _ = some (Location.header, LocationSource.oneof))))
    refine (h.ok_iff _).2 ⟨by simp [Conflicts], ⟨rfl, rfl, rfl, rfl, rfl⟩, rfl, rfl, _,
      ⟨[⟨"header", "tel"⟩], [⟨"audit", "on"⟩], rfl, ?_, rfl, by decide⟩, rfl, rfl⟩
    decide +kernel
  · obtain ⟨l, source, h⟩ := resolveField_determined contact mail ⟨.field "note", []⟩
    obtain ⟨rfl, rfl⟩ := Prod.mk.inj (Option.some.inj
      (h.layer.symm.trans (rfl : _ = some (Location.query, LocationSource.field))))
    refine (h.ok_iff _).2 ⟨by simp [Conflicts], ⟨rfl, rfl, rfl, rfl, rfl⟩, rfl, rfl, _,
      ⟨[⟨"query", "mail"⟩], [⟨"trace", "1"⟩], rfl, ?_, rfl, by decide⟩, rfl, rfl⟩
    decide +kernel
  · obtain ⟨l, source, h⟩ := resolveField_determined contact note ⟨.field "note", []⟩
    obtain ⟨rfl, rfl⟩ := Prod.mk.inj (Option.some.inj
      (h.layer.symm.trans (rfl : _ = some (Location.body, LocationSource.methodDefault))))
    refine (h.ok_iff _).2 ⟨by simp [Conflicts], ⟨rfl, rfl, rfl, rfl, rfl⟩, rfl, rfl, _,
      ⟨[⟨"check", "max=9"⟩], [⟨"mask", "off"⟩], ?_, ?_, rfl, by decide⟩, rfl, rfl⟩
    · decide +kernel
    · decide +kernel
  · obtain ⟨l, source, h⟩ := resolveField_determined contact phone ⟨.field "phone", ["phone"]⟩
    exact h.conflicting_iff.2 ⟨by decide, .inl rfl⟩

end ServiceContract.Binding
