import ServiceContract.Binding.Resolve
import ServiceContract.Proofs.Attempts

/-!
# Fields and their bindings

What the binding of a field says of the field, and where the path comes in: a field that the path
fills is bound to the path or not at all, and no other field is.

* `resolveField_eq_ok_iff`: what the binding of a field is made of.
* `source_eq_path_iff`, `location_eq_uri`: which fields are bound to the path.
* `resolveMessage_eq_ok_iff`: one binding for each field.
-/

namespace ServiceContract.Binding

open Schema (Field Message)

variable {m : Message} {f : Field} {ctx : Context} {b : FieldBinding}

/-- A binding has the name, number and type of a field. -/
structure Binds (f : Field) (b : FieldBinding) : Prop where
  field : b.field = f.name
  wireName : b.wireName = f.wireName
  number : b.number = f.number
  kind : b.kind = f.kind
  repeated : b.repeated = f.repeated

/-- **The binding of a field**: its location and its tags, beside what the field says itself. -/
theorem resolveField_eq_ok_iff :
    resolveField m f ctx = .ok b ↔ Binds f b ∧ locate m f ctx = .ok (b.location, b.source) ∧
      buildTags f b.location (furtherTags m f) = .ok b.tags := by
  unfold resolveField
  constructor
  · intro h
    simp only at h
    split at h
    · next hattempt =>
      cases h
      obtain ⟨⟨location, source⟩, hlocate, h⟩ := bind_eq_ok.1 hattempt
      obtain ⟨tags, htags, h⟩ := bind_eq_ok.1 h
      cases h
      exact ⟨⟨rfl, rfl, rfl, rfl, rfl⟩, hlocate, htags⟩
    · cases h
  · rintro ⟨⟨hfield, hwire, hnumber, hkind, hrepeated⟩, hlocate, htags⟩
    rw [← hfield, ← hwire, ← hnumber, ← hkind, ← hrepeated, hlocate]
    simp only [bind, Except.bind, htags]
    rfl

/-- A field that the path fills is bound to the path, unless it is selected as the body or is
placed elsewhere. -/
theorem locate_eq_ok_iff_of_mem (h : f.name ∈ ctx.pathFields) {location : Location}
    {source : LocationSource} :
    locate m f ctx = .ok (location, source) ↔ ctx.body ≠ .field f.name ∧
      (f.location = none ∨ f.location = some .uri) ∧ location = .uri ∧ source = .path := by
  unfold locate
  rw [if_pos (List.contains_iff_mem.2 h)]
  by_cases hbody : ctx.body = .field f.name
  · simp [hbody]
  · rw [if_neg hbody]
    cases f.location with
    | none => simp [hbody, eq_comm]
    | some explicit => cases explicit <;> simp [hbody, eq_comm]

/-- A field that the path does not fill is bound by something else. -/
theorem source_ne_path_of_not_mem (h : f.name ∉ ctx.pathFields) {location : Location}
    {source : LocationSource} (hl : locate m f ctx = .ok (location, source)) : source ≠ .path := by
  unfold locate at hl
  rw [if_neg (by simpa using h)] at hl
  have hsource : _ = source := congrArg Prod.snd (Except.ok.inj hl)
  rw [← hsource]
  cases f.location with
  | some _ => simp
  | none =>
    cases (m.oneofOf? f).bind (·.defaults.location) with
    | some _ => simp
    | none => cases m.defaults.location <;> simp

/-- **The fields that are bound to the path** are those that the path fills. -/
theorem source_eq_path_iff (h : resolveField m f ctx = .ok b) :
    b.source = .path ↔ f.name ∈ ctx.pathFields := by
  obtain ⟨-, hlocate, -⟩ := resolveField_eq_ok_iff.1 h
  constructor
  · intro hpath
    by_contra hmem
    exact source_ne_path_of_not_mem hmem hlocate hpath
  · intro hmem
    exact ((locate_eq_ok_iff_of_mem hmem).1 hlocate).2.2.2

theorem location_eq_uri (h : resolveField m f ctx = .ok b) (hmem : f.name ∈ ctx.pathFields) :
    b.location = .uri := by
  obtain ⟨-, hlocate, -⟩ := resolveField_eq_ok_iff.1 h
  exact ((locate_eq_ok_iff_of_mem hmem).1 hlocate).2.2.1

/-- The body is no field that the path fills. -/
theorem body_ne_field (h : resolveField m f ctx = .ok b) (hmem : f.name ∈ ctx.pathFields) :
    ctx.body ≠ .field f.name := by
  obtain ⟨-, hlocate, -⟩ := resolveField_eq_ok_iff.1 h
  exact ((locate_eq_ok_iff_of_mem hmem).1 hlocate).1

/-- **One binding for each field**, in order. -/
theorem resolveMessage_eq_ok_iff {bs : List FieldBinding} :
    resolveMessage m ctx = .ok bs ↔
      List.Forall₂ (fun f b => resolveField m f ctx = .ok b) m.fields bs :=
  mapM_eq_ok_iff

end ServiceContract.Binding
