import Mathlib.Data.List.Nodup
import ServiceContract.Binding.Resolve
import ServiceContract.Proofs.Attempts

/-!
# Tags put together

The tags of a field come in three groups: that of a body field, those that the field sets itself or
else that of its location, and the further ones. They are pushed one after the other; a fragment
is read only when its turn comes, and the first key that occurs again ends it all.

* `pushAll_cases`: pushing tags adds them all, or fails at the first key that occurs again.
* `Joined`: tags that can stand together.
* `buildTags_eq_ok_iff`, `buildTags_eq_error_iff`: when the groups can, and why not otherwise.
-/

namespace ServiceContract.Binding

open Schema (Field)

/-- All keys differ. -/
def KeysDiffer (tags : List Tag) : Prop := (tags.map (·.key)).Nodup

instance (tags : List Tag) : Decidable (KeysDiffer tags) :=
  inferInstanceAs (Decidable (tags.map (·.key)).Nodup)

/-- **The first key that occurs again**: the keys before it differ, and it is one of them. -/
def RepeatsFirst (tags : List Tag) (key : String) : Prop :=
  ∃ before value after, tags = before ++ ⟨key, value⟩ :: after ∧ KeysDiffer before ∧
    key ∈ before.map (·.key)

variable {s : TagSet} {t : Tag} {ts us : List Tag} {key : String} {fault : BindingFault}

theorem keysDiffer_nil : KeysDiffer [] := List.nodup_nil

theorem keysDiffer_concat_iff :
    KeysDiffer (ts ++ [t]) ↔ KeysDiffer ts ∧ t.key ∉ ts.map (·.key) := by
  unfold KeysDiffer
  rw [List.map_append, List.map_singleton, List.nodup_append_comm, List.singleton_append,
    List.nodup_cons, and_comm]

theorem KeysDiffer.left (h : KeysDiffer (ts ++ us)) : KeysDiffer ts := by
  unfold KeysDiffer at h ⊢
  rw [List.map_append] at h
  exact h.of_append_left

theorem RepeatsFirst.not_keysDiffer (h : RepeatsFirst ts key) : ¬ KeysDiffer ts := by
  obtain ⟨before, value, after, rfl, -, hmem⟩ := h
  intro hdiffer
  rw [← List.singleton_append, ← List.append_assoc] at hdiffer
  exact (keysDiffer_concat_iff.1 hdiffer.left).2 hmem

/-- Keys that all differ up to a point do not repeat before it. -/
theorem RepeatsFirst.length_le {before before' after after' : List Tag} {t t' : Tag}
    (h : before ++ t :: after = before' ++ t' :: after') (hdiffer : KeysDiffer before')
    (hmem : t.key ∈ before.map (·.key)) : before'.length ≤ before.length := by
  by_contra hlt
  have hshort : before ++ [t] <+: before ++ t :: after := ⟨after, by simp⟩
  have hlong : before' <+: before ++ t :: after := ⟨t' :: after', h.symm⟩
  have hlength : (before ++ [t]).length ≤ before'.length := by
    rw [List.length_append, List.length_singleton]
    omega
  have hprefix : before ++ [t] <+: before' := List.prefix_of_prefix_length_le hshort hlong hlength
  obtain ⟨rest, rfl⟩ := hprefix
  exact (keysDiffer_concat_iff.1 hdiffer.left).2 hmem

/-- Only one key is the first to occur again. -/
theorem RepeatsFirst.unique {key' : String} (h : RepeatsFirst ts key) (h' : RepeatsFirst ts key') :
    key = key' := by
  obtain ⟨before, value, after, rfl, hdiffer, hmem⟩ := h
  obtain ⟨before', value', after', heq, hdiffer', hmem'⟩ := h'
  have hlength : before.length = before'.length :=
    Nat.le_antisymm (RepeatsFirst.length_le heq.symm hdiffer hmem')
      (RepeatsFirst.length_le heq hdiffer' hmem)
  have htags := (List.cons.inj (List.append_inj heq hlength).2).1
  exact congrArg Tag.key htags

/-! ## Pushing -/

theorem get?_isSome_iff : (s.get? key).isSome ↔ key ∈ s.tags.map (·.key) := by
  unfold TagSet.get?
  rw [Option.isSome_map, List.find?_isSome]
  simp only [List.mem_map, beq_iff_eq]

theorem push_of_mem (h : t.key ∈ s.tags.map (·.key)) : s.push t = .error t := by
  unfold TagSet.push
  rw [if_pos (get?_isSome_iff.2 h)]

theorem push_of_not_mem (h : t.key ∉ s.tags.map (·.key)) : s.push t = .ok ⟨s.tags ++ [t]⟩ := by
  unfold TagSet.push
  rw [if_neg (mt get?_isSome_iff.1 h)]

/-- **Pushing tags** onto tags whose keys differ adds them all, or fails at the first key that
occurs again. -/
theorem pushAll_cases (h : KeysDiffer ts) (us : List Tag) :
    (KeysDiffer (ts ++ us) ∧ pushAll ⟨ts⟩ us = .ok ⟨ts ++ us⟩) ∨
      ∃ key, RepeatsFirst (ts ++ us) key ∧ pushAll ⟨ts⟩ us = .error (.repeatedTagKey key) := by
  induction us generalizing ts with
  | nil =>
    rw [List.append_nil]
    exact .inl ⟨h, rfl⟩
  | cons u us ih =>
    unfold pushAll
    by_cases hmem : u.key ∈ ts.map (·.key)
    · rw [push_of_mem hmem]
      exact .inr ⟨u.key, ⟨ts, u.value, us, rfl, h, hmem⟩, rfl⟩
    · rw [push_of_not_mem hmem]
      have happend : ts ++ u :: us = ts ++ [u] ++ us := by simp
      rw [happend]
      exact ih (keysDiffer_concat_iff.2 ⟨h, hmem⟩)

theorem pushAll_eq_ok_iff (h : KeysDiffer ts) :
    pushAll ⟨ts⟩ us = .ok s ↔ KeysDiffer (ts ++ us) ∧ s = ⟨ts ++ us⟩ := by
  obtain ⟨hdiffer, hpush⟩ | ⟨key, hrepeats, hpush⟩ := pushAll_cases h us
  · rw [hpush, Except.ok.injEq]
    exact ⟨fun h => ⟨hdiffer, h.symm⟩, fun h => h.2.symm⟩
  · rw [hpush]
    simp [hrepeats.not_keysDiffer]

theorem pushAll_eq_error_iff (h : KeysDiffer ts) :
    pushAll ⟨ts⟩ us = .error fault ↔
      ∃ key, RepeatsFirst (ts ++ us) key ∧ fault = .repeatedTagKey key := by
  obtain ⟨hdiffer, hpush⟩ | ⟨key, hrepeats, hpush⟩ := pushAll_cases h us
  · rw [hpush]
    simp only [reduceCtorEq, false_iff, not_exists, not_and]
    exact fun key hrepeats => absurd hdiffer hrepeats.not_keysDiffer
  · rw [hpush, Except.error.injEq]
    constructor
    · rintro rfl
      exact ⟨key, hrepeats, rfl⟩
    · rintro ⟨key', hrepeats', rfl⟩
      rw [hrepeats.unique hrepeats']

/-- A key occurs again exactly when not all keys differ. -/
theorem exists_repeatsFirst_iff : (∃ key, RepeatsFirst ts key) ↔ ¬ KeysDiffer ts := by
  constructor
  · rintro ⟨key, h⟩
    exact h.not_keysDiffer
  · intro h
    obtain ⟨hdiffer, -⟩ | ⟨key, hrepeats, -⟩ := pushAll_cases keysDiffer_nil ts
    · exact absurd hdiffer h
    · exact ⟨key, hrepeats⟩

/-! ## Groups of tags -/

/-- The tag that a body field starts with. -/
def bodyTags (f : Field) (l : Location) : List Tag :=
  if l = .body then [⟨"json", f.wireName⟩] else []

/-- The tag that marks the location of a field. A body field has none. -/
def locationTags (f : Field) : Location → List Tag
  | .uri => [⟨"uri", f.wireName⟩]
  | .query => [⟨"query", f.wireName⟩]
  | .header => [⟨"header", f.wireName⟩]
  | .form => [⟨"form", f.wireName⟩]
  | .body => []

/-- The tags of a fragment, or others where there is none. -/
def tagsOr (otherwise : List Tag) : Option String → Except FragmentFault (List Tag)
  | some fragment => Tag.parseFragment fragment
  | none => .ok otherwise

/-- The tags that a field sets itself, or else the tag of its location. -/
def ownTags (f : Field) (l : Location) : Except FragmentFault (List Tag) :=
  tagsOr (locationTags f l) f.tag

/-- **Tags that can stand together**: both fragments can be read, and all keys differ. -/
def Joined (first : List Tag) (own further : Except FragmentFault (List Tag)) (tags : List Tag) :
    Prop :=
  ∃ ts us, own = .ok ts ∧ further = .ok us ∧ tags = first ++ ts ++ us ∧ KeysDiffer tags

/-- **Why tags cannot stand together**, as it is found from the first group on. -/
inductive Unjoined (first : List Tag) (own further : Except FragmentFault (List Tag)) :
    BindingFault → Prop
  | malformedOwn {fault : FragmentFault} : own = .error fault →
      Unjoined first own further (.malformedTag fault)
  | repeatedOwn {ts : List Tag} {key : String} : own = .ok ts → RepeatsFirst (first ++ ts) key →
      Unjoined first own further (.repeatedTagKey key)
  | malformedFurther {ts : List Tag} {fault : FragmentFault} : own = .ok ts →
      KeysDiffer (first ++ ts) → further = .error fault →
      Unjoined first own further (.malformedTag fault)
  | repeatedFurther {ts us : List Tag} {key : String} : own = .ok ts →
      KeysDiffer (first ++ ts) → further = .ok us → RepeatsFirst (first ++ ts ++ us) key →
      Unjoined first own further (.repeatedTagKey key)

variable {f : Field} {l : Location} {fragment : Option String}

theorem keysDiffer_bodyTags : KeysDiffer (bodyTags f l) := by
  unfold bodyTags
  split
  · exact List.nodup_singleton _
  · exact List.nodup_nil

theorem locationTags_eq (f : Field) (l : Location) :
    locationTags f l = l.tagKey?.toList.map fun key => ⟨key, f.wireName⟩ := by
  cases l <;> rfl

theorem fragmentTags_eq (fragment : String) :
    fragmentTags fragment = (Tag.parseFragment fragment).mapError .malformedTag := by
  unfold fragmentTags
  cases Tag.parseFragment fragment <;> rfl

/-- The groups are pushed one after the other, each once it is read. -/
theorem buildTags_eq :
    buildTags f l fragment = (do
      let own ← (ownTags f l).mapError .malformedTag
      let set ← pushAll ⟨bodyTags f l⟩ own
      let further ← (tagsOr [] fragment).mapError .malformedTag
      pushAll set further) := by
  have hfirst : pushAll {} (bodyTags f l) = .ok ⟨bodyTags f l⟩ :=
    (pushAll_eq_ok_iff keysDiffer_nil).2 ⟨keysDiffer_bodyTags, rfl⟩
  unfold buildTags ownTags
  unfold bodyTags at hfirst ⊢
  rw [hfirst]
  simp only [fragmentTags_eq, ← locationTags_eq]
  cases f.tag with
  | none => cases fragment <;> rfl
  | some own =>
    -- the tags of a fragment are read before any is pushed
    simp only [tagsOr]
    cases Tag.parseFragment own with
    | error fault => rfl
    | ok ts => cases fragment <;> rfl

/-- **The tags of a field** are its groups in order, where these can stand together. -/
theorem buildTags_eq_ok_iff :
    buildTags f l fragment = .ok s ↔
      Joined (bodyTags f l) (ownTags f l) (tagsOr [] fragment) s.tags := by
  rw [buildTags_eq]
  simp only [bind_eq_ok, mapError_eq_ok, pushAll_eq_ok_iff keysDiffer_bodyTags]
  constructor
  · rintro ⟨ts, hown, set, ⟨hdiffer, rfl⟩, us, hfurther, hpush⟩
    obtain ⟨hall, rfl⟩ := (pushAll_eq_ok_iff hdiffer).1 hpush
    exact ⟨ts, us, hown, hfurther, rfl, hall⟩
  · rintro ⟨ts, us, hown, hfurther, htags, hall⟩
    rw [htags] at hall
    have hset : s = ⟨bodyTags f l ++ ts ++ us⟩ := by rw [← htags]
    exact ⟨ts, hown, _, ⟨hall.left, rfl⟩, us, hfurther,
      (pushAll_eq_ok_iff hall.left).2 ⟨hall, hset⟩⟩

/-- **Why a field has no tags.** -/
theorem buildTags_eq_error_iff :
    buildTags f l fragment = .error fault ↔
      Unjoined (bodyTags f l) (ownTags f l) (tagsOr [] fragment) fault := by
  rw [buildTags_eq]
  simp only [bind_eq_error, mapError_eq_error, mapError_eq_ok,
    pushAll_eq_ok_iff keysDiffer_bodyTags, pushAll_eq_error_iff keysDiffer_bodyTags]
  constructor
  · rintro (⟨e, hown, rfl⟩ | ⟨ts, hown, ⟨key, hrepeats, rfl⟩ | ⟨set, ⟨hdiffer, rfl⟩, h⟩⟩)
    · exact .malformedOwn hown
    · exact .repeatedOwn hown hrepeats
    · obtain ⟨e, hfurther, rfl⟩ | ⟨us, hfurther, hpush⟩ := h
      · exact .malformedFurther hown hdiffer hfurther
      · obtain ⟨key, hrepeats, rfl⟩ := (pushAll_eq_error_iff hdiffer).1 hpush
        exact .repeatedFurther hown hdiffer hfurther hrepeats
  · intro h
    cases h with
    | malformedOwn hown => exact .inl ⟨_, hown, rfl⟩
    | repeatedOwn hown hrepeats => exact .inr ⟨_, hown, .inl ⟨_, hrepeats, rfl⟩⟩
    | malformedFurther hown hdiffer hfurther =>
      exact .inr ⟨_, hown, .inr ⟨_, ⟨hdiffer, rfl⟩, .inl ⟨_, hfurther, rfl⟩⟩⟩
    | repeatedFurther hown hdiffer hfurther hrepeats =>
      exact .inr ⟨_, hown, .inr ⟨_, ⟨hdiffer, rfl⟩, .inr ⟨_, hfurther,
        (pushAll_eq_error_iff hdiffer).2 ⟨_, hrepeats, rfl⟩⟩⟩⟩

end ServiceContract.Binding
