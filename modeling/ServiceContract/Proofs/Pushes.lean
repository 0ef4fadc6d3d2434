import Mathlib.Data.Finset.Dedup
import Mathlib.Data.Finset.Card
import ServiceContract.Proofs.Before
import ServiceContract.Proofs.Tags

/-!
# Tags pushed one after the other

A set of tags is kept while tags are pushed, taken or not. Whatever was pushed, the set holds the
first tag of each key, and the answer to a push or a lookup depends on what was pushed before.

* `tags_offer`: what one push does to the first tags.
* `tags_offerAll`: what any number of pushes leave.
* `render_offer`, `exists_render_offerAll`: how the written tags grow.
* `pushes_exact`: a set after any pushes, seen through all its operations.
-/

namespace ServiceContract.Binding

namespace TagSet

/-- A push as the owner of the set sees it: the answer, and the set from then on. A tag that is
given back leaves the set as it was. -/
def offer (s : TagSet) (t : Tag) : Except Tag Unit × TagSet :=
  match s.push t with
  | .ok s' => (.ok (), s')
  | .error back => (.error back, s)

/-- The set after pushes, whatever their answers. -/
def offerAll (s : TagSet) (ts : List Tag) : TagSet :=
  ts.foldl (fun s t => (s.offer t).2) s

end TagSet

/-- **A set after the tags `ts` were pushed**: the first tag of each key, in order. A push is
answered by whether the key was pushed before, and a lookup finds what was pushed first. -/
structure Pushed (ts : List Tag) (s : TagSet) : Prop where
  tags : s.tags = firsts (·.key) ts
  differ : KeysDiffer s.tags
  offer : ∀ t, s.offer t =
    if t.key ∈ ts.map (·.key) then (.error t, s) else (.ok (), ⟨s.tags ++ [t]⟩)
  get : ∀ key, s.get? key = (ts.find? (·.key == key)).map (·.value)
  size : s.size = (ts.map (·.key)).toFinset.card
  rendered : s.render = " ".intercalate (s.tags.map fun t => t.key ++ ":\"" ++ t.value ++ "\"")
  /-- A tag that is taken is written after the others, with one space before it; a tag that is given
  back changes nothing. -/
  appended : ∀ t, (s.offer t).2.render =
    if t.key ∈ ts.map (·.key) then s.render
    else s.render ++ (if ts = [] then "" else " ") ++ (t.key ++ ":\"" ++ t.value ++ "\"")
  grows : ∀ us, ∃ more, (s.offerAll us).render = s.render ++ more

variable {s : TagSet} {t : Tag} {ts us : List Tag}

theorem offer_of_mem (h : t.key ∈ s.tags.map (·.key)) : s.offer t = (.error t, s) := by
  unfold TagSet.offer
  rw [push_of_mem h]

theorem offer_of_not_mem (h : t.key ∉ s.tags.map (·.key)) :
    s.offer t = (.ok (), ⟨s.tags ++ [t]⟩) := by
  unfold TagSet.offer
  rw [push_of_not_mem h]

/-- **One push.** A set of the first tags is one of the first tags again. -/
theorem tags_offer (h : s.tags = firsts (·.key) ts) :
    (s.offer t).2.tags = firsts (·.key) (ts ++ [t]) := by
  have hkeys : t.key ∈ s.tags.map (·.key) ↔ t.key ∈ ts.map (·.key) := by
    rw [h]
    exact mem_map_firsts
  rw [firsts_concat]
  by_cases hmem : t.key ∈ ts.map (·.key)
  · rw [offer_of_mem (hkeys.2 hmem), if_pos hmem, List.append_nil]
    exact h
  · rw [offer_of_not_mem (mt hkeys.1 hmem), if_neg hmem, h]

theorem offerAll_append : s.offerAll (ts ++ us) = (s.offerAll ts).offerAll us :=
  List.foldl_append

/-- **Any number of pushes** leaves the first tags. -/
theorem tags_offerAll (ts : List Tag) : (TagSet.offerAll {} ts).tags = firsts (·.key) ts := by
  induction ts using List.reverseRecOn with
  | nil => rfl
  | append_singleton ts t ih =>
    rw [offerAll_append]
    exact tags_offer ih

/-! ## Growing -/

/-- **One push, as it is written.** -/
theorem render_offer (s : TagSet) (t : Tag) : (s.offer t).2.render =
    if t.key ∈ s.tags.map (·.key) then s.render
    else s.render ++ (if s.tags = [] then "" else " ") ++ t.render := by
  by_cases hmem : t.key ∈ s.tags.map (·.key)
  · rw [offer_of_mem hmem, if_pos hmem]
  · rw [offer_of_not_mem hmem, if_neg hmem]
    unfold TagSet.render
    rw [List.map_append, List.map_singleton]
    by_cases hnil : s.tags = []
    · rw [hnil, if_pos rfl, List.map_nil, List.nil_append, String.intercalate_singleton,
        String.intercalate_nil, String.empty_append, String.empty_append]
    · have hne : s.tags.map Tag.render ≠ [] := mt List.map_eq_nil_iff.1 hnil
      rw [if_neg hnil, String.intercalate_append_of_ne_nil hne (List.cons_ne_nil _ _),
        String.intercalate_singleton]

/-- **Any number of pushes leaves what is written as it is**, and adds to it. -/
theorem exists_render_offerAll (s : TagSet) (us : List Tag) :
    ∃ more, (s.offerAll us).render = s.render ++ more := by
  induction us generalizing s with
  | nil => exact ⟨"", (String.append_empty).symm⟩
  | cons u us ih =>
    have hstep : ∃ first, (s.offer u).2.render = s.render ++ first := by
      rw [render_offer]
      split
      · exact ⟨"", (String.append_empty).symm⟩
      · exact ⟨_, String.append_assoc⟩
    obtain ⟨first, hfirst⟩ := hstep
    obtain ⟨rest, hrest⟩ := ih (s.offer u).2
    refine ⟨first ++ rest, ?_⟩
    rw [← String.append_assoc, ← hfirst, ← hrest]
    rfl

/-- **Pushes, for every sequence of tags.** -/
theorem pushes_exact (ts : List Tag) : Pushed ts (TagSet.offerAll {} ts) := by
  have htags := tags_offerAll ts
  have hdiffer : KeysDiffer (TagSet.offerAll {} ts).tags := by
    rw [htags]
    exact nodup_firsts _ _
  have hmem : ∀ key, key ∈ (TagSet.offerAll {} ts).tags.map (·.key) ↔ key ∈ ts.map (·.key) := by
    intro key
    rw [htags]
    exact mem_map_firsts
  refine ⟨htags, hdiffer, ?_, ?_, ?_, rfl, ?_, exists_render_offerAll _⟩
  · intro t
    by_cases h : t.key ∈ ts.map (·.key)
    · rw [if_pos h, offer_of_mem ((hmem t.key).2 h)]
    · rw [if_neg h, offer_of_not_mem (mt (hmem t.key).1 h)]
  · intro key
    unfold TagSet.get?
    rw [htags, find?_firsts]
  · -- the keys of the set are those that were pushed, each once
    have hkeys :
        ((TagSet.offerAll {} ts).tags.map (·.key)).toFinset = (ts.map (·.key)).toFinset := by
      ext key
      rw [List.mem_toFinset, List.mem_toFinset, hmem]
    rw [← hkeys, List.toFinset_card_of_nodup hdiffer, List.length_map]
    rfl
  · intro t
    -- a set is empty only before the first push
    have hnil : (TagSet.offerAll {} ts).tags = [] ↔ ts = [] := by
      constructor
      · intro hempty
        cases ts with
        | nil => rfl
        | cons u us =>
          have hfirst := (hmem u.key).2 List.mem_cons_self
          rw [hempty] at hfirst
          exact absurd hfirst List.not_mem_nil
      · rintro rfl
        rfl
    rw [render_offer]
    simp only [hmem, hnil]
    rfl

end ServiceContract.Binding
