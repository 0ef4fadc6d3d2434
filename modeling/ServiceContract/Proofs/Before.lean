import Mathlib.Data.List.FinRange
import Mathlib.Data.List.Forall2
import Mathlib.Data.List.Induction
import Mathlib.Data.List.Nodup
import ServiceContract.Before

/-!
# Repeated elements

`withBefore` pairs an element with what stands before it. Here it is read by positions: the
element at position `i` comes with the first `i` elements.

* `listsRepeats_foundBefore`, `listsRepeats_repeats`: looking back, as `repeats` does, lists exactly
  the positions whose key occurred before, in order, each with the first position that has it.
* `firsts_concat`, `nodup_firsts`, `find?_firsts`: `firsts` grows by the elements of new keys, has
  each key once, and finds for a key what the whole list does.
* `forall_withBefore_fresh`: every element has a key of its own and a property exactly when
  each element does with respect to those before it.
-/

namespace ServiceContract

variable {α β κ : Type}

theorem withBeforeFrom_eq (before as : List α) :
    withBeforeFrom before as =
      (List.finRange as.length).map fun i : Fin as.length => (before ++ as.take i, as[i]) := by
  induction as generalizing before with
  | nil => rfl
  | cons a as ih =>
    simp only [withBeforeFrom, ih, List.length_cons, List.finRange_succ, List.map_cons,
      List.map_map]
    congr 1
    · simp
    · apply List.map_congr_left
      intro i _
      simp

/-- Each position with the elements before it. -/
theorem withBefore_eq (as : List α) :
    withBefore as = (List.finRange as.length).map fun i : Fin as.length => (as.take i, as[i]) := by
  unfold withBefore
  rw [withBeforeFrom_eq]
  simp only [List.nil_append]

theorem map_snd_withBefore (as : List α) : (withBefore as).map (·.2) = as := by
  rw [withBefore_eq, List.map_map]
  apply List.ext_getElem
  · simp
  · intro i h1 h2
    simp

/-- A relation to the elements alone may forget what stands before them. -/
theorem forall₂_withBefore_iff {R : α → β → Prop} {as : List α} {bs : List β} :
    List.Forall₂ (fun p b => R p.2 b) (withBefore as) bs ↔ List.Forall₂ R as bs := by
  rw [← List.forall₂_map_left_iff, map_snd_withBefore]

theorem withBeforeFrom_map (f : α → β) (before as : List α) :
    withBeforeFrom (before.map f) (as.map f) =
      (withBeforeFrom before as).map fun p => (p.1.map f, f p.2) := by
  induction as generalizing before with
  | nil => rfl
  | cons a as ih =>
    have ih := ih (before ++ [a])
    rw [List.map_append, List.map_singleton] at ih
    simp only [List.map_cons, withBeforeFrom, ih]

theorem withBefore_map (f : α → β) (as : List α) :
    withBefore (as.map f) = (withBefore as).map fun p => (p.1.map f, f p.2) :=
  withBeforeFrom_map f [] as

theorem withBeforeFrom_filterMap (f : α → Option β) (before as : List α) :
    withBeforeFrom (before.filterMap f) (as.filterMap f) =
      (withBeforeFrom before as).filterMap fun p => (f p.2).map fun b => (p.1.filterMap f, b) := by
  induction as generalizing before with
  | nil => rfl
  | cons a as ih =>
    have ih := ih (before ++ [a])
    rw [List.filterMap_append, List.filterMap_cons, List.filterMap_nil] at ih
    rw [List.filterMap_cons, withBeforeFrom, List.filterMap_cons]
    cases hb : f a with
    | none =>
      rw [hb] at ih
      simp only [List.append_nil] at ih
      simpa using ih
    | some b =>
      rw [hb] at ih
      simp only [withBeforeFrom, Option.map_some, ih]

theorem withBefore_filterMap (f : α → Option β) (as : List α) :
    withBefore (as.filterMap f) =
      (withBefore as).filterMap fun p => (f p.2).map fun b => (p.1.filterMap f, b) :=
  withBeforeFrom_filterMap f [] as

/-- **Repeats see of the elements only their keys.** -/
theorem repeats_map [BEq κ] (f : α → β) (key : β → κ) (as : List α) :
    repeats key (as.map f) = (repeats (fun a => key (f a)) as).map (Prod.map f f) := by
  unfold repeats
  rw [withBefore_map, List.filterMap_map, List.map_filterMap]
  apply List.filterMap_congr
  intro p _
  simp only [Function.comp_apply, List.find?_map, Option.map_map]
  rfl

/-! ## Positions whose key occurred before -/

/-- Position `i` repeats position `j`, and no earlier one. -/
structure IsRepeat (same : α → α → Prop) (as : List α) (i j : Fin as.length) : Prop where
  lt : j < i
  repeated : same as[j] as[i]
  first : ∀ k < j, ¬ same as[k] as[i]

/-- Two positions are the same. -/
def Shared (same : α → α → Prop) (as : List α) : Prop :=
  ∃ i j : Fin as.length, j < i ∧ same as[j] as[i]

/-- **The repeats of a list**: an entry for each position that repeats an earlier one, in order,
with the first position it repeats. -/
def ListsRepeats (same : α → α → Prop) (as : List α) (out : List (α × α)) : Prop :=
  ∃ positions : List (Fin as.length × Fin as.length),
    positions.Pairwise (fun p q => p.1 < q.1) ∧
    (∀ i j, (i, j) ∈ positions ↔ IsRepeat same as i j) ∧
    out = positions.map fun p => (as[p.1], as[p.2])

/-- The first position before `i` that has a property. -/
def firstBefore (p : α → Bool) (as : List α) (i : Fin as.length) : Option (Fin as.length) :=
  (List.finRange as.length).find? fun j => decide (j < i) && p as[j]

theorem firstBefore_eq_some_iff {p : α → Bool} {as : List α} {i j : Fin as.length} :
    firstBefore p as i = some j ↔ j < i ∧ p as[j] = true ∧ ∀ k < j, p as[k] = false := by
  unfold firstBefore
  rw [List.find?_eq_some_iff_getElem]
  simp only [Bool.and_eq_true, decide_eq_true_eq, List.getElem_finRange, Bool.not_eq_true']
  constructor
  · rintro ⟨⟨hlt, hp⟩, n, hn, rfl, hfirst⟩
    refine ⟨hlt, hp, fun k hk => ?_⟩
    have hki : k < i := lt_trans hk hlt
    have := hfirst k hk
    simpa [hki] using this
  · rintro ⟨hlt, hp, hfirst⟩
    refine ⟨⟨hlt, hp⟩, j, by simp, by simp, fun n hn => ?_⟩
    have := hfirst ⟨n, lt_trans hn j.isLt⟩ hn
    simpa using fun _ => this

theorem exists_firstBefore {p : α → Bool} {as : List α} {i j : Fin as.length} (hlt : j < i)
    (hp : p as[j] = true) : ∃ k, firstBefore p as i = some k := by
  unfold firstBefore
  rw [← Option.isSome_iff_exists, List.find?_isSome]
  exact ⟨j, List.mem_finRange j, by rw [hp, Bool.and_true]; exact decide_eq_true hlt⟩

/-- Looking for an element before a position finds the one at the first position. -/
theorem find?_take (p : α → Bool) (as : List α) (i : Fin as.length) :
    (as.take i).find? p = (firstBefore p as i).map fun j => as[j] := by
  apply Option.ext
  intro a
  rw [List.find?_eq_some_iff_getElem, Option.map_eq_some_iff]
  simp only [firstBefore_eq_some_iff, List.getElem_take, List.length_take, Bool.not_eq_true']
  constructor
  · rintro ⟨hp, n, hn, rfl, hfirst⟩
    refine ⟨⟨n, by omega⟩, ⟨?_, hp, fun k hk => hfirst k hk⟩, rfl⟩
    exact Fin.lt_def.2 (by simp only; omega)
  · rintro ⟨j, ⟨hlt, hp, hfirst⟩, rfl⟩
    have hj := j.isLt
    refine ⟨hp, j, by omega, rfl, fun n hn => ?_⟩
    exact hfirst ⟨n, by omega⟩ hn

/-- Each element with the first one before it that passes a test. -/
def foundBefore (test : α → α → Bool) (as : List α) : List (α × α) :=
  (withBefore as).filterMap fun p => (p.1.find? (test · p.2)).map fun first => (p.2, first)

/-- **Looking back lists the repeats of a list**, for any relation that the test decides. -/
theorem listsRepeats_foundBefore {test : α → α → Bool} {same : α → α → Prop} {as : List α}
    (htest : ∀ a ∈ as, ∀ b ∈ as, test a b = true ↔ same a b) :
    ListsRepeats same as (foundBefore test as) := by
  refine ⟨(List.finRange as.length).filterMap fun i =>
    (firstBefore (test · as[i]) as i).map fun j => (i, j), ?_, ?_, ?_⟩
  · apply List.Pairwise.filterMap _ _ (List.pairwise_lt_finRange _)
    intro i i' hlt p hp p' hp'
    obtain ⟨j, -, rfl⟩ := Option.map_eq_some_iff.1 hp
    obtain ⟨j', -, rfl⟩ := Option.map_eq_some_iff.1 hp'
    exact hlt
  · intro i j
    have hsame : ∀ k : Fin as.length, test as[k] as[i] = true ↔ same as[k] as[i] :=
      fun k => htest _ (List.getElem_mem _) _ (List.getElem_mem _)
    simp only [List.mem_filterMap, List.mem_finRange, true_and, Option.map_eq_some_iff,
      firstBefore_eq_some_iff]
    constructor
    · rintro ⟨i', j', ⟨hlt, hp, hfirst⟩, heq⟩
      obtain ⟨rfl, rfl⟩ := Prod.mk.inj heq
      refine ⟨hlt, (hsame _).1 hp, fun k hk hs => ?_⟩
      have := hfirst k hk
      rw [(hsame k).2 hs] at this
      cases this
    · rintro ⟨hlt, hs, hfirst⟩
      refine ⟨i, j, ⟨hlt, (hsame j).2 hs, fun k hk => ?_⟩, rfl⟩
      exact Bool.eq_false_iff.2 fun h => hfirst k hk ((hsame k).1 h)
  · unfold foundBefore
    rw [withBefore_eq, List.filterMap_map, List.map_filterMap]
    apply List.filterMap_congr
    intro i _
    simp only [Function.comp_apply, find?_take, Option.map_map, Function.comp_def]

/-- **`repeats` lists the repeats of a list.** The relation may be any that the keys decide. -/
theorem listsRepeats_repeats [BEq κ] (key : α → κ) {same : α → α → Prop} {as : List α}
    (hkey : ∀ a ∈ as, ∀ b ∈ as, (key a == key b) = true ↔ same a b) :
    ListsRepeats same as (repeats key as) :=
  listsRepeats_foundBefore hkey

/-- A list has its repeats listed in one way only. -/
theorem ListsRepeats.unique {same : α → α → Prop} {as : List α} {out out' : List (α × α)}
    (h : ListsRepeats same as out) (h' : ListsRepeats same as out') : out = out' := by
  obtain ⟨ps, hord, hmem, rfl⟩ := h
  obtain ⟨qs, hord', hmem', rfl⟩ := h'
  have hnd : ps.Nodup := hord.imp fun hlt heq => (heq ▸ hlt).false
  have hnd' : qs.Nodup := hord'.imp fun hlt heq => (heq ▸ hlt).false
  have hperm : ps.Perm qs := (List.perm_ext_iff_of_nodup hnd hnd').2 fun (i, j) => by
    rw [hmem, hmem']
  have heq : ps = qs := hperm.eq_of_pairwise
    (fun p q _ _ hlt hlt' => (lt_asymm hlt hlt').elim) hord hord'
  rw [heq]

/-- A position that is the same as an earlier one repeats the first such position. -/
theorem exists_isRepeat {same : α → α → Prop} {as : List α} {i j : Fin as.length} (hlt : j < i)
    (hs : same as[j] as[i]) : ∃ k, IsRepeat same as i k := by
  classical
  obtain ⟨k, hk⟩ := exists_firstBefore (p := fun b => decide (same b as[i])) hlt
    (decide_eq_true hs)
  obtain ⟨hki, hsk, hfirst⟩ := firstBefore_eq_some_iff.1 hk
  refine ⟨k, hki, by simpa using hsk, fun m hm => ?_⟩
  simpa using hfirst m hm

/-- There is something to list exactly when two positions are the same. -/
theorem ListsRepeats.ne_nil_iff {same : α → α → Prop} {as : List α} {out : List (α × α)}
    (h : ListsRepeats same as out) : out ≠ [] ↔ Shared same as := by
  obtain ⟨positions, -, hmem, rfl⟩ := h
  rw [ne_eq, List.map_eq_nil_iff, List.eq_nil_iff_forall_not_mem]
  constructor
  · intro hne
    push Not at hne
    obtain ⟨⟨i, j⟩, hij⟩ := hne
    have hr := (hmem i j).1 hij
    exact ⟨i, j, hr.lt, hr.repeated⟩
  · rintro ⟨i, j, hlt, hs⟩ hnil
    obtain ⟨k, hk⟩ := exists_isRepeat hlt hs
    exact hnil (i, k) ((hmem i k).2 hk)

/-- **The first repeat of a list**: position `i` repeats position `j`, and up to `i` nothing is
repeated. -/
structure IsFirstRepeat (same : α → α → Prop) (as : List α) (i j : Fin as.length) : Prop extends
    IsRepeat same as i j where
  fresh : ∀ k < i, ∀ l < k, ¬ same as[l] as[k]

theorem IsFirstRepeat.unique {same : α → α → Prop} {as : List α} {i j i' j' : Fin as.length}
    (h : IsFirstRepeat same as i j) (h' : IsFirstRepeat same as i' j') : i = i' ∧ j = j' := by
  have hi : i = i' := by
    rcases lt_trichotomy i i' with hlt | heq | hlt
    · exact absurd h.repeated (h'.fresh i hlt j h.lt)
    · exact heq
    · exact absurd h'.repeated (h.fresh i' hlt j' h'.lt)
  subst hi
  refine ⟨rfl, ?_⟩
  rcases lt_trichotomy j j' with hlt | heq | hlt
  · exact absurd h.repeated (h'.first j hlt)
  · exact heq
  · exact absurd h'.repeated (h.first j' hlt)

/-- What is listed first is the first repeat. -/
theorem ListsRepeats.exists_isFirstRepeat {same : α → α → Prop} {as : List α} {a b : α}
    {out : List (α × α)} (h : ListsRepeats same as ((a, b) :: out)) :
    ∃ i j, IsFirstRepeat same as i j ∧ a = as[i] ∧ b = as[j] := by
  obtain ⟨positions, hord, hmem, heq⟩ := h
  cases positions with
  | nil => cases heq
  | cons p ps =>
    obtain ⟨hhead, -⟩ := List.cons.inj heq
    obtain ⟨ha, hb⟩ := Prod.mk.inj hhead
    have hrepeat : IsRepeat same as p.1 p.2 := (hmem p.1 p.2).1 List.mem_cons_self
    refine ⟨p.1, p.2, ⟨hrepeat, fun k hk l hl hs => ?_⟩, ha, hb⟩
    -- a repeat before this position would be listed before it
    obtain ⟨m, hm⟩ := exists_isRepeat hl hs
    rcases List.mem_cons.1 ((hmem k m).2 hm) with hkm | hkm
    · have hkp : k = p.1 := congrArg Prod.fst hkm
      exact (hkp ▸ hk).false
    · exact lt_asymm hk ((List.pairwise_cons.1 hord).1 (k, m) hkm)

/-! ## Lists of distinct keys -/

/-- **Fresh keys one by one.** A key is fresh at every position exactly when all keys differ. -/
theorem forall_withBefore_fresh [BEq κ] [LawfulBEq κ] (key : α → κ) (as : List α) {P : α → Prop} :
    (∀ p ∈ withBefore as, p.1.any (key · == key p.2) = false ∧ P p.2) ↔
      (as.map key).Nodup ∧ ∀ a ∈ as, P a := by
  rw [withBefore_eq]
  simp only [List.forall_mem_map, List.mem_finRange, forall_const]
  rw [List.Nodup, List.pairwise_map, List.pairwise_iff_getElem]
  constructor
  · intro h
    constructor
    · intro i j hi hj hij heq
      have hmem : as[i] ∈ as.take j := List.mem_take_iff_getElem.2 ⟨i, by omega, rfl⟩
      have := List.any_eq_false.1 (h ⟨j, hj⟩).1 as[i] hmem
      simp [heq] at this
    · intro a ha
      obtain ⟨i, hi, rfl⟩ := List.mem_iff_getElem.1 ha
      exact (h ⟨i, hi⟩).2
  · rintro ⟨hnd, hP⟩ i
    refine ⟨List.any_eq_false.2 fun a ha => ?_, hP _ (List.getElem_mem _)⟩
    obtain ⟨j, hj, rfl⟩ := List.mem_take_iff_getElem.1 ha
    have := hnd j i (by omega) i.isLt (by omega)
    simpa using this

theorem forall_withBefore_iff_nodup [BEq κ] [LawfulBEq κ] (key : α → κ) (as : List α) :
    (∀ p ∈ withBefore as, p.1.any (key · == key p.2) = false) ↔ (as.map key).Nodup := by
  have h := forall_withBefore_fresh key as (P := fun _ => True)
  simpa only [and_true, implies_true] using h

theorem repeats_eq_nil_iff [BEq κ] [LawfulBEq κ] (key : α → κ) (as : List α) :
    repeats key as = [] ↔ (as.map key).Nodup := by
  unfold repeats
  rw [List.filterMap_eq_nil_iff, ← forall_withBefore_iff_nodup]
  apply forall₂_congr
  intro p _
  rw [Option.map_eq_none_iff, List.find?_eq_none, List.any_eq_false]

/-- Where all keys differ, every element is the first of its key. -/
theorem firsts_eq_self [BEq κ] [LawfulBEq κ] {key : α → κ} {as : List α}
    (h : (as.map key).Nodup) : firsts key as = as := by
  have hfresh := (forall_withBefore_iff_nodup key as).2 h
  unfold firsts
  calc
    _ = (withBefore as).filterMap fun p => some p.2 := by
      apply List.filterMap_congr
      intro p hp
      simp only [hfresh p hp, Bool.false_eq_true, if_false]
    _ = as := by rw [List.filterMap_eq_map', map_snd_withBefore]

/-- An element that alone has a property is found by it. -/
theorem find?_eq_some_iff_of_unique {p : α → Bool} {as : List α}
    (h : ∀ a ∈ as, ∀ b ∈ as, p a = true → p b = true → a = b) {a : α} :
    as.find? p = some a ↔ a ∈ as ∧ p a = true := by
  constructor
  · intro hfind
    exact ⟨List.mem_of_find?_eq_some hfind, List.find?_some hfind⟩
  · rintro ⟨ha, hpa⟩
    obtain ⟨b, hb⟩ := Option.isSome_iff_exists.1 (List.find?_isSome.2 ⟨a, ha, hpa⟩)
    rw [hb, h b (List.mem_of_find?_eq_some hb) a ha (List.find?_some hb) hpa]

/-- Where all keys differ, an element is found by its key. -/
theorem find?_eq_some_iff_of_nodup [BEq κ] [LawfulBEq κ] {key : α → κ} {as : List α}
    (h : (as.map key).Nodup) {k : κ} {a : α} :
    as.find? (key · == k) = some a ↔ a ∈ as ∧ key a = k := by
  rw [find?_eq_some_iff_of_unique, beq_iff_eq]
  intro a ha b hb hak hbk
  exact List.inj_on_of_nodup_map h ha hb ((eq_of_beq hak).trans (eq_of_beq hbk).symm)

theorem fst_prefix_of_mem_withBefore {as : List α} {p : List α × α} (h : p ∈ withBefore as) :
    p.1 <+: as := by
  rw [withBefore_eq] at h
  obtain ⟨i, -, rfl⟩ := List.mem_map.1 h
  exact List.take_prefix _ _

/-! ## First elements of their keys -/

theorem withBeforeFrom_concat (before as : List α) (a : α) :
    withBeforeFrom before (as ++ [a]) = withBeforeFrom before as ++ [(before ++ as, a)] := by
  induction as generalizing before with
  | nil => simp [withBeforeFrom]
  | cons b as ih => simp [withBeforeFrom, ih]

/-- What one more element adds to the first elements: itself, if its key is new. -/
theorem firsts_concat [BEq κ] [LawfulBEq κ] (key : α → κ) (as : List α) (a : α) :
    firsts key (as ++ [a]) = firsts key as ++ if key a ∈ as.map key then [] else [a] := by
  have hany : as.any (key · == key a) = true ↔ key a ∈ as.map key := by
    simp only [List.any_eq_true, beq_iff_eq, List.mem_map]
  unfold firsts withBefore
  rw [withBeforeFrom_concat, List.filterMap_append, List.nil_append]
  congr 1
  simp only [List.filterMap_cons, List.filterMap_nil, hany]
  split_ifs <;> rfl

theorem mem_map_firsts [BEq κ] [LawfulBEq κ] {key : α → κ} {as : List α} {k : κ} :
    k ∈ (firsts key as).map key ↔ k ∈ as.map key := by
  induction as using List.reverseRecOn with
  | nil => rfl
  | append_singleton as a ih =>
    rw [firsts_concat, List.map_append, List.map_append, List.mem_append, List.mem_append, ih]
    by_cases hmem : key a ∈ as.map key
    · -- a repeated key is no new one
      rw [if_pos hmem, List.map_singleton, List.mem_singleton]
      constructor
      · intro h
        exact .inl (h.resolve_right List.not_mem_nil)
      · rintro (h | rfl)
        · exact .inl h
        · exact .inl hmem
    · rw [if_neg hmem]

/-- **First elements have keys of their own.** -/
theorem nodup_firsts [BEq κ] [LawfulBEq κ] (key : α → κ) (as : List α) :
    ((firsts key as).map key).Nodup := by
  induction as using List.reverseRecOn with
  | nil => exact List.nodup_nil
  | append_singleton as a ih =>
    rw [firsts_concat, List.map_append]
    by_cases hmem : key a ∈ as.map key
    · rw [if_pos hmem, List.map_nil, List.append_nil]
      exact ih
    · rw [if_neg hmem, List.map_singleton, List.nodup_append_comm, List.singleton_append,
        List.nodup_cons, mem_map_firsts]
      exact ⟨hmem, ih⟩

/-- The first element of a key is found among the first elements as in the whole list. -/
theorem find?_firsts [BEq κ] [LawfulBEq κ] (key : α → κ) (as : List α) (k : κ) :
    (firsts key as).find? (key · == k) = as.find? (key · == k) := by
  induction as using List.reverseRecOn with
  | nil => rfl
  | append_singleton as a ih =>
    rw [firsts_concat, List.find?_append, List.find?_append, ih]
    by_cases hmem : key a ∈ as.map key
    · rw [if_pos hmem, List.find?_nil, Option.or_none]
      by_cases hk : key a = k
      · -- an element of the key stands before, so the last one is not reached
        obtain ⟨b, hb, hba⟩ := List.mem_map.1 hmem
        have hsome : (as.find? (key · == k)).isSome = true :=
          List.find?_isSome.2 ⟨b, hb, by rw [hba, hk, beq_self_eq_true]⟩
        obtain ⟨first, hfirst⟩ := Option.isSome_iff_exists.1 hsome
        rw [hfirst, Option.some_or]
      · rw [List.find?_cons_of_neg (by simpa using hk), List.find?_nil, Option.or_none]
    · rw [if_neg hmem]

end ServiceContract
