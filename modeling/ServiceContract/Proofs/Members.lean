import Mathlib.Data.List.Induction
import Mathlib.Data.List.Nodup
import ServiceContract.Proofs.Attempts
import ServiceContract.Reader

/-!
# Records read member by member

A record is read by filling its fields in the order in which their values come. Where each field is
a member of its own, kept apart from the others, that order does not matter: a record is read
exactly when each member is.

* `filled_of_takeIn`, `exists_takeIn_of_filled`: what the entries read so far have filled in.
* `object_eq_ok_iff`: a record from keyed values.
* `items_eq_ok_iff`: a record from values by position.
-/

namespace ServiceContract

variable {ε ν μ α : Type}

/-- The values of a key, in order. -/
def valuesAt (key : String) (entries : List (String × ν)) : List ν :=
  (entries.filter (·.1 == key)).map (·.2)

/-- A member of a record: its key, whether it must be present, how it is read, and where it is
kept. -/
structure Member (ε ν α : Type) where
  {β : Type}
  key : String
  required : Bool
  read : ν → Except ε β
  get : α → β
  set : α → β → α

namespace Member

/-- The field that a member fills in. -/
def slot (p : Member ε ν α) : Slot (Except ε) ν α :=
  ⟨p.key, p.required, fun x a => do return p.set a (← p.read x)⟩

/-- Whether a record has of a member what the entries say, or what it had before any. -/
def Filled (p : Member ε ν α) (blank : α) (entries : List (String × ν)) (a : α) : Prop :=
  (valuesAt p.key entries = [] ∧ p.get a = p.get blank) ∨
    ∃ x, valuesAt p.key entries = [x] ∧ p.read x = .ok (p.get a)

/-- **How a member stands among keyed values**: not at all, if it need not be present, or once. -/
def InObject (p : Member ε ν α) (blank : α) (entries : List (String × ν)) (a : α) : Prop :=
  (valuesAt p.key entries = [] ∧ p.required = false ∧ p.get a = p.get blank) ∨
    ∃ x, valuesAt p.key entries = [x] ∧ p.read x = .ok (p.get a)

/-- **How members stand in a list**: in order, and those that need not be present may be left out
at the end. -/
def InItems (blank a : α) : List (Member ε ν α) → List ν → Prop
  | [], [] => True
  | [], _ :: _ => False
  | p :: members, [] => p.required = false ∧ p.get a = p.get blank ∧ InItems blank a members []
  | p :: members, x :: items => p.read x = .ok (p.get a) ∧ InItems blank a members items

variable {p : Member ε ν α} {members : List (Member ε ν α)} {blank a : α}

theorem inItems_nil : InItems blank a (p :: members) [] ↔
    p.required = false ∧ p.get a = p.get blank ∧ InItems blank a members [] := Iff.rfl

theorem inItems_cons {x : ν} {items : List ν} : InItems blank a (p :: members) (x :: items) ↔
    p.read x = .ok (p.get a) ∧ InItems blank a members items := Iff.rfl

end Member

/-- A report of a mismatch that gives no value. -/
def Refuses (fail : {β : Type} → Mismatch → Except ε β) : Prop :=
  ∀ (β : Type) (m : Mismatch) (y : β), fail m ≠ .ok y

/-- **A record made of members**: they have keys of their own, are kept apart from each other, and
are all that there is to the record. Where record and members are given by lists, each of this is
seen by looking at them. -/
structure Record.MadeOf (rec : Record (Except ε) ν α) (members : List (Member ε ν α)) : Prop where
  slots : rec.slots = members.map Member.slot := by rfl
  notExact : rec.exact = false := by rfl
  keys : (members.map (·.key)).Nodup := by simp
  get_set : ∀ p ∈ members, ∀ a x, p.get (p.set a x) = x := by simp
  get_set_of_ne : ∀ p ∈ members, ∀ q ∈ members, q.key ≠ p.key →
    ∀ a x, q.get (p.set a x) = q.get a := by simp
  ext : ∀ a b, (∀ p ∈ members, p.get a = p.get b) → a = b := by
    rintro ⟨⟩ ⟨⟩ h
    simpa using h

/-! ## Values of a key -/

section Values

variable {key : String} {entries : List (String × ν)}

theorem valuesAt_append (key : String) (entries entries' : List (String × ν)) :
    valuesAt key (entries ++ entries') = valuesAt key entries ++ valuesAt key entries' := by
  unfold valuesAt
  rw [List.filter_append, List.map_append]

theorem valuesAt_cons_self (x : ν) :
    valuesAt key ((key, x) :: entries) = x :: valuesAt key entries := by
  unfold valuesAt
  rw [List.filter_cons_of_pos (by simp), List.map_cons]

theorem valuesAt_cons_of_ne {k : String} (h : k ≠ key) (x : ν) :
    valuesAt key ((k, x) :: entries) = valuesAt key entries := by
  unfold valuesAt
  rw [List.filter_cons_of_neg (by simpa using h)]

theorem valuesAt_concat_self (x : ν) :
    valuesAt key (entries ++ [(key, x)]) = valuesAt key entries ++ [x] := by
  rw [valuesAt_append, valuesAt_cons_self]
  rfl

theorem valuesAt_concat_of_ne {k : String} (h : k ≠ key) (x : ν) :
    valuesAt key (entries ++ [(k, x)]) = valuesAt key entries := by
  rw [valuesAt_append, valuesAt_cons_of_ne h]
  exact List.append_nil _

theorem valuesAt_map (f : ν → μ) (key : String) (entries : List (String × ν)) :
    valuesAt key (entries.map fun e => (e.1, f e.2)) = (valuesAt key entries).map f := by
  unfold valuesAt
  rw [List.filter_map, List.map_map, List.map_map]
  rfl

end Values

namespace Record

variable {rec : Record (Except ε) ν α} {members : List (Member ε ν α)}
  {fail : {β : Type} → Mismatch → Except ε β} {skip : ν → Except ε Unit}
  {entries : List (String × ν)} {seen : List String} {a b : α}

/-- Takes in keyed values one after the other. -/
def takeIn (rec : Record (Except ε) ν α) (fail : {β : Type} → Mismatch → Except ε β)
    (skip : ν → Except ε Unit) (entries : List (String × ν)) : Except ε (List String × α) :=
  entries.foldlM (fun state e => rec.step fail skip state e.1 e.2) ([], rec.blank)

theorem takeIn_concat (key : String) (x : ν) :
    rec.takeIn fail skip (entries ++ [(key, x)]) =
      rec.takeIn fail skip entries >>= fun state => rec.step fail skip state key x := by
  unfold takeIn
  rw [List.foldlM_append]
  simp only [List.foldlM_cons, List.foldlM_nil, bind_pure]

/-! ## Steps -/

theorem MadeOf.find?_slots (h : rec.MadeOf members) (key : String) :
    rec.slots.find? (·.key == key) = (members.find? (·.key == key)).map Member.slot := by
  rw [h.slots, List.find?_map]
  rfl

theorem MadeOf.eq_of_key (h : rec.MadeOf members) {p q : Member ε ν α} (hp : p ∈ members)
    (hq : q ∈ members) (heq : q.key = p.key) : q = p :=
  List.inj_on_of_nodup_map h.keys hq hp heq

/-- A record with one member set has that one and the others as before. -/
theorem MadeOf.eq_set (h : rec.MadeOf members) {p : Member ε ν α} (hp : p ∈ members) {y : p.β}
    (hget : p.get b = y) (hothers : ∀ q ∈ members, q.key ≠ p.key → q.get b = q.get a) :
    b = p.set a y := by
  apply h.ext
  intro q hq
  by_cases hqp : q.key = p.key
  · obtain rfl := h.eq_of_key hp hq hqp
    rw [h.get_set q hq, hget]
  · rw [h.get_set_of_ne p hp q hq hqp, hothers q hq hqp]

/-- A value of an unknown key changes nothing. -/
theorem MadeOf.step_of_unknown (h : rec.MadeOf members) {key : String} {x : ν}
    (hkey : ∀ p ∈ members, p.key ≠ key) {state state' : List String × α}
    (hstep : rec.step fail skip state key x = .ok state') : state' = state := by
  have hnone : members.find? (·.key == key) = none :=
    List.find?_eq_none.2 fun p hp => by simpa using hkey p hp
  unfold step at hstep
  rw [h.find?_slots, hnone, h.notExact] at hstep
  obtain ⟨-, -, hstate⟩ := bind_eq_ok.1 hstep
  exact (Except.ok.inj hstate).symm

theorem MadeOf.step_of_skip (h : rec.MadeOf members) {key : String} {x : ν}
    (hkey : ∀ p ∈ members, p.key ≠ key) (hskip : skip x = .ok ()) (state : List String × α) :
    rec.step fail skip state key x = .ok state := by
  have hnone : members.find? (·.key == key) = none :=
    List.find?_eq_none.2 fun p hp => by simpa using hkey p hp
  unfold step
  rw [h.find?_slots, hnone, h.notExact]
  simp only [Option.map_none, Bool.false_eq_true, if_false, hskip]
  rfl

theorem MadeOf.find?_key (h : rec.MadeOf members) {p : Member ε ν α} (hp : p ∈ members) :
    members.find? (·.key == p.key) = some p := by
  have hsome : (members.find? (·.key == p.key)).isSome = true :=
    List.find?_isSome.2 ⟨p, hp, by simp⟩
  obtain ⟨q, hq⟩ := Option.isSome_iff_exists.1 hsome
  have hkey : q.key = p.key := by simpa using List.find?_some hq
  rw [hq, h.eq_of_key hp (List.mem_of_find?_eq_some hq) hkey]

/-- A value of a member's key is read into it, the first time. -/
theorem MadeOf.step_eq_ok_iff (h : rec.MadeOf members)
    (hfail : Refuses fail) {p : Member ε ν α}
    (hp : p ∈ members) {x : ν} {seen' : List String} :
    rec.step fail skip (seen, a) p.key x = .ok (seen', b) ↔
      p.key ∉ seen ∧ seen' = p.key :: seen ∧ ∃ y, p.read x = .ok y ∧ b = p.set a y := by
  unfold step
  rw [h.find?_slots, h.find?_key hp]
  simp only [Option.map_some, List.contains_eq_mem, decide_eq_true_eq]
  by_cases hseen : p.key ∈ seen
  · rw [if_pos hseen]
    simp only [hseen, not_true_eq_false, false_and, iff_false]
    exact hfail _ _ _
  · rw [if_neg hseen]
    simp only [Member.slot, bind_eq_ok, pure, Except.pure, Except.ok.injEq, Prod.mk.injEq]
    constructor
    · rintro ⟨-, ⟨y, hy, rfl⟩, rfl, rfl⟩
      exact ⟨hseen, rfl, y, hy, rfl⟩
    · rintro ⟨-, rfl, y, hy, rfl⟩
      exact ⟨_, ⟨y, hy, rfl⟩, rfl, rfl⟩

/-! ## Keyed values -/

/-- **What keyed values fill in.** The keys seen are those of the members that have a value. -/
theorem filled_of_takeIn (h : rec.MadeOf members)
    (hfail : Refuses fail)
    (hrun : rec.takeIn fail skip entries = .ok (seen, a)) :
    ∀ p ∈ members, (p.key ∈ seen ↔ valuesAt p.key entries ≠ []) ∧ p.Filled rec.blank entries a := by
  induction entries using List.reverseRecOn generalizing seen a with
  | nil =>
    obtain ⟨rfl, rfl⟩ := Prod.mk.inj (Except.ok.inj hrun)
    intro p _
    exact ⟨by simp [valuesAt], .inl ⟨rfl, rfl⟩⟩
  | append_singleton entries e ih =>
    obtain ⟨key, x⟩ := e
    rw [takeIn_concat, bind_eq_ok] at hrun
    obtain ⟨⟨seen', b⟩, hbefore, hstep⟩ := hrun
    have hold := ih hbefore
    intro q hq
    obtain ⟨hqseen, hqfilled⟩ := hold q hq
    by_cases hkey : ∃ p ∈ members, p.key = key
    · obtain ⟨p, hp, rfl⟩ := hkey
      obtain ⟨hnew, rfl, y, hy, rfl⟩ := (h.step_eq_ok_iff hfail hp).1 hstep
      by_cases hqp : q.key = p.key
      · -- the member read in this step had no value before
        obtain rfl := h.eq_of_key hp hq hqp
        have hnone : valuesAt q.key entries = [] := by
          by_contra hne
          exact hnew (hqseen.2 hne)
        unfold Member.Filled
        rw [valuesAt_concat_self, hnone, List.nil_append, h.get_set q hq]
        exact ⟨by simp, .inr ⟨x, rfl, hy⟩⟩
      · unfold Member.Filled at hqfilled ⊢
        rw [valuesAt_concat_of_ne (Ne.symm hqp), h.get_set_of_ne p hp q hq hqp, ← hqseen,
          List.mem_cons]
        exact ⟨⟨fun hmem => hmem.resolve_left hqp, .inr⟩, hqfilled⟩
    · have hunknown : ∀ p ∈ members, p.key ≠ key := fun p hp hpk => hkey ⟨p, hp, hpk⟩
      obtain ⟨rfl, rfl⟩ := Prod.mk.inj (h.step_of_unknown hunknown hstep)
      unfold Member.Filled
      rw [valuesAt_concat_of_ne (Ne.symm (hunknown q hq))]
      exact ⟨hqseen, hqfilled⟩

/-- **A record that has what keyed values say is read from them.** -/
theorem exists_takeIn_of_filled (h : rec.MadeOf members)
    (hfail : Refuses fail)
    (hskip : ∀ e ∈ entries, skip e.2 = .ok ())
    (hfilled : ∀ p ∈ members, p.Filled rec.blank entries a) :
    ∃ seen, rec.takeIn fail skip entries = .ok (seen, a) := by
  induction entries using List.reverseRecOn generalizing a with
  | nil =>
    have hblank : a = rec.blank := by
      apply h.ext
      intro p hp
      rcases hfilled p hp with ⟨-, hget⟩ | ⟨x, hx, -⟩
      · exact hget
      · cases hx
    exact ⟨[], by rw [hblank]; rfl⟩
  | append_singleton entries e ih =>
    obtain ⟨key, x⟩ := e
    have hskipx : skip x = .ok () := hskip (key, x) (by simp)
    have hskip' : ∀ e ∈ entries, skip e.2 = .ok () :=
      fun e he => hskip e (List.mem_append_left _ he)
    by_cases hkey : ∃ p ∈ members, p.key = key
    · obtain ⟨p, hp, rfl⟩ := hkey
      have hpfilled := hfilled p hp
      unfold Member.Filled at hpfilled
      rw [valuesAt_concat_self] at hpfilled
      obtain ⟨hnone, hread⟩ : valuesAt p.key entries = [] ∧ p.read x = .ok (p.get a) := by
        rcases hpfilled with ⟨hnil, -⟩ | ⟨x', hx', hread⟩
        · simp at hnil
        · obtain ⟨hnone, hxx⟩ := List.append_eq_singleton_iff.1 hx' |>.resolve_right (by simp)
          obtain rfl := List.singleton_inj.1 hxx
          exact ⟨hnone, hread⟩
      -- the record before this step is `a` with the member as it was at the start
      have hbefore : ∀ q ∈ members,
          q.Filled rec.blank entries (p.set a (p.get rec.blank)) := by
        intro q hq
        unfold Member.Filled
        by_cases hqp : q.key = p.key
        · obtain rfl := h.eq_of_key hp hq hqp
          exact .inl ⟨hnone, h.get_set q hq _ _⟩
        · have hqfilled := hfilled q hq
          unfold Member.Filled at hqfilled
          rw [valuesAt_concat_of_ne (Ne.symm hqp)] at hqfilled
          rw [h.get_set_of_ne p hp q hq hqp]
          exact hqfilled
      obtain ⟨seen, hrun⟩ := ih hskip' hbefore
      have hnew : p.key ∉ seen := by
        rw [(filled_of_takeIn h hfail hrun p hp).1, hnone]
        exact fun hne => hne rfl
      have hafter : a = p.set (p.set a (p.get rec.blank)) (p.get a) :=
        h.eq_set hp rfl fun q hq hqp => (h.get_set_of_ne p hp q hq hqp _ _).symm
      refine ⟨p.key :: seen, ?_⟩
      rw [takeIn_concat, bind_eq_ok]
      exact ⟨_, hrun, (h.step_eq_ok_iff hfail hp).2 ⟨hnew, rfl, p.get a, hread, hafter⟩⟩
    · have hunknown : ∀ p ∈ members, p.key ≠ key := fun p hp hpk => hkey ⟨p, hp, hpk⟩
      have hbefore : ∀ q ∈ members, q.Filled rec.blank entries a := by
        intro q hq
        have hqfilled := hfilled q hq
        unfold Member.Filled at hqfilled ⊢
        rwa [valuesAt_concat_of_ne (Ne.symm (hunknown q hq))] at hqfilled
      obtain ⟨seen, hrun⟩ := ih hskip' hbefore
      refine ⟨seen, ?_⟩
      rw [takeIn_concat, bind_eq_ok]
      exact ⟨_, hrun, h.step_of_skip hunknown hskipx _⟩

theorem MadeOf.finish_eq_ok_iff (h : rec.MadeOf members)
    (hfail : Refuses fail) :
    rec.finish fail (seen, a) = .ok b ↔
      b = a ∧ ∀ p ∈ members, p.required = true → p.key ∈ seen := by
  have hnone : (rec.slots.find? fun s => s.required && !seen.contains s.key) = none ↔
      ∀ p ∈ members, p.required = true → p.key ∈ seen := by
    rw [h.slots, List.find?_eq_none, List.forall_mem_map]
    apply forall₂_congr
    intro p _
    simp [Member.slot]
  unfold finish
  rw [← hnone]
  cases hfind : rec.slots.find? fun s => s.required && !seen.contains s.key with
  | none =>
    simp only [pure, Except.pure, Except.ok.injEq, and_true]
    exact eq_comm
  | some s =>
    simp only [reduceCtorEq, and_false, iff_false]
    exact hfail _ _ _

/-- **A record is read from keyed values exactly when each member is.** -/
theorem MadeOf.object_eq_ok_iff (h : rec.MadeOf members)
    (hfail : Refuses fail)
    (hskip : ∀ e ∈ entries, skip e.2 = .ok ()) :
    (rec.takeIn fail skip entries >>= rec.finish fail) = .ok a ↔
      ∀ p ∈ members, p.InObject rec.blank entries a := by
  rw [bind_eq_ok]
  constructor
  · rintro ⟨⟨seen, b⟩, hrun, hfinish⟩ p hp
    obtain ⟨rfl, hpresent⟩ := (h.finish_eq_ok_iff hfail).1 hfinish
    obtain ⟨hseen, ⟨hnone, hget⟩ | hvalue⟩ := filled_of_takeIn h hfail hrun p hp
    · refine .inl ⟨hnone, ?_, hget⟩
      by_contra hreq
      exact hseen.1 (hpresent p hp (by simpa using hreq)) hnone
    · exact .inr hvalue
  · intro hall
    have hfilled : ∀ p ∈ members, p.Filled rec.blank entries a := by
      intro p hp
      rcases hall p hp with ⟨hnone, -, hget⟩ | hvalue
      · exact .inl ⟨hnone, hget⟩
      · exact .inr hvalue
    obtain ⟨seen, hrun⟩ := exists_takeIn_of_filled h hfail hskip hfilled
    refine ⟨_, hrun, (h.finish_eq_ok_iff hfail).2 ⟨rfl, fun p hp hreq => ?_⟩⟩
    rw [(filled_of_takeIn h hfail hrun p hp).1]
    rcases hall p hp with ⟨-, hnot, -⟩ | ⟨x, hx, -⟩
    · rw [hreq] at hnot
      cases hnot
    · rw [hx]
      exact List.cons_ne_nil _ _

/-! ## Values by position -/

section Items

variable {ended : Except ε Unit} {i : Nat} {p : Member ε ν α} {slots : List (Slot (Except ε) ν α)}
  {items : List ν} {left : List ν}

/-- A member that need not be present may be left out at the end. -/
theorem fillItems_nil_eq_ok_iff (hfail : Refuses fail) (hended : ended = .ok ()) :
    rec.fillItems fail ended i (p.slot :: slots) [] b = .ok (a, left) ↔
      p.required = false ∧ rec.fillItems fail ended (i + 1) slots [] b = .ok (a, left) := by
  rw [fillItems, hended, bind_eq_ok]
  simp only [true_and, exists_const]
  by_cases hreq : p.slot.required = true
  · rw [if_pos hreq]
    constructor
    · intro hok
      exact absurd hok (hfail _ _ _)
    · intro hno
      exact absurd hreq (Bool.eq_false_iff.1 hno.1)
  · rw [if_neg hreq]
    exact (and_iff_right (Bool.eq_false_iff.2 hreq)).symm

/-- The next value is read into the next member. -/
theorem fillItems_cons_eq_ok_iff {x : ν} :
    rec.fillItems fail ended i (p.slot :: slots) (x :: items) b = .ok (a, left) ↔
      ∃ y, p.read x = .ok y ∧
        rec.fillItems fail ended (i + 1) slots items (p.set b y) = .ok (a, left) := by
  rw [fillItems, bind_eq_ok]
  simp only [Member.slot, bind_eq_ok, pure, Except.pure, Except.ok.injEq]
  constructor
  · rintro ⟨-, ⟨y, hy, rfl⟩, hrest⟩
    exact ⟨y, hy, hrest⟩
  · rintro ⟨y, hy, hrest⟩
    exact ⟨_, ⟨y, hy, rfl⟩, hrest⟩

theorem inItems_congr {rest : List (Member ε ν α)} {b' : α} (h : ∀ q ∈ rest, q.get b = q.get b') :
    Member.InItems b a rest items ↔ Member.InItems b' a rest items := by
  induction rest generalizing items with
  | nil => cases items <;> rfl
  | cons q rest ih =>
    obtain ⟨hq, hrest⟩ := List.forall_mem_cons.1 h
    cases items with
    | nil => rw [Member.inItems_nil, Member.inItems_nil, hq, ih hrest]
    | cons x items => rw [Member.inItems_cons, Member.inItems_cons, ih hrest]

/-- A record agrees outside some members with one that has `p` set, exactly when it has `p` so
and agrees with the old one outside `p` as well. -/
theorem MadeOf.agrees_set_iff (h : rec.MadeOf members) (hp : p ∈ members) {keys : List String}
    (hkey : p.key ∉ keys) {y : p.β} :
    (∀ q ∈ members, q.key ∉ keys → q.get a = q.get (p.set b y)) ↔
      p.get a = y ∧ ∀ q ∈ members, q.key ∉ p.key :: keys → q.get a = q.get b := by
  simp only [List.mem_cons, not_or]
  constructor
  · intro hall
    refine ⟨?_, fun q hq hqnew => ?_⟩
    · rw [hall p hp hkey, h.get_set p hp]
    · rw [hall q hq hqnew.2, h.get_set_of_ne p hp q hq hqnew.1]
  · rintro ⟨hget, hall⟩ q hq hqnew
    by_cases hqp : q.key = p.key
    · obtain rfl := h.eq_of_key hp hq hqp
      rw [hget, h.get_set q hq]
    · rw [h.get_set_of_ne p hp q hq hqp]
      exact hall q hq ⟨hqp, hqnew⟩

/-- **Reading the members from one on** fills these in and leaves the others as they are. -/
theorem MadeOf.fillItems_eq_ok_iff (h : rec.MadeOf members) (hfail : Refuses fail)
    (hended : ended = .ok ()) {rest : List (Member ε ν α)} (hsub : rest ⊆ members)
    (hkeys : (rest.map (·.key)).Nodup) :
    rec.fillItems fail ended i (rest.map Member.slot) items b = .ok (a, []) ↔
      Member.InItems b a rest items ∧
        ∀ q ∈ members, q.key ∉ rest.map (·.key) → q.get a = q.get b := by
  induction rest generalizing i items b with
  | nil =>
    cases items with
    | nil =>
      simp only [List.map_nil, fillItems, pure, Except.pure, Except.ok.injEq, Prod.mk.injEq,
        and_true, Member.InItems, true_and, List.not_mem_nil, not_false_eq_true, forall_const]
      constructor
      · rintro rfl q _
        rfl
      · intro hall
        exact h.ext _ _ fun q hq => (hall q hq).symm
    | cons x items => simp [fillItems, Member.InItems, pure, Except.pure]
  | cons p rest ih =>
    obtain ⟨hp, hsub⟩ := List.cons_subset.1 hsub
    rw [List.map_cons, List.nodup_cons] at hkeys
    obtain ⟨hpnew, hkeys⟩ := hkeys
    simp only [List.map_cons]
    cases items with
    | nil =>
      -- a member that is left out is as good as set to what it was
      have hkept : b = p.set b (p.get b) := h.eq_set hp rfl fun _ _ _ => rfl
      have hsplit := h.agrees_set_iff hp hpnew (a := a) (b := b) (y := p.get b)
      rw [← hkept] at hsplit
      rw [fillItems_nil_eq_ok_iff hfail hended, ih hsub hkeys, hsplit, Member.inItems_nil]
      tauto
    | cons x items =>
      have hothers : ∀ y : p.β, ∀ q ∈ rest, q.get (p.set b y) = q.get b := by
        intro y q hq
        have hqp : q.key ≠ p.key := fun hqp => hpnew (hqp ▸ List.mem_map_of_mem hq)
        exact h.get_set_of_ne p hp q (hsub hq) hqp _ _
      rw [fillItems_cons_eq_ok_iff]
      simp only [ih hsub hkeys, h.agrees_set_iff hp hpnew, inItems_congr (hothers _),
        Member.inItems_cons]
      constructor
      · rintro ⟨y, hread, hrest, rfl, hall⟩
        exact ⟨⟨hread, hrest⟩, hall⟩
      · rintro ⟨⟨hread, hrest⟩, hall⟩
        exact ⟨p.get a, hread, hrest, rfl, hall⟩

/-- **A record is read from values by position exactly when each member is.** -/
theorem MadeOf.items_eq_ok_iff (h : rec.MadeOf members) (hfail : Refuses fail)
    (hended : ended = .ok ()) :
    rec.fillItems fail ended 0 rec.slots items rec.blank = .ok (a, []) ↔
      Member.InItems rec.blank a members items := by
  rw [h.slots, h.fillItems_eq_ok_iff hfail hended (List.Subset.refl _) h.keys]
  constructor
  · exact And.left
  · intro hitems
    exact ⟨hitems, fun q hq hnot => absurd (List.mem_map_of_mem hq) hnot⟩

end Items

end Record

end ServiceContract
