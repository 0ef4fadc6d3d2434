import ServiceContract.Proofs.Identity

/-!
# Errors among causes

An error is a tree: below a status error stand all its causes, below any other error its source. The
search for an error follows first causes and sources and looks into the later causes on its way. It
comes to every error of the tree, whatever position of cause and however many other errors lie
between.

* `Within`: the errors of a tree, at any depth.
* `wellFounded_below`: going down a tree ends.
* `hasCause_eq`, `below_iff`: the search follows the sources, and misses nothing on its way.
* `hasCause_iff_exists_within`: the search finds what is in the tree and nothing else.
-/

namespace ServiceContract.Failure

namespace ErrorTree

/-- The errors right below an error: all causes of a status error, the source of any other. -/
def children : ErrorTree → List ErrorTree
  | .status _ causes => causes
  | .other _ source => source.toList

/-- What an error says of itself, if it is a status error. -/
def head? : ErrorTree → Option StatusHead
  | .status head _ => some head
  | .other _ _ => none

/-- The causes that were joined to an error. -/
def causes : ErrorTree → List ErrorTree
  | .status _ causes => causes
  | .other _ _ => []

/-- Whether the first error stands right below the second. -/
def Below (u t : ErrorTree) : Prop := u ∈ t.children

/-- **The errors of a tree**: its root, and those below it at any depth. -/
def Within (u t : ErrorTree) : Prop := Relation.ReflTransGen Below u t

variable {t u : ErrorTree} {target : StatusHead}

theorem sizeOf_lt_of_below (h : Below u t) : sizeOf u < sizeOf t := by
  cases t with
  | status head causes =>
    have hlt : sizeOf u < sizeOf causes := List.sizeOf_lt_of_mem h
    rw [status.sizeOf_spec]
    omega
  | other text source =>
    cases Option.mem_toList.1 h
    rw [other.sizeOf_spec, Option.some.sizeOf_spec]
    omega

/-- **Going down a tree ends**, on whatever way. -/
theorem wellFounded_below : WellFounded Below :=
  Subrelation.wf sizeOf_lt_of_below (measure sizeOf).wf

/-! ## One turn of the search -/

theorem anyHasCause_eq (ts : List ErrorTree) :
    anyHasCause target ts = ts.any (hasCause target) := by
  induction ts with
  | nil => rfl
  | cons t ts ih => rw [anyHasCause, ih, List.any_cons]

/-- **The search follows the sources.** At each error it looks at the error itself and into its
later causes, and goes on with the source. -/
theorem hasCause_eq (t : ErrorTree) (target : StatusHead) :
    t.hasCause target = (t.head?.any (·.same target) || (t.causes.drop 1).any (hasCause target) ||
      t.source?.any (hasCause target)) := by
  cases t with
  | status head causes =>
    cases causes with
    | nil => simp [hasCause, head?, ErrorTree.causes, source?]
    | cons first later =>
      simp [hasCause, head?, ErrorTree.causes, source?, anyHasCause_eq, Bool.or_assoc]
  | other text source =>
    cases source with
    | none => simp [hasCause, head?, ErrorTree.causes, source?]
    | some source => simp [hasCause, head?, ErrorTree.causes, source?]

/-- **What stands right below an error** are its later causes and its source: no cause is missed,
for the source is the first of them. -/
theorem below_iff : Below u t ↔ u ∈ t.causes.drop 1 ∨ t.source? = some u := by
  cases t with
  | status head causes =>
    cases causes with
    | nil => simp [Below, children, ErrorTree.causes, source?]
    | cons first later =>
      simp only [Below, children, ErrorTree.causes, source?, List.mem_cons, List.drop_one,
        List.tail_cons, List.head?_cons, Option.some.injEq]
      rw [or_comm, eq_comm]
  | other text source => simp [Below, children, ErrorTree.causes, source?]

/-- The search at one error: the error itself, then everything right below it. -/
theorem hasCause_iff_below :
    t.hasCause target = true ↔
      (∃ e : StatusError, t = e.toTree ∧ e.head.same target = true) ∨
        ∃ u, Below u t ∧ u.hasCause target = true := by
  have hroot : t.head?.any (·.same target) = true ↔
      ∃ e : StatusError, t = e.toTree ∧ e.head.same target = true := by
    cases t with
    | status head causes =>
      constructor
      · intro hsame
        exact ⟨⟨head, causes⟩, rfl, hsame⟩
      · rintro ⟨e, he, hsame⟩
        cases he
        exact hsame
    | other text source =>
      refine iff_of_false Bool.false_ne_true ?_
      rintro ⟨e, he, -⟩
      cases he
  rw [hasCause_eq, Bool.or_eq_true, Bool.or_eq_true, hroot, or_assoc, List.any_eq_true,
    Option.any_eq_true]
  simp only [below_iff, or_and_right, exists_or]

/-! ## The whole search -/

/-- **The search finds the errors of a tree and nothing else.** -/
theorem hasCause_iff_exists_within :
    t.hasCause target = true ↔
      ∃ e : StatusError, Within e.toTree t ∧ e.head.same target = true := by
  constructor
  · -- down the tree: what is found below an error lies within it
    induction t using wellFounded_below.induction with
    | _ t ih =>
      intro h
      obtain ⟨e, rfl, hsame⟩ | ⟨u, hu, hfound⟩ := hasCause_iff_below.1 h
      · exact ⟨e, .refl, hsame⟩
      · obtain ⟨e, he, hsame⟩ := ih u hu hfound
        exact ⟨e, he.tail hu, hsame⟩
  · -- up from the error: every error above it passes on that it is found
    rintro ⟨e, hwithin, hsame⟩
    induction hwithin with
    | refl => exact hasCause_iff_below.2 (.inl ⟨e, rfl, hsame⟩)
    | tail _ hu ih => exact hasCause_iff_below.2 (.inr ⟨_, hu, ih⟩)

end ErrorTree

/-- **The search among causes is exact**:

* it finds a status error exactly if one of its code and reason is somewhere in the tree;
* at each error it looks at the error itself and into its later causes, then it goes on with the
  source;
* an error with further causes has what it had, and what one of those causes has;
* no tree can be descended without end, so the search comes to an end on each. -/
theorem search_exact :
    (∀ (t : ErrorTree) (target : StatusError), t.hasCause target.head = true ↔
      ∃ e : StatusError, ErrorTree.Within e.toTree t ∧ e.head.code = target.head.code ∧
        e.head.reason = target.head.reason) ∧
    (∀ (t : ErrorTree) (target : StatusError), t.hasCause target.head =
      (t.head?.any (·.same target.head) || (t.causes.drop 1).any (·.hasCause target.head) ||
        t.source?.any (·.hasCause target.head))) ∧
    (∀ (e : StatusError) (causes : List ErrorTree) (target : StatusError),
      (e.join causes).hasCause target = true ↔
        e.hasCause target = true ∨ ∃ c ∈ causes, c.hasCause target.head = true) ∧
    WellFounded ErrorTree.Below := by
  refine ⟨fun t target => ?_, fun t target => ErrorTree.hasCause_eq t target.head,
    fun e causes target => ?_, ErrorTree.wellFounded_below⟩
  · simp only [ErrorTree.hasCause_iff_exists_within, StatusHead.same_iff]
  · exact StatusError.hasCause_join_iff causes

end ServiceContract.Failure
