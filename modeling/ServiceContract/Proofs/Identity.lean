import Mathlib.Logic.Relation
import ServiceContract.Proofs.Reordering

/-!
# The identity of errors

A status error is known by its code and its reason. Joining causes to it keeps both, so it stays
the error it was made as, and the search for an error among causes finds those that the causes
were made from and no others.

* `Joins`: what an error becomes by joining, in any number of steps.
* `Arises`: a tree that joining and wrapping build from described errors, with the descriptors
  that it is built from.
* `hasCause_iff_of_arises`: the search looks at every error of such a tree.
* `errors_identified`: codes that differ tell the errors of a bundle apart, however they are
  joined.
-/

namespace ServiceContract

namespace Failure

theorem StatusHead.same_iff {a b : StatusHead} :
    a.same b = true ↔ a.code = b.code ∧ a.reason = b.reason := by
  simp only [StatusHead.same, Bool.and_eq_true, beq_iff_eq]

/-! ## Searching causes -/

namespace ErrorTree

variable {target : StatusHead}

theorem anyHasCause_iff (ts : List ErrorTree) :
    anyHasCause target ts = true ↔ ∃ t ∈ ts, t.hasCause target = true := by
  induction ts with
  | nil => simp [anyHasCause]
  | cons t ts ih => simp [anyHasCause, ih]

/-- The search looks into every cause, though it treats the first one apart. -/
theorem hasCause_status_iff (head : StatusHead) (causes : List ErrorTree) :
    (status head causes).hasCause target = true ↔
      head.same target = true ∨ ∃ t ∈ causes, t.hasCause target = true := by
  cases causes with
  | nil => simp [hasCause]
  | cons first later => simp [hasCause, anyHasCause_iff, or_comm]

end ErrorTree

/-! ## Joining -/

namespace StatusError

/-- One step of joining: causes are added, and the message may be replaced. -/
inductive JoinStep : StatusError → StatusError → Prop
  | join (e : StatusError) (causes : List ErrorTree) : JoinStep e (e.join causes)
  | joinWithMessage (e : StatusError) (message : String) (causes : List ErrorTree) :
      JoinStep e (e.joinWithMessage message causes)

/-- **What an error becomes by joining**, in any number of steps. -/
def Joins : StatusError → StatusError → Prop := Relation.ReflTransGen JoinStep

variable {a b e e' : StatusError} {target : StatusHead}

/-- A step of joining changes no more of a head than its message. -/
theorem JoinStep.head_eq (h : JoinStep e e') :
    e'.head = { e.head with message := e'.head.message } := by
  cases h <;> rfl

theorem Joins.head_eq (h : Joins a e) : e.head = { a.head with message := e.head.message } := by
  induction h with
  | refl => rfl
  | tail _ hstep ih => rw [hstep.head_eq, ih]

/-- **Joining keeps which error an error is.** -/
theorem Joins.is_eq (h : Joins a e) (h' : Joins b e') : e.is e' = a.is b := by
  unfold StatusError.is
  rw [h.head_eq, h'.head_eq]
  rfl

theorem hasCause_join_iff (causes : List ErrorTree) :
    (e.join causes).toTree.hasCause target = true ↔
      e.toTree.hasCause target = true ∨ ∃ t ∈ causes, t.hasCause target = true := by
  unfold toTree join
  rw [ErrorTree.hasCause_status_iff, ErrorTree.hasCause_status_iff, or_assoc]
  simp only [List.mem_append, or_and_right, exists_or]

/-- A message has no part in the search. -/
theorem hasCause_joinWithMessage (message : String) (causes : List ErrorTree) :
    (e.joinWithMessage message causes).toTree.hasCause target =
      (e.join causes).toTree.hasCause target := by
  unfold toTree
  rw [Bool.eq_iff_iff, ErrorTree.hasCause_status_iff, ErrorTree.hasCause_status_iff]
  rfl

end StatusError

/-! ## Errors from descriptors -/

/-- **A tree of described errors**: every status error in it is created from one of the descriptors
`emitted` and joined with such trees, or stands behind other errors that wrap it. The list is of
the descriptors that were used, one for each creation. -/
inductive Arises (emitted : List ErrorDescriptor) : ErrorTree → List ErrorDescriptor → Prop
  | created {d : ErrorDescriptor} (h : d ∈ emitted) :
      Arises emitted (StatusError.ofDescriptor d).toTree [d]
  | joined {e : StatusError} {used : List ErrorDescriptor}
      {causes : List (ErrorTree × List ErrorDescriptor)} (h : Arises emitted e.toTree used)
      (hcauses : ∀ p ∈ causes, Arises emitted p.1 p.2) :
      Arises emitted (e.join (causes.map (·.1))).toTree (used ++ causes.flatMap (·.2))
  | joinedWithMessage {e : StatusError} {used : List ErrorDescriptor} (message : String)
      {causes : List (ErrorTree × List ErrorDescriptor)} (h : Arises emitted e.toTree used)
      (hcauses : ∀ p ∈ causes, Arises emitted p.1 p.2) :
      Arises emitted (e.joinWithMessage message (causes.map (·.1))).toTree
        (used ++ causes.flatMap (·.2))
  | foreign (text : String) : Arises emitted (.other text none) []
  | wrapped (text : String) {t : ErrorTree} {used : List ErrorDescriptor}
      (h : Arises emitted t used) : Arises emitted (.other text (some t)) used

variable {emitted used : List ErrorDescriptor} {t : ErrorTree} {d d' : ErrorDescriptor}

theorem Arises.subset (h : Arises emitted t used) : used ⊆ emitted := by
  induction h with
  | created h => simpa using h
  | joined _ _ ih ihcauses | joinedWithMessage _ _ _ ih ihcauses =>
    apply List.append_subset.2 ⟨ih, ?_⟩
    intro d hd
    obtain ⟨p, hp, hdp⟩ := List.mem_flatMap.1 hd
    exact ihcauses p hp hdp
  | foreign => exact List.nil_subset _
  | wrapped _ _ ih => exact ih

/-- Whether a target is one of the errors of some descriptors. -/
def Describes (ds : List ErrorDescriptor) (target : StatusHead) : Prop :=
  ∃ d ∈ ds, (StatusError.ofDescriptor d).head.same target = true

theorem describes_append (ds ds' : List ErrorDescriptor) (target : StatusHead) :
    Describes (ds ++ ds') target ↔ Describes ds target ∨ Describes ds' target := by
  unfold Describes
  simp only [List.mem_append, or_and_right, exists_or]

/-- What is found in causes is what one of them is built from. -/
theorem exists_hasCause_iff {causes : List (ErrorTree × List ErrorDescriptor)} {target : StatusHead}
    (h : ∀ p ∈ causes, p.1.hasCause target = true ↔ Describes p.2 target) :
    (∃ t ∈ causes.map (·.1), t.hasCause target = true) ↔
      Describes (causes.flatMap (·.2)) target := by
  constructor
  · rintro ⟨t, ht, hfound⟩
    obtain ⟨p, hp, rfl⟩ := List.mem_map.1 ht
    obtain ⟨d, hd, hsame⟩ := (h p hp).1 hfound
    exact ⟨d, List.mem_flatMap.2 ⟨p, hp, hd⟩, hsame⟩
  · rintro ⟨d, hd, hsame⟩
    obtain ⟨p, hp, hdp⟩ := List.mem_flatMap.1 hd
    exact ⟨p.1, List.mem_map_of_mem hp, (h p hp).2 ⟨d, hdp, hsame⟩⟩

/-- **The search finds the errors that a tree is built from and no others**, at any depth. -/
theorem hasCause_iff_of_arises (h : Arises emitted t used) (target : StatusHead) :
    t.hasCause target = true ↔ Describes used target := by
  -- by how the tree arose: a join adds to what was used what its causes are built from
  induction h with
  | @created d _ =>
    unfold StatusError.toTree
    rw [ErrorTree.hasCause_status_iff]
    simp [Describes, StatusError.ofDescriptor, StatusError.new]
  | joined _ _ ih ihcauses =>
    rw [StatusError.hasCause_join_iff, ih, exists_hasCause_iff ihcauses, describes_append]
  | joinedWithMessage _ _ _ ih ihcauses =>
    rw [StatusError.hasCause_joinWithMessage, StatusError.hasCause_join_iff, ih,
      exists_hasCause_iff ihcauses, describes_append]
  | foreign => simp [Describes, ErrorTree.hasCause]
  | wrapped _ _ ih => rw [ErrorTree.hasCause, ih]

/-- Among descriptors of different codes, those of the same error are equal. -/
theorem is_ofDescriptor_iff (hcodes : (emitted.map (·.code)).Nodup) (hd : d ∈ emitted)
    (hd' : d' ∈ emitted) :
    (StatusError.ofDescriptor d).is (.ofDescriptor d') = true ↔ d = d' := by
  unfold StatusError.is
  rw [StatusHead.same_iff]
  constructor
  · rintro ⟨hcode, -⟩
    exact List.inj_on_of_nodup_map hcodes hd hd' (Int32.toInt_inj.1 hcode)
  · rintro rfl
    exact ⟨rfl, rfl⟩

theorem describes_iff_mem (hcodes : (emitted.map (·.code)).Nodup) (hused : used ⊆ emitted)
    (hd : d ∈ emitted) : Describes used (StatusError.ofDescriptor d).head ↔ d ∈ used := by
  constructor
  · rintro ⟨d', hd', hsame⟩
    rwa [← (is_ofDescriptor_iff hcodes (hused hd') hd).1 hsame]
  · intro hmem
    exact ⟨d, hmem, (is_ofDescriptor_iff hcodes hd hd).2 rfl⟩

/-- The errors of a contract have codes of their own. -/
theorem ErrorContract.nodup_codes {e : Schema.Enum} {fallback : Nat} {k : ErrorContract}
    (h : ofEnum e fallback = .ok k) : (k.values.map (·.code)).Nodup := by
  unfold ofEnum at h
  split at h
  · cases h
  · next hrepeats =>
    cases h
    rw [List.map_map]
    exact (repeats_eq_nil_iff _ _).1 hrepeats

end Failure

namespace Bundle

open Failure

variable {s : Schema} {c : Settings} {g : Generation}

theorem nodup_codes_of_mem_errors (h : generate s c = .ok g) {k : ErrorContract}
    (hk : k ∈ g.bundle.errors) : (k.values.map (·.code)).Nodup := by
  obtain ⟨-, rfl⟩ := generate_eq_ok_iff.1 h
  rw [ofSchema_errors] at hk
  obtain ⟨e, -, he⟩ := List.mem_filterMap.1 hk
  unfold contractOf? at he
  split at he
  · split at he
    · next hof => exact ErrorContract.nodup_codes (Option.some.inj he ▸ hof)
    · cases he
  · cases he

theorem nodup_codes_of_scope (h : generate s c = .ok g) (hscope : c.errorCodeScope = .schema) :
    ((g.bundle.errors.flatMap (·.values)).map (·.code)).Nodup := by
  obtain ⟨hconflicts, rfl⟩ := generate_eq_ok_iff.1 h
  exact (conflicts_eq_nil_iff.1 hconflicts).2.2 hscope

/-- **Errors of a bundle are told apart, however they are joined**:

* the descriptors of a contract are different, and what joining makes of the errors of two of them
  is the same error only if the two are one;
* if codes differ in the whole schema, the search in a tree of described errors finds the error of
  a descriptor exactly if the descriptor was used in the tree. -/
theorem errors_identified (s : Schema) (c : Settings) (g : Generation)
    (h : generate s c = .ok g) :
    (∀ k ∈ g.bundle.errors, k.values.Nodup ∧
      ∀ d ∈ k.values, ∀ d' ∈ k.values, ∀ e e', StatusError.Joins (.ofDescriptor d) e →
        StatusError.Joins (.ofDescriptor d') e' → (e.is e' = true ↔ d = d')) ∧
    (c.errorCodeScope = .schema →
      (g.bundle.errors.flatMap (·.values)).Nodup ∧
      ∀ t used, Arises (g.bundle.errors.flatMap (·.values)) t used →
        ∀ d ∈ g.bundle.errors.flatMap (·.values),
          (t.hasCause (StatusError.ofDescriptor d).head = true ↔ d ∈ used)) := by
  refine ⟨fun k hk => ?_, fun hscope => ?_⟩
  · have hcodes := nodup_codes_of_mem_errors h hk
    refine ⟨hcodes.of_map, fun d hd d' hd' e e' he he' => ?_⟩
    rw [he.is_eq he', is_ofDescriptor_iff hcodes hd hd']
  · have hcodes := nodup_codes_of_scope h hscope
    refine ⟨hcodes.of_map, fun t used ht d hd => ?_⟩
    rw [hasCause_iff_of_arises ht, describes_iff_mem hcodes ht.subset hd]

/-- A schema of two enums of errors, with reasons that are the same. -/
def payments : Schema where
  package := "payments"
  enums := [
    ⟨"Card", some 402, [
      ⟨"DECLINED", 1, none, some "refused", none⟩, ⟨"EXPIRED", 2, none, some "refused", none⟩]⟩,
    ⟨"Network", none, [⟨"TIMEOUT", 10, some 504, none, some "no answer"⟩]⟩]

/-- An error that wraps one with two causes, the second of them a status error. -/
def checkout (declined timeout : ErrorDescriptor) : ErrorTree :=
  .other "checkout" (some ((StatusError.ofDescriptor declined).joinWithMessage "late"
    [.other "retry" none, (StatusError.ofDescriptor timeout).toTree]).toTree)

theorem arises_checkout {emitted : List ErrorDescriptor} {declined timeout : ErrorDescriptor}
    (hdeclined : declined ∈ emitted) (htimeout : timeout ∈ emitted) :
    Arises emitted (checkout declined timeout) [declined, timeout] := by
  have hcauses : ∀ p ∈ [(ErrorTree.other "retry" none, []),
      ((StatusError.ofDescriptor timeout).toTree, [timeout])], Arises emitted p.1 p.2 := by
    simpa using ⟨Arises.foreign "retry", Arises.created htimeout⟩
  exact .wrapped _ (.joinedWithMessage _ (.created hdeclined) hcauses)

theorem errors_identified_payments :
    ∃ g declined expired timeout,
      generate payments { errorCodeScope := .schema } = .ok g ∧
      g.bundle.errors.flatMap (·.values) = [declined, expired, timeout] ∧
      declined.reason = expired.reason ∧
      (∀ e e', StatusError.Joins (.ofDescriptor declined) e →
        StatusError.Joins (.ofDescriptor expired) e' → (e.is e' = true ↔ declined = expired)) ∧
      ∀ d ∈ [declined, expired, timeout],
        ((checkout declined timeout).hasCause (StatusError.ofDescriptor d).head = true ↔
          d ∈ [declined, timeout]) := by
  have h := errors_identified payments { errorCodeScope := .schema } _ rfl
  refine ⟨_, _, _, _, rfl, rfl, rfl, ?_, ?_⟩
  · exact (h.1 _ List.mem_cons_self).2 _ List.mem_cons_self _
      (List.mem_cons_of_mem _ List.mem_cons_self)
  · exact (h.2 rfl).2 _ _ (arises_checkout List.mem_cons_self
      (List.mem_cons_of_mem _ (List.mem_cons_of_mem _ List.mem_cons_self)))

end Bundle

end ServiceContract
