import ServiceContract.Proofs.Identity

/-!
# Histories of joining

A join makes a new error of an old one: it adds causes and may replace the message. What any number
of joins makes of an error can be read off the joins: the last message that is given, and all causes
in order. Errors may be used over and over, as what is joined to and as causes of others. They are
kept in a pool here, to which each step adds one error made of those that are there.

* `StatusError.addAll`: an error after a history of joins.
* `Follows`: what the history says of the error.
* `PoolStep.runAll`: steps on a pool; `RefersBack`: those that can be run.
* `exists_made_of_runAll`, `traced_runAll`: a run changes no error of the pool, and every error of
  the pool has a history in it.
* `join_history`: all of this together.
-/

namespace ServiceContract.Failure

/-- What a join adds to an error: causes, and a message if it replaces the one of the error. -/
structure Addition where
  message : Option String := none
  causes : List ErrorTree := []
  deriving Repr, Inhabited

namespace StatusError

/-- An error after a join. -/
def add (e : StatusError) (a : Addition) : StatusError :=
  match a.message with
  | none => e.join a.causes
  | some message => e.joinWithMessage message a.causes

/-- **An error after a history of joins.** -/
def addAll (e : StatusError) (as : List Addition) : StatusError :=
  as.foldl add e

variable (e : StatusError) (a : Addition) (as : List Addition)

@[simp] theorem addAll_nil : e.addAll [] = e := rfl

@[simp] theorem addAll_cons : e.addAll (a :: as) = (e.add a).addAll as := rfl

theorem addAll_concat : e.addAll (as ++ [a]) = (e.addAll as).add a := by
  unfold addAll
  rw [List.foldl_append]
  rfl

/-! ## One join -/

theorem joinStep_add : JoinStep e (e.add a) := by
  unfold add
  cases a.message with
  | none => exact .join e a.causes
  | some message => exact .joinWithMessage e message a.causes

theorem causes_add : (e.add a).causes = e.causes ++ a.causes := by
  unfold add
  cases a.message <;> rfl

theorem message_add : (e.add a).head.message = a.message.getD e.head.message := by
  unfold add
  cases a.message <;> rfl

theorem join_join (causes causes' : List ErrorTree) :
    (e.join causes).join causes' = e.join (causes ++ causes') := by
  unfold join
  rw [List.append_assoc]

/-! ## Any number of joins -/

theorem joins_addAll : Joins e (e.addAll as) := by
  induction as generalizing e with
  | nil => exact .refl
  | cons a as ih => exact .head (joinStep_add e a) (ih (e.add a))

theorem causes_addAll : (e.addAll as).causes = e.causes ++ as.flatMap (·.causes) := by
  induction as generalizing e with
  | nil => simp
  | cons a as ih => rw [addAll_cons, ih, causes_add, List.flatMap_cons, List.append_assoc]

/-- The message of the last join that gives one. -/
theorem message_addAll :
    (e.addAll as).head.message = (as.filterMap (·.message)).getLast?.getD e.head.message := by
  induction as generalizing e with
  | nil => rfl
  | cons a as ih =>
    rw [addAll_cons, ih, message_add]
    cases ha : a.message with
    | none => rw [List.filterMap_cons_none ha, Option.getD_none]
    | some message => rw [List.filterMap_cons_some ha, List.getLast?_cons]; rfl

end StatusError

/-- **What a history of joins says of the error it leads to.** -/
structure Follows (e : StatusError) (as : List Addition) (r : StatusError) : Prop where
  code : r.head.code = e.head.code
  status : r.head.status = e.head.status
  reason : r.head.reason = e.head.reason
  message : r.head.message = (as.filterMap (·.message)).getLast?.getD e.head.message
  causes : r.causes = e.causes ++ as.flatMap (·.causes)
  source : r.source? = (e.causes ++ as.flatMap (·.causes)).head?
  /-- It is the error it was, at every point of the history. -/
  same : ∀ earlier, earlier <+: as → r.is (e.addAll earlier) = true

theorem follows_addAll (e : StatusError) (as : List Addition) : Follows e as (e.addAll as) := by
  have hjoins := e.joins_addAll as
  have hhead := hjoins.head_eq
  refine ⟨?_, ?_, ?_, e.message_addAll as, e.causes_addAll as, ?_, ?_⟩
  · rw [hhead]
  · rw [hhead]
  · rw [hhead]
  · exact congrArg List.head? (e.causes_addAll as)
  · intro earlier _
    rw [hjoins.is_eq (e.joins_addAll earlier)]
    exact StatusHead.same_iff.2 ⟨rfl, rfl⟩

/-! ## Pools -/

/-- An error that is given as a cause: one from outside, a member of the pool, or one from outside
that has a given error as its source. -/
inductive Given where
  | foreign (text : String)
  | member (i : Nat)
  | wrapping (text : String) (source : Given)
  deriving Repr, Inhabited

namespace Given

/-- The error that is given. -/
def resolve (pool : List StatusError) : Given → Option ErrorTree
  | .foreign text => some (.other text none)
  | .member i => pool[i]?.map (·.toTree)
  | .wrapping text source => (source.resolve pool).map fun t => .other text (some t)

/-- The members of a pool that are used. -/
def members : Given → List Nat
  | .foreign _ => []
  | .member i => [i]
  | .wrapping _ source => source.members

end Given

/-- A step on a pool: an error from outside enters it, or causes are joined to a member. -/
inductive PoolStep where
  | enter (e : StatusError)
  | join (base : Nat) (message : Option String) (causes : List Given)
  deriving Repr, Inhabited

namespace PoolStep

/-- The error that a step makes. -/
def make? (pool : List StatusError) : PoolStep → Option StatusError
  | .enter e => some e
  | .join base message causes => do
    return (← pool[base]?).add ⟨message, ← causes.mapM (·.resolve pool)⟩

/-- The pool after a step. -/
def run (pool : List StatusError) (step : PoolStep) : Option (List StatusError) :=
  (step.make? pool).map fun e => pool ++ [e]

/-- **The pool after some steps.** -/
def runAll (pool : List StatusError) (steps : List PoolStep) : Option (List StatusError) :=
  steps.foldlM run pool

/-- The members of a pool that a step uses. -/
def members : PoolStep → List Nat
  | .enter _ => []
  | .join base _ causes => base :: causes.flatMap (·.members)

/-- The error that a step brings from outside. -/
def entered : PoolStep → List StatusError
  | .enter e => [e]
  | .join _ _ _ => []

/-- **Every step refers to errors that are in the pool by then**, which has `size` members at
first. -/
def RefersBack (size : Nat) : List PoolStep → Prop
  | [] => True
  | step :: steps => (∀ i ∈ step.members, i < size) ∧ RefersBack (size + 1) steps

end PoolStep

/-- **Every error of a pool has a history**: it comes from one of some origins, and every error on
the way is in the pool. -/
def Traced (origins pool : List StatusError) : Prop :=
  ∀ e ∈ pool, ∃ origin ∈ origins, ∃ as, e = origin.addAll as ∧
    ∀ earlier, earlier <+: as → origin.addAll earlier ∈ pool

variable {pool pool' : List StatusError}

/-! ## What a step makes -/

theorem getElem?_of_grown (h : pool <+: pool') {i : Nat} {e : StatusError}
    (hi : pool[i]? = some e) : pool'[i]? = some e := by
  obtain ⟨rest, rfl⟩ := h
  have hlt : i < pool.length := (List.getElem?_eq_some_iff.1 hi).1
  rw [List.getElem?_append_left hlt, hi]

theorem exists_getElem?_iff {i : Nat} : (∃ e, pool[i]? = some e) ↔ i < pool.length := by
  constructor
  · rintro ⟨e, he⟩
    exact (List.getElem?_eq_some_iff.1 he).1
  · intro hlt
    exact ⟨pool[i], List.getElem?_eq_getElem hlt⟩

namespace Given

theorem exists_resolve_iff (g : Given) :
    (∃ t, g.resolve pool = some t) ↔ ∀ i ∈ g.members, i < pool.length := by
  induction g with
  | foreign text => simp [resolve, members]
  | member i => simpa [resolve, members] using exists_getElem?_iff
  | wrapping text source ih => simpa [resolve, members] using ih

/-- What is given stays the same when the pool grows. -/
theorem resolve_of_grown (h : pool <+: pool') {g : Given} {t : ErrorTree}
    (hg : g.resolve pool = some t) : g.resolve pool' = some t := by
  induction g generalizing t with
  | foreign text => exact hg
  | member i =>
    obtain ⟨e, he, rfl⟩ := Option.map_eq_some_iff.1 hg
    exact Option.map_eq_some_iff.2 ⟨e, getElem?_of_grown h he, rfl⟩
  | wrapping text source ih =>
    obtain ⟨u, hu, rfl⟩ := Option.map_eq_some_iff.1 hg
    exact Option.map_eq_some_iff.2 ⟨u, ih hu, rfl⟩

theorem mapM_resolve_eq_some_iff {gs : List Given} {ts : List ErrorTree} :
    gs.mapM (·.resolve pool) = some ts ↔
      List.Forall₂ (fun g t => g.resolve pool = some t) gs ts := by
  induction gs generalizing ts with
  | nil => simp [eq_comm]
  | cons g gs ih =>
    simp only [List.mapM_cons, Option.bind_eq_bind, Option.bind_eq_some_iff, ih,
      List.forall₂_cons_left_iff, Option.pure_def, Option.some.injEq]
    constructor
    · rintro ⟨t, ht, ts', hts, rfl⟩
      exact ⟨t, ts', ht, hts, rfl⟩
    · rintro ⟨t, ts', ht, hts, rfl⟩
      exact ⟨t, ht, ts', hts, rfl⟩

end Given

namespace PoolStep

variable {step : PoolStep} {steps : List PoolStep} {e : StatusError}

theorem make?_join_eq_some_iff {base : Nat} {message : Option String} {causes : List Given} :
    (join base message causes).make? pool = some e ↔ ∃ b ts, pool[base]? = some b ∧
      List.Forall₂ (fun g t => g.resolve pool = some t) causes ts ∧ b.add ⟨message, ts⟩ = e := by
  simp only [make?, Option.bind_eq_bind, Option.bind_eq_some_iff, Given.mapM_resolve_eq_some_iff,
    Option.pure_def, Option.some.injEq]
  constructor
  · rintro ⟨b, hb, ts, hts, he⟩
    exact ⟨b, ts, hb, hts, he⟩
  · rintro ⟨b, ts, hb, hts, he⟩
    exact ⟨b, hb, ts, hts, he⟩

theorem exists_make?_iff :
    (∃ e, step.make? pool = some e) ↔ ∀ i ∈ step.members, i < pool.length := by
  cases step with
  | enter e => simp [make?, members]
  | join base message causes =>
    have hcauses : (∃ ts, List.Forall₂ (fun g t => Given.resolve pool g = some t) causes ts) ↔
        ∀ i ∈ causes.flatMap (·.members), i < pool.length := by
      rw [exists_forall₂_iff]
      simp only [Given.exists_resolve_iff, List.mem_flatMap]
      exact ⟨fun h i ⟨g, hg, hi⟩ => h g hg i hi, fun h g hg i hi => h i ⟨g, hg, hi⟩⟩
    rw [members, List.forall_mem_cons, ← hcauses, ← exists_getElem?_iff]
    simp only [make?_join_eq_some_iff]
    constructor
    · rintro ⟨e, b, ts, hb, hts, -⟩
      exact ⟨⟨b, hb⟩, ts, hts⟩
    · rintro ⟨⟨b, hb⟩, ts, hts⟩
      exact ⟨_, b, ts, hb, hts, rfl⟩

/-- A step makes the same error when the pool has grown. -/
theorem make?_of_grown (h : pool <+: pool') (he : step.make? pool = some e) :
    step.make? pool' = some e := by
  cases step with
  | enter _ => exact he
  | join base message causes =>
    obtain ⟨b, ts, hb, hts, rfl⟩ := make?_join_eq_some_iff.1 he
    have hts' := hts.imp fun _ _ => Given.resolve_of_grown h
    exact make?_join_eq_some_iff.2 ⟨b, ts, getElem?_of_grown h hb, hts', rfl⟩

/-! ## Runs -/

theorem runAll_cons_eq_some_iff :
    runAll pool (step :: steps) = some pool' ↔
      ∃ e, step.make? pool = some e ∧ runAll (pool ++ [e]) steps = some pool' := by
  unfold runAll run
  rw [List.foldlM_cons, Option.bind_eq_bind, Option.bind_eq_some_iff]
  simp only [Option.map_eq_some_iff, exists_exists_and_eq_and]

/-- **Steps can be run exactly if they refer to errors that are in the pool by then.** -/
theorem exists_runAll_iff :
    (∃ pool', runAll pool steps = some pool') ↔ RefersBack pool.length steps := by
  induction steps generalizing pool with
  | nil => simp [runAll, RefersBack]
  | cons step steps ih =>
    simp only [runAll_cons_eq_some_iff]
    unfold RefersBack
    rw [← exists_make?_iff]
    -- whatever the step makes, the pool has one member more for the steps after it
    have hnext : ∀ e, (∃ pool', runAll (pool ++ [e]) steps = some pool') ↔
        RefersBack (pool.length + 1) steps := by
      intro e
      rw [ih, List.length_append, List.length_singleton]
    constructor
    · rintro ⟨pool', e, he, hrest⟩
      exact ⟨⟨e, he⟩, (hnext e).1 ⟨pool', hrest⟩⟩
    · rintro ⟨⟨e, he⟩, hrest⟩
      obtain ⟨pool', hpool'⟩ := (hnext e).2 hrest
      exact ⟨pool', e, he, hpool'⟩

/-- **A run changes no error of the pool.** It adds one error a step, and in the pool it ends with
each step still makes the error that it made. -/
theorem exists_made_of_runAll (h : runAll pool steps = some pool') :
    ∃ made, pool' = pool ++ made ∧
      List.Forall₂ (fun step e => make? pool' step = some e) steps made := by
  induction steps generalizing pool with
  | nil =>
    cases h
    exact ⟨[], (List.append_nil _).symm, .nil⟩
  | cons step steps ih =>
    obtain ⟨e, he, hrest⟩ := runAll_cons_eq_some_iff.1 h
    obtain ⟨made, hpool', hmade⟩ := ih hrest
    have hpool : pool' = pool ++ e :: made := by
      rw [hpool', List.append_assoc, List.singleton_append]
    have hgrown : pool <+: pool' := ⟨e :: made, hpool.symm⟩
    exact ⟨e :: made, hpool, .cons (make?_of_grown hgrown he) hmade⟩

/-! ## Histories in a pool -/

theorem traced_self (pool : List StatusError) : Traced pool pool := by
  intro e he
  refine ⟨e, he, [], rfl, fun earlier hearlier => ?_⟩
  rw [List.prefix_nil.1 hearlier]
  exact he

/-- A step adds an error that has a history: its own beginning, or the history of what it joins to
and one join more. -/
theorem traced_run {origins : List StatusError} (h : Traced origins pool)
    (he : step.make? pool = some e) : Traced (origins ++ step.entered) (pool ++ [e]) := by
  intro x hx
  rcases List.mem_append.1 hx with hold | hnew
  · obtain ⟨origin, horigin, as, rfl, hway⟩ := h x hold
    refine ⟨origin, List.mem_append_left _ horigin, as, rfl, fun earlier hearlier => ?_⟩
    exact List.mem_append_left _ (hway earlier hearlier)
  · obtain rfl := List.mem_singleton.1 hnew
    cases step with
    | enter e =>
      cases he
      refine ⟨_, List.mem_append_right _ List.mem_cons_self, [], rfl, fun earlier hearlier => ?_⟩
      rw [List.prefix_nil.1 hearlier]
      exact hx
    | join base message causes =>
      obtain ⟨b, ts, hb, -, rfl⟩ := make?_join_eq_some_iff.1 he
      obtain ⟨origin, horigin, as, rfl, hway⟩ := h b (List.mem_of_getElem? hb)
      -- the history of the base is in the pool by now, and the join ends it
      refine ⟨origin, List.mem_append_left _ horigin, as ++ [⟨message, ts⟩], ?_, ?_⟩
      · rw [StatusError.addAll_concat]
      · intro earlier hearlier
        rcases List.prefix_concat_iff.1 hearlier with rfl | hbefore
        · rw [StatusError.addAll_concat]
          exact hx
        · exact List.mem_append_left _ (hway earlier hbefore)

/-- **Every error of a pool has a history in it**, from an error that was there at first or entered
on the way. -/
theorem traced_runAll {origins : List StatusError} (h : Traced origins pool)
    (hrun : runAll pool steps = some pool') :
    Traced (origins ++ steps.flatMap (·.entered)) pool' := by
  induction steps generalizing pool origins with
  | nil =>
    cases hrun
    simpa using h
  | cons step steps ih =>
    obtain ⟨e, he, hrest⟩ := runAll_cons_eq_some_iff.1 hrun
    rw [List.flatMap_cons, ← List.append_assoc]
    exact ih (traced_run h he) hrest

end PoolStep

/-- **The history law of joining**:

* what a history of joins makes of an error has its code, status and reason, the last message that
  was given, its causes and then all that were added in order, and is the error it was at every
  point of the history; joining twice is joining once;
* steps on a pool can be run exactly if they refer to errors that are there by then; a run changes
  no error of the pool, so that in the end every step still makes the error that it made, and every
  error of the pool has a history in it. -/
theorem join_history :
    (∀ (e : StatusError) (as : List Addition), Follows e as (e.addAll as)) ∧
    (∀ (e : StatusError) (causes causes' : List ErrorTree),
      (e.join causes).join causes' = e.join (causes ++ causes')) ∧
    (∀ (pool : List StatusError) (steps : List PoolStep),
      (∃ pool', PoolStep.runAll pool steps = some pool') ↔
        PoolStep.RefersBack pool.length steps) ∧
    ∀ (pool : List StatusError) (steps : List PoolStep) (pool' : List StatusError),
      PoolStep.runAll pool steps = some pool' →
        (∃ made, pool' = pool ++ made ∧
          List.Forall₂ (fun step e => PoolStep.make? pool' step = some e) steps made) ∧
        Traced (pool ++ steps.flatMap (·.entered)) pool' := by
  refine ⟨follows_addAll, StatusError.join_join, fun _ _ => PoolStep.exists_runAll_iff, ?_⟩
  intro pool steps pool' hrun
  have hmade := PoolStep.exists_made_of_runAll hrun
  have htraced := PoolStep.traced_runAll (PoolStep.traced_self pool) hrun
  exact ⟨hmade, htraced⟩

/-- A parcel that is lost. -/
def lostParcel : StatusError :=
  .new 7 404 "PARCEL_LOST" "the parcel is lost"

/-- The loss, a second report of it, a third with words of its own that has both as causes, and one
more report of the loss that has the third as a cause. -/
def parcelReports : List PoolStep :=
  [.enter lostParcel,
    .join 0 none [.foreign "no scan"],
    .join 1 (some "the parcel is gone") [.member 0, .wrapping "while sorting" (.member 1)],
    .join 0 none [.member 2]]

theorem join_history_parcelReports :
    PoolStep.RefersBack 0 parcelReports ∧
    ∃ pool, PoolStep.runAll [] parcelReports = some pool ∧
      pool.map (·.head.message) =
        ["the parcel is lost", "the parcel is lost", "the parcel is gone", "the parcel is lost"] ∧
      pool.map (·.causes.length) = [0, 1, 3, 1] ∧
      Traced [lostParcel] pool :=
  ⟨(join_history.2.2.1 [] parcelReports).1 ⟨_, rfl⟩, _, rfl, rfl, rfl,
    (join_history.2.2.2 [] parcelReports _ rfl).2⟩

end ServiceContract.Failure
