import ServiceContract.Issue

/-!
# Values with issues

Interpreting a description goes on after something wrong is found, so that one run reports
everything. `Noted α` is a value together with the issues found on the way to it, in order.
-/

namespace ServiceContract

/-- A value with the issues found on the way to it. -/
structure Noted (α : Type) where
  issues : List Issue
  value : α
  deriving DecidableEq, Repr

namespace Noted

variable {α β : Type}

instance : Monad Noted where
  pure a := ⟨[], a⟩
  bind x f :=
    let y := f x.value
    ⟨x.issues ++ y.issues, y.value⟩

/-- Notes issues. -/
def report (issues : List Issue) : Noted Unit :=
  ⟨issues, ()⟩

/-- Notes what is wrong at a place. -/
def note (place : Place) (cause : Cause) : Noted Unit :=
  report [⟨place, cause⟩]

/-- The value of an attempt; a failed one is noted. -/
def attempt (place : Place) : Except Cause α → Noted (Option α)
  | .ok a => pure (some a)
  | .error cause => ⟨[⟨place, cause⟩], none⟩

/-- Does the same for every element. -/
def each (as : List α) (f : α → Noted β) : Noted (List β) :=
  let ys := as.map f
  ⟨ys.flatMap (·.issues), ys.map (·.value)⟩

/-- Does the same for every element and keeps the values there are. -/
def keep (as : List α) (f : α → Noted (Option β)) : Noted (List β) :=
  let ys := as.map f
  ⟨ys.flatMap (·.issues), ys.filterMap (·.value)⟩

@[simp] theorem issues_pure (a : α) : (pure a : Noted α).issues = [] := rfl

@[simp] theorem value_pure (a : α) : (pure a : Noted α).value = a := rfl

@[simp] theorem issues_bind (x : Noted α) (f : α → Noted β) :
    (x >>= f).issues = x.issues ++ (f x.value).issues := rfl

@[simp] theorem value_bind (x : Noted α) (f : α → Noted β) :
    (x >>= f).value = (f x.value).value := rfl

@[simp] theorem issues_report (issues : List Issue) : (report issues).issues = issues := rfl

@[simp] theorem issues_note (place : Place) (cause : Cause) :
    (note place cause).issues = [⟨place, cause⟩] := rfl

@[simp] theorem issues_each (as : List α) (f : α → Noted β) :
    (each as f).issues = as.flatMap fun a => (f a).issues := by
  simp [each, List.flatMap_map]

@[simp] theorem value_each (as : List α) (f : α → Noted β) :
    (each as f).value = as.map fun a => (f a).value := by
  simp [each]

@[simp] theorem issues_keep (as : List α) (f : α → Noted (Option β)) :
    (keep as f).issues = as.flatMap fun a => (f a).issues := by
  simp [keep, List.flatMap_map]

@[simp] theorem value_keep (as : List α) (f : α → Noted (Option β)) :
    (keep as f).value = as.filterMap fun a => (f a).value := by
  simp only [keep, List.filterMap_map]
  rfl

end Noted

end ServiceContract
