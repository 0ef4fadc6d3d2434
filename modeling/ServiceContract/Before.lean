/-!
# Elements with those before them

Uniqueness rules look at an element together with the elements declared before it. `withBefore`
gives each element of a list that view, and `repeats` lists the elements whose key occurred
before, each with the first element that has the key.
-/

namespace ServiceContract

variable {α κ : Type}

/-- Each element of a list with the elements before it, where `before` precedes the list. -/
def withBeforeFrom (before : List α) : List α → List (List α × α)
  | [] => []
  | a :: as => (before, a) :: withBeforeFrom (before ++ [a]) as

/-- Each element with the elements before it. -/
def withBefore (as : List α) : List (List α × α) :=
  withBeforeFrom [] as

/-- Each element whose key occurred before, with the first element that has the key. -/
def repeats [BEq κ] (key : α → κ) (as : List α) : List (α × α) :=
  (withBefore as).filterMap fun (before, a) =>
    (before.find? fun b => key b == key a).map fun first => (a, first)

/-- The elements whose key did not occur before. -/
def firsts [BEq κ] (key : α → κ) (as : List α) : List α :=
  (withBefore as).filterMap fun (before, a) =>
    if before.any (key · == key a) then none else some a

end ServiceContract
