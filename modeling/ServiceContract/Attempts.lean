/-!
# Lists of attempts

Elements are worked on independently: those that fail are reported and left out, and the others
are kept in order.
-/

namespace ServiceContract

variable {ε α : Type}

/-- The values of the attempts that succeeded. -/
def successes (attempts : List (Except ε α)) : List α :=
  attempts.filterMap fun
    | .ok a => some a
    | .error _ => none

/-- The errors of the attempts that failed. -/
def failures (attempts : List (Except ε α)) : List ε :=
  attempts.filterMap fun
    | .ok _ => none
    | .error e => some e

end ServiceContract
