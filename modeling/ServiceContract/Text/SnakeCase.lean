/-!
# Snake case

A name in mixed case becomes lower case with an underscore before each inner word. A word starts
at a capital that follows a small letter or a digit, and at the last capital of a run of capitals
when a small letter follows it, so `ListHTTPRoutes` is `list_http_routes`. Only ASCII letters
count; every other character stays as it is.
-/

namespace ServiceContract.Text

/-- Whether a new word starts at `c`, between `prev` and `next`. -/
def startsWord (prev : Option Char) (c : Char) (next : Option Char) : Bool :=
  c.isUpper && match prev with
    | none => false
    | some p => p.isLower || p.isDigit || (p.isUpper && next.any Char.isLower)

/-- Appends to `out`, the result so far in reverse, what the rest of the name gives. An
underscore is written only after some other character. -/
def snakeFrom (prev : Option Char) (out : List Char) : List Char → List Char
  | [] => out.reverse
  | c :: cs =>
    let out := if startsWord prev c cs.head? && out.head? != some '_' then '_' :: out else out
    snakeFrom (some c) (c.toLower :: out) cs

/-- The name in snake case. -/
def snakeCase (name : String) : String :=
  String.ofList (snakeFrom none [] name.toList)

end ServiceContract.Text
