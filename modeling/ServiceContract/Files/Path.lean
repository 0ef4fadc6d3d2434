import ServiceContract.Text.Pieces

/-!
# Paths

A path is a text with slashes between its names. Slashes at its end, repeated ones, and names
that are a single dot mean nothing, except a dot at its start.
-/

namespace ServiceContract.Files.Path

/-- A path from its end, without slashes and single dots there. A path that starts with a slash
keeps it. -/
def trimmedBack : List Char → List Char
  | ['/'] => ['/']
  | '/' :: rest => trimmedBack rest
  | '.' :: '/' :: rest => trimmedBack ('/' :: rest)
  | cs => cs

/-- The path above the last name; an empty path and a single slash have none. -/
def parent? (path : String) : Option String :=
  match trimmedBack path.toList.reverse with
  | [] => none
  | ['/'] => none
  | back => some (String.ofList (trimmedBack (back.dropWhile (· != '/'))).reverse)

/-- A name under a path. -/
def join (path name : String) : String :=
  if path.isEmpty || path.endsWith "/" then path ++ name else path ++ "/" ++ name

/-- The last name of a path. -/
def lastName (path : String) : List Char :=
  ((trimmedBack path.toList.reverse).takeWhile (· != '/')).reverse

/-- What follows the last dot of the last name; a name that starts with its only dot has no
extension. -/
def extension? (path : String) : Option String :=
  let name := lastName path
  let back := name.reverse
  let extension := (back.takeWhile (· != '.')).reverse
  let before := (back.dropWhile (· != '.')).drop 1
  if name == ['.', '.'] || before.isEmpty then none else some (String.ofList extension)

/-- The names of a path, empty ones included. -/
def names (path : String) : List String :=
  (Text.pieces '/' path.toList).map String.ofList

end ServiceContract.Files.Path
