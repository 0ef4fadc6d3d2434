import ServiceContract.Command.Arguments
import ServiceContract.Command.Run

/-!
# The program

Reads the words of the command line, loads the files that the command may touch, runs it, and
writes back what has changed.
-/

namespace ServiceContract

open Files (Store)

/-- The path of names from the root. -/
def absolute (names : List String) : String :=
  "/" ++ "/".intercalate names

/-- The names that a path leads through, from the root. -/
def namesFrom (current : List String) (path : String) : List String :=
  (Files.Path.names path).foldl
    (fun names name =>
      if name.isEmpty || name == "." then names
      else if name == ".." then names.dropLast
      else names ++ [name])
    (if path.startsWith "/" then [] else current)

/-- The store with what stands at some names. -/
def loadSpot (store : Store) (names : List String) : IO Store := do
  if store.hasFolder names || (store.content? names).isSome then return store
  try
    let content ← IO.FS.readBinFile (absolute names)
    return { store with files := store.files ++ [(names, content)] }
  catch
    | .noFileOrDirectory .. => return store
    | .inappropriateType .. => return { store with folders := store.folders ++ [names] }
    | e => throw e

/-- The store with what a path leads through. -/
def loadPath (store : Store) (path : String) : IO Store := do
  let names := namesFrom store.current path
  (Store.foldersOf names ++ [names]).foldlM loadSpot store

/-- Writes back what a run has changed. -/
def writeBack (old new : Store) : IO Unit := do
  for names in new.folders do
    if !old.hasFolder names then IO.FS.createDir (absolute names)
  for (names, text) in Store.changes old new do
    IO.FS.writeFile (absolute names) text

/-- Runs a command on the files it may touch. -/
def perform (c : Command) : IO UInt32 := do
  let current := namesFrom [] (toString (← IO.currentDir))
  let store ← c.paths.foldlM loadPath (Store.ofFiles current [])
  let outcome := c.run store
  writeBack store outcome.store
  IO.print outcome.printed
  IO.eprint outcome.told
  match outcome.result with
  | .ok true => return 0
  | .ok false => return 1
  | .error t =>
    IO.eprintln ("error: " ++ t.message)
    return 1

end ServiceContract

/-- Runs the command line. -/
def main (words : List String) : IO UInt32 := do
  match ServiceContract.Command.Line.ofWords words with
  | .ok line => ServiceContract.perform line.command
  | .error u =>
    IO.eprintln ("error: " ++ u.label)
    return 2
