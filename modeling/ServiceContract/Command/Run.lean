import ServiceContract.Bundle.Generate
import ServiceContract.Bundle.Report
import ServiceContract.Command.Basic
import ServiceContract.Schema.Load
import ServiceContract.Yaml.Reading

/-!
# Running commands

A run reads a store and leaves a store. It ends in success, in failure with issues told, or in a
trouble.

* `Command.generation`: what the schema gives, shared by all commands.
* `Command.run`: the outcome of a command.
-/

namespace ServiceContract.Command

open Files (Store)

/-- How a run ends: whether it succeeds, what it prints and tells, and the store it leaves. -/
structure Outcome where
  result : Except Trouble Bool
  printed : String := ""
  told : String := ""
  store : Store
  deriving Inhabited

/-- The document at a path, in YAML if the path has the extension `yaml` or `yml`, else in
JSON. -/
def document (store : Store) (path : String) : Except Trouble Document := do
  let text ← (store.read path).mapError (Trouble.readSchema path)
  let extension? := Files.Path.extension? path
  if extension? == some "yaml" || extension? == some "yml" then
    match Document.ofYamlText? text with
    | some d => .ok d
    | none => .error (.parseYaml path)
  else (Document.ofJsonText text).mapError (Trouble.parseJson path)

/-- What the schema of a command gives: a generation, or the issues that forbid one. -/
def generation (c : Command) (store : Store) :
    Except Trouble (Except (List Issue) Bundle.Generation) := do
  let settings ← c.overrides.settings store c.schema
  let d ← document store c.schema
  return do Bundle.generate (← Schema.load d) settings

/-- Puts a text into a folder, which is created if need be. The store left has what was done. -/
def save (store : Store) (folder path text : String) : Store × Except Trouble Unit :=
  match store.createFolders folder with
  | .error e => (store, .error (.createFolder folder e))
  | .ok store =>
    match store.write path text with
    | .error e => (store, .error (.writeFile path e))
    | .ok store => (store, .ok ())

/-- Writes a bundle, and its report if asked for. -/
def Generation.save (g : Generation) (store : Store) (b : Bundle) : Store × Except Trouble Unit :=
  match Command.save store g.output g.bundlePath (b.text g.format) with
  | (store, .error t) => (store, .error t)
  | (store, .ok ()) =>
    if g.report then Command.save store g.output g.reportPath b.report else (store, .ok ())

/-- The outcome of a run that fails with issues and changes nothing. -/
def refused (store : Store) (issues : List Issue) : Outcome :=
  { result := .ok false, told := Issue.report issues, store := store }

/-- The outcome of a run that succeeds, prints a text and changes nothing. -/
def showing (store : Store) (text : String) : Outcome :=
  { result := .ok true, printed := text, store := store }

/-- What a command does with a generation. -/
def act (c : Command) (store : Store) (made : Bundle.Generation) : Outcome :=
  match c.action with
  | .generate g =>
    if made.isComplete || g.allowPartial then
      match g.save store made.bundle with
      | (store, .error t) => { result := .error t, store := store }
      | (store, .ok ()) =>
        showing store ("✅ Generated " ++ toString made.bundle.operations.length ++
          " operation(s) into " ++ g.bundlePath ++ "\n")
    else refused store made.failures
  | .check =>
    if made.isComplete then
      showing store ("✅ " ++ c.schema ++ ": " ++ toString made.bundle.operations.length ++
        " operation(s), " ++ toString made.bundle.errors.length ++ " error contract(s)\n")
    else refused store made.failures
  | .inspect (some format) => showing store (made.bundle.text format)
  | .inspect none => showing store made.bundle.report

/-- The outcome of a command on a store. -/
def run (c : Command) (store : Store) : Outcome :=
  match c.generation store with
  | .error t => { result := .error t, store := store }
  | .ok (.error issues) => refused store issues
  | .ok (.ok made) => c.act store made

end ServiceContract.Command
