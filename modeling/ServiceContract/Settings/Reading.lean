import ServiceContract.Settings.Basic
import ServiceContract.Toml.Reading

/-!
# Settings in TOML

A settings file is a TOML table with any of the settings, each under its name, and no other key.
What is not given keeps its usual value.
-/

namespace ServiceContract.Settings

open Toml (Item Table)

/-- A choice among names: the name itself, or a table of that name only with nothing in it. -/
def choice? {α : Type} (ofLabel? : String → Option α) : Item → Option α
  | .text s => ofLabel? s
  | .table _ [(name, .table _ [])] => ofLabel? name
  | .table _ [(name, .emptyArray)] => ofLabel? name
  | _ => none

/-- A whole number up to a limit. -/
def naturalUpTo? (limit : Nat) : Item → Option Nat
  | .integer (.ofNat n) => if n ≤ limit then some n else none
  | _ => none

/-- Settings with one of them set. -/
def set? (s : Settings) (key : String) (item : Item) : Option Settings :=
  match key with
  | "options_key" =>
    match item with
    | .text text => some { s with optionsKey := text }
    | _ => none
  | "fallback_status" => do return { s with fallbackStatus := ← naturalUpTo? 65535 item }
  | "unmapped" => do return { s with unmapped := ← choice? Unmapped.ofLabel? item }
  | "error_code_scope" => do return { s with errorCodeScope := ← choice? CodeScope.ofLabel? item }
  | "max_depth" => do return { s with maxDepth := ← naturalUpTo? 18446744073709551615 item }
  | _ => none

/-- The settings of a table. -/
def ofTable? (t : Table) : Option Settings :=
  t.foldlM (fun s (key, item) => s.set? key item) {}

/-- The settings of a TOML text. -/
def ofText? (s : String) : Option Settings := do
  ofTable? (← Table.ofText? s)

end ServiceContract.Settings
