/-!
# Tables in TOML

The items of a table are texts, whole numbers, empty arrays and tables. A table is written in one
place only: its braces, the dotted keys that lead into it, or its header. Headers of deeper
tables may come before its own.

* `Toml.Table.assign`: sets a dotted key.
* `Toml.Table.head`: gives a table its header.
-/

namespace ServiceContract.Toml

/-- Where a table is written: between braces, by dotted keys, under a header, or so far only as
part of the header of a deeper one. -/
inductive Origin where
  | braces
  | dotted
  | header
  | implied
  deriving DecidableEq, Repr, Inhabited

/-- An item of a table. -/
inductive Item where
  | text (s : String)
  | integer (n : Int)
  | emptyArray
  | table (origin : Origin) (entries : List (String × Item))
  deriving Repr, Inhabited

/-- The entries of a table. -/
abbrev Table := List (String × Item)

namespace Table

/-- The item of a key. -/
def find? (t : Table) (key : String) : Option Item :=
  (List.find? (·.1 == key) t).map (·.2)

/-- Sets a key, which keeps its place if it was there. -/
def set (t : Table) (key : String) (item : Item) : Table :=
  if t.any (·.1 == key) then t.map fun e => if e.1 == key then (key, item) else e
  else t ++ [(key, item)]

/-- Sets a dotted key that is not there yet. It leads through tables that dotted keys wrote. -/
def assign (item : Item) : List String → Table → Option Table
  | [], _ => none
  | [key], t =>
    match t.find? key with
    | none => some (t.set key item)
    | some _ => none
  | key :: keys, t =>
    match t.find? key with
    | none => do return t.set key (.table .dotted (← assign item keys []))
    | some (.table .dotted inner) => do return t.set key (.table .dotted (← assign item keys inner))
    | some _ => none

/-- Gives a table its header, which it does not have yet. -/
def head : List String → Table → Option Table
  | [], _ => none
  | [key], t =>
    match t.find? key with
    | none => some (t.set key (.table .header []))
    | some (.table .implied inner) => some (t.set key (.table .header inner))
    | some _ => none
  | key :: keys, t =>
    match t.find? key with
    | none => do return t.set key (.table .implied (← head keys []))
    | some (.table .braces _) => none
    | some (.table origin inner) => do return t.set key (.table origin (← head keys inner))
    | some _ => none

/-- Changes the table that a header leads to. -/
def under (change : Table → Option Table) : List String → Table → Option Table
  | [], t => change t
  | key :: keys, t =>
    match t.find? key with
    | some (.table origin inner) => do return t.set key (.table origin (← under change keys inner))
    | _ => none

end Table

end ServiceContract.Toml
