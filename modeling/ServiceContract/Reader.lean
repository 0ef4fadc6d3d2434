import ServiceContract.Json.Mismatch

/-!
# Readers of records

A record is read field by field into a blank record. `Record` describes the fields once;
`Reader` is what a format offers: texts, bounded whole numbers, lists, records and maps of
untyped values. A format supplies a `Reader`, and every record type is read through it.
-/

namespace ServiceContract

/-- One field of a record: its key, whether it must be present, and how a value fills it in. -/
structure Slot (m : Type → Type) (ν α : Type) where
  key : String
  required : Bool
  fill : ν → α → m α

/-- A record: its name in messages, the record before anything is read, its fields in order, and
whether fields of other names are refused. -/
structure Record (m : Type → Type) (ν α : Type) where
  title : String
  blank : α
  slots : List (Slot m ν α)
  exact : Bool := false

/-- What a format offers to those who read records from it. -/
structure Reader (m : Type → Type) (ν : Type) where
  text : ν → m String
  optionalText : ν → m (Option String)
  natural32 : ν → m UInt32
  integer32 : ν → m Int32
  list : {α : Type} → (ν → m α) → ν → m (List α)
  record : {α : Type} → Record m ν α → ν → m α
  values : ν → m (List (String × Json))

namespace Record

variable {m : Type → Type} {ν α : Type} [Monad m]

/-- Takes in one keyed value. The state is the list of keys read and the record so far; `fail`
reports a mismatch and `skip` passes over the value of an unknown field. -/
def step (rec : Record m ν α) (fail : {β : Type} → Mismatch → m β) (skip : ν → m Unit)
    (state : List String × α) (key : String) (value : ν) : m (List String × α) :=
  match rec.slots.find? (·.key == key) with
  | some slot =>
    if state.1.contains key then fail (.repeated key)
    else do return (key :: state.1, ← slot.fill value state.2)
  | none =>
    if rec.exact then fail (.unknown key (rec.slots.map (·.key)))
    else do
      skip value
      return state

/-- The record, once every required field was read. -/
def finish (rec : Record m ν α) (fail : {β : Type} → Mismatch → m β)
    (state : List String × α) : m α :=
  match rec.slots.find? fun s => s.required && !state.1.contains s.key with
  | some slot => fail (.missing slot.key)
  | none => pure state.2

/-- The words for the length of a record written as a list. -/
def lengthWords (rec : Record m ν α) : String :=
  rec.title ++ " with " ++ toString rec.slots.length ++ " elements"

/-- Takes in values by position; `ended` is run when there are fewer values than fields. Gives
the record and the values left over. -/
def fillItems (rec : Record m ν α) (fail : {β : Type} → Mismatch → m β) (ended : m Unit)
    (i : Nat) : List (Slot m ν α) → List ν → α → m (α × List ν)
  | [], items, a => pure (a, items)
  | slot :: slots, item :: items, a => do
    fillItems rec fail ended (i + 1) slots items (← slot.fill item a)
  | slot :: slots, [], a => do
    ended
    if slot.required then fail (.wrongLength i rec.lengthWords)
    else fillItems rec fail ended (i + 1) slots [] a

end Record

end ServiceContract
