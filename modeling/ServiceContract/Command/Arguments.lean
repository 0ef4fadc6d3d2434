import ServiceContract.Command.Basic

/-!
# Arguments

The words of a command line: flags, then the name of a command, then its options.

* An option's value is attached (`--schema=a`, `-sa`, `-s=a`) or is the next word, unless that
  starts with a dash and more.
* An attached value is checked at once. A value in a word of its own is checked when the next
  option is met, or at the end.
* After `--` no word is an option, and no command takes such a word.
-/

namespace ServiceContract.Command

/-- Why words are no command line, or ask for a text about the program instead. -/
inductive Usage where
  | displayHelp
  | displayVersion
  | displayHelpOnMissing
  | missingSubcommand
  | invalidSubcommand
  | unknownArgument
  | argumentConflict
  | tooManyValues
  | invalidValue
  | valueValidation
  | missingRequired
  deriving DecidableEq, Repr, Inhabited

/-- The name of a usage outcome. -/
def Usage.label : Usage → String
  | .displayHelp => "DisplayHelp"
  | .displayVersion => "DisplayVersion"
  | .displayHelpOnMissing => "DisplayHelpOnMissingArgumentOrSubcommand"
  | .missingSubcommand => "MissingSubcommand"
  | .invalidSubcommand => "InvalidSubcommand"
  | .unknownArgument => "UnknownArgument"
  | .argumentConflict => "ArgumentConflict"
  | .tooManyValues => "TooManyValues"
  | .invalidValue => "InvalidValue"
  | .valueValidation => "ValueValidation"
  | .missingRequired => "MissingRequiredArgument"

/-- What an option sets. -/
inductive Switch where
  | schema
  | config
  | optionsKey
  | fallbackStatus
  | unmapped
  | errorCodeScope
  | maxDepth
  | output
  | format
  | allowPartial
  | report
  | dump
  | verbose
  | help
  | version
  deriving DecidableEq, Repr, Inhabited

namespace Switch

/-- The name after two dashes. -/
def long : Switch → String
  | .schema => "schema"
  | .config => "config"
  | .optionsKey => "options-key"
  | .fallbackStatus => "fallback-status"
  | .unmapped => "unmapped"
  | .errorCodeScope => "error-code-scope"
  | .maxDepth => "max-depth"
  | .output => "output"
  | .format => "format"
  | .allowPartial => "allow-partial"
  | .report => "report"
  | .dump => "dump"
  | .verbose => "verbose"
  | .help => "help"
  | .version => "version"

/-- The letter after one dash. -/
def short? : Switch → Option Char
  | .schema => some 's'
  | .config => some 'c'
  | .output => some 'o'
  | .format => some 'f'
  | .verbose => some 'v'
  | .help => some 'h'
  | .version => some 'V'
  | _ => none

/-- Whether an option has a value. -/
def takesValue : Switch → Bool
  | .allowPartial | .report | .verbose | .help | .version => false
  | _ => true

end Switch

/-- The names of commands. -/
inductive Verb where
  | generate
  | check
  | inspect
  deriving DecidableEq, Repr, Inhabited

namespace Verb

/-- The command of a name. -/
def ofName? : String → Option Verb
  | "generate" => some .generate
  | "check" => some .check
  | "inspect" => some .inspect
  | _ => none

/-- The options of every command. -/
def shared : List Switch :=
  [.schema, .config, .optionsKey, .fallbackStatus, .unmapped, .errorCodeScope, .maxDepth,
    .verbose, .help]

/-- The options of a command. -/
def switches : Verb → List Switch
  | .generate => shared ++ [.output, .format, .allowPartial, .report]
  | .check => shared
  | .inspect => shared ++ [.dump]

end Verb

/-- The options before the name of a command. -/
def leadingSwitches : List Switch := [.verbose, .help, .version]

/-- What options have set so far. -/
structure Answers where
  given : List Switch := []
  schema : Option String := none
  overrides : Settings.Overrides := {}
  generation : Generation := {}
  dump : Option Bundle.Format := none
  deriving DecidableEq, Repr, Inhabited

/-- A value, or the reason why there is none. -/
def orUsage {α : Type} (u : Usage) : Option α → Except Usage α
  | some a => .ok a
  | none => .error u

/-- A path is any text but the empty one. -/
def pathValue (s : String) : Except Usage String :=
  if s.isEmpty then .error .invalidValue else .ok s

/-- A status is a whole number of 16 bits, with an optional sign. -/
def statusValue (s : String) : Except Usage Nat :=
  match Text.integerIn? 10 s.toList with
  | some (.ofNat n) => if n ≤ 65535 then .ok n else .error .valueValidation
  | _ => .error .valueValidation

/-- A depth is a whole number of 64 bits, with an optional plus sign. -/
def depthValue (s : String) : Except Usage Nat :=
  match Text.natural? s.toList with
  | some n => if n ≤ 18446744073709551615 then .ok n else .error .valueValidation
  | none => .error .valueValidation

namespace Answers

/-- Sets the value of an option. -/
def set (a : Answers) (value : String) : Switch → Except Usage Answers
  | .schema => do return { a with schema := some (← pathValue value) }
  | .config => do return { a with overrides.file := some (← pathValue value) }
  | .optionsKey => .ok { a with overrides.optionsKey := some value }
  | .fallbackStatus => do return { a with overrides.fallbackStatus := some (← statusValue value) }
  | .unmapped => do
    let policy ← orUsage .invalidValue (Settings.Unmapped.ofLabel? value)
    return { a with overrides.unmapped := some policy }
  | .errorCodeScope => do
    let scope ← orUsage .invalidValue (Settings.CodeScope.ofLabel? value)
    return { a with overrides.errorCodeScope := some scope }
  | .maxDepth => do return { a with overrides.maxDepth := some (← depthValue value) }
  | .output => do return { a with generation.output := ← pathValue value }
  | .format => do
    return { a with generation.format := ← orUsage .invalidValue (Bundle.Format.ofLabel? value) }
  | .dump => do
    return { a with dump := some (← orUsage .invalidValue (Bundle.Format.ofLabel? value)) }
  | _ => .ok a

/-- Notes that an option is given, which it may be only once. -/
def note (a : Answers) (w : Switch) : Except Usage Answers :=
  if a.given.contains w then .error .argumentConflict
  else .ok { a with given := w :: a.given }

/-- Takes an option with its value, if it has one. -/
def take (a : Answers) (w : Switch) : Option String → Except Usage Answers
  | none => .error .invalidValue
  | some value => do (← a.note w).set value w

/-- Sets a flag. -/
def flag (a : Answers) : Switch → Except Usage Answers
  | .help => .error .displayHelp
  | .version => .error .displayVersion
  | w => do
    let a ← a.note w
    match w with
    | .allowPartial => return { a with generation.allowPartial := true }
    | .report => return { a with generation.report := true }
    | _ => return a

/-- Whether a flag was given. -/
def verbose (a : Answers) : Bool := a.given.contains .verbose

/-- The command of a name with these options. -/
def command (a : Answers) (v : Verb) : Except Usage Command := do
  let schema ← orUsage .missingRequired a.schema
  let action := match v with
    | .generate => Action.generate a.generation
    | .check => .check
    | .inspect => .inspect a.dump
  return ⟨schema, a.overrides, action⟩

end Answers

/-- What is set so far, and the option whose value is not checked yet, with the value if there
was one. -/
structure Progress where
  answers : Answers := {}
  pending : Option (Switch × Option String) := none
  deriving DecidableEq, Repr, Inhabited

namespace Progress

/-- Checks the value that waits. -/
def settle (p : Progress) : Except Usage Answers :=
  match p.pending with
  | none => .ok p.answers
  | some (w, value?) => p.answers.take w value?

/-- Meets a flag. -/
def flag (p : Progress) (w : Switch) : Except Usage Progress := do
  return { answers := ← (← p.settle).flag w }

/-- Meets an option with an attached value. -/
def attached (p : Progress) (w : Switch) (value : String) : Except Usage Progress := do
  return { answers := ← (← p.settle).take w (some value) }

/-- Meets an option whose value is the next word. -/
def awaiting (p : Progress) (w : Switch) : Except Usage Progress := do
  return { answers := ← p.settle, pending := some (w, none) }

/-- Meets a name after two dashes. -/
def long (known : List Switch) (p : Progress) (word : List Char) : Except Usage Progress := do
  let (name, value?) := match Text.cut? '=' word with
    | some (name, value) => (name, some (String.ofList value))
    | none => (word, none)
  let w ← orUsage .unknownArgument (known.find? (·.long.toList == name))
  match value?, w.takesValue with
  | some value, true => p.attached w value
  | some _, false => .error .tooManyValues
  | none, true => p.awaiting w
  | none, false => p.flag w

/-- Meets letters after one dash. The first option with a value takes what follows. -/
def letters (known : List Switch) : Progress → List Char → Except Usage Progress
  | p, [] => .ok p
  | p, c :: cs => do
    let w ← orUsage .unknownArgument (known.find? (·.short? == some c))
    if w.takesValue then
      match cs with
      | [] => p.awaiting w
      | '=' :: value => p.attached w (String.ofList value)
      | value => p.attached w (String.ofList value)
    else letters known (← p.flag w) cs

end Progress

/-- The kinds of words. -/
inductive Word where
  | escape
  | long (cs : List Char)
  | letters (cs : List Char)
  | plain (s : String)
  deriving DecidableEq, Repr, Inhabited

/-- The kind of a word. A single dash is a plain word. -/
def Word.ofText (s : String) : Word :=
  match s.toList with
  | ['-', '-'] => .escape
  | '-' :: '-' :: cs => .long cs
  | '-' :: c :: cs => .letters (c :: cs)
  | _ => .plain s

/-- The options of a command from the words after its name. -/
def options (known : List Switch) : Progress → List String → Except Usage Answers
  | p, [] => p.settle
  | p, word :: words =>
    match Word.ofText word with
    | .escape => if words.isEmpty then p.settle else .error .unknownArgument
    | .long cs => do options known (← p.long known cs) words
    | .letters cs => do options known (← p.letters known cs) words
    | .plain s =>
      match p.pending with
      | some (w, none) => options known { p with pending := some (w, some s) } words
      | _ => .error .unknownArgument

/-- What the word `help` asks for: help on the program or on one command. -/
def helpOn : List String → Usage
  | [] => .displayHelp
  | [name] =>
    if name == "help" || (Verb.ofName? name).isSome then .displayHelp else .invalidSubcommand
  | _ => .invalidSubcommand

/-- What is missing where no command is named. -/
def unnamed (p : Progress) : Usage :=
  if p.answers.given.isEmpty then .displayHelpOnMissing else .missingSubcommand

/-- A command line: the command and whether to log more. -/
structure Line where
  verbose : Bool
  command : Command
  deriving DecidableEq, Repr, Inhabited

/-- The command line of words, after flags that were met before. -/
def lineAfter : Progress → List String → Except Usage Line
  | p, [] => .error (unnamed p)
  | p, word :: words =>
    match Word.ofText word with
    | .escape =>
      match words with
      | [] => .error (unnamed p)
      | name :: _ =>
        .error (if name == "help" || (Verb.ofName? name).isSome then .unknownArgument
          else .invalidSubcommand)
    | .long cs => do lineAfter (← p.long leadingSwitches cs) words
    | .letters cs => do lineAfter (← p.letters leadingSwitches cs) words
    | .plain "help" => .error (helpOn words)
    | .plain name => do
      let v ← orUsage .invalidSubcommand (Verb.ofName? name)
      let answers ← options v.switches {} words
      return ⟨p.answers.verbose || answers.verbose, ← answers.command v⟩

/-- The command line of words. -/
def Line.ofWords (words : List String) : Except Usage Line :=
  lineAfter {} words

end ServiceContract.Command
