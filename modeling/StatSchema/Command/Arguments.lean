import StatSchema.Catalog.Object

/-!
# `StatSchema.Command.Arguments` — reading the command line

A command line is a list of words. A word is the name of a command, an option, the value of the option
before it, or the separator `--`, after which no word is an option. Words are read from left to right
and the first error ends the reading. The value of an option that stands in a word of its own is looked
at only when the next option or the end of the line is reached.

## Contents
- **Commands.** `SubscriberCommand`, `Command`, `UsageError`.
- **Words.** `Word`, `Word.ofString`.
- **Menus.** `menu`, `helpOn`, `choose`: the words up to the name of a command.
- **Options.** `Valued`, `Offer`, `Settings`, `Progress`, `readOptions`: the words after it.
- **Whole lines.** `Command.ofWords`.
-/

namespace StatSchema

/-! ## Commands -/

/-- A command about the subscriber's database. -/
inductive SubscriberCommand where
  | migrate | rollback | status
  deriving DecidableEq, Repr

/-- What the program is asked to do. -/
inductive Command where
  | migrate (steps : Option Nat)
  | rollback (steps : Option Nat)
  | reset
  | status
  | subscriber (command : SubscriberCommand)
  | refresh (maxCost : Cost) (skipTopUp : Bool)
  | catalog
  deriving DecidableEq, Repr

/-- Why a command line yields no command. -/
inductive UsageError where
  | helpRequested
  | versionRequested
  /-- The line ends where the name of a command is due. -/
  | missingCommand
  | unknownCommand
  /-- An unknown option, or a word too many. -/
  | unknownArgument
  /-- A value that its option does not accept. -/
  | invalidValue
  | missingValue
  | repeatedOption
  /-- A value for an option that takes none. -/
  | surplusValue
  deriving DecidableEq, Repr

namespace Arguments

/-! ## Words -/

/-- A word by its form. -/
inductive Word where
  | separator
  /-- A long option, with the value after an equals sign. -/
  | long (name : String) (value : Option String)
  /-- A dash and letters, each of which may be a short option. -/
  | cluster (letters : List Char)
  | plain
  deriving DecidableEq, Repr

/-- The form of a word; a lone dash is no option. -/
def Word.ofString (word : String) : Word :=
  match word.toList with
  | ['-', '-'] => .separator
  | '-' :: '-' :: option =>
    match Text.cutFirst ['='] option with
    | some (name, value) => .long (String.ofList name) (some (String.ofList value))
    | none => .long (String.ofList option) none
  | '-' :: letter :: letters => .cluster (letter :: letters)
  | _ => .plain

/-! ## Menus -/

/-- The names that may follow the command names `path`. -/
def menu : (path : List String) → List String
  | [] => ["migrate", "rollback", "reset", "status", "subscriber", "refresh", "catalog", "help"]
  | ["subscriber"] => ["migrate", "rollback", "status", "help"]
  | _ => []

/-- What asking for help on the command names `path` and then `words` comes to. -/
def helpOn : (path words : List String) → UsageError
  | _, [] => .helpRequested
  | path, word :: words =>
    if word ∈ menu path then helpOn (path ++ [word]) words else .unknownCommand

/-- What a long option in front of a command name comes to. -/
def longError (path : List String) (name : String) (value : Option String) : UsageError :=
  if name = "help" ∨ (name = "version" ∧ path = []) then
    if value.isSome then .surplusValue
    else if name = "help" then .helpRequested
    else .versionRequested
  else .unknownArgument

/-- What short options in front of a command name come to: the first of them decides. -/
def clusterError (path : List String) : List Char → UsageError
  | 'h' :: _ => .helpRequested
  | 'V' :: _ => if path = [] then .versionRequested else .unknownArgument
  | _ => .unknownArgument

/-- The name of a command on the menu of `path`, and the words after it. -/
def choose (path : List String) : List String → Except UsageError (String × List String)
  | [] => .error .missingCommand
  | word :: words =>
    match Word.ofString word with
    | .plain =>
      if word = "help" then .error (helpOn path words)
      else if word ∈ menu path then .ok (word, words)
      else .error .unknownCommand
    | .long name value => .error (longError path name value)
    | .cluster letters => .error (clusterError path letters)
    | .separator =>
      match words with
      | [] => .error .missingCommand
      | word :: _ => .error (if word ∈ menu path then .unknownArgument else .unknownCommand)

/-! ## Options -/

/-- An option that takes a value. -/
inductive Valued where
  | steps | maxCost
  deriving DecidableEq, Repr

/-- The long name of the option. -/
def Valued.longName : Valued → String
  | .steps => "steps"
  | .maxCost => "max-cost"

/-- The letter of the option, if it has one. -/
def Valued.letter? : Valued → Option Char
  | .steps => some 's'
  | .maxCost => none

/-- The options that a command offers. -/
structure Offer where
  valued : List Valued := []
  skipTopUp : Bool := false

/-- The largest number of steps, which fits in thirty-two bits. -/
def largestStepCount : Nat := 4294967295

/-- The options that were given. -/
structure Settings where
  steps : Option Nat := none
  maxCost : Option Cost := none
  skipTopUp : Bool := false

/-- Gives an option its value. That it has one already is noticed before the value is read. -/
def Settings.assign (s : Settings) (option : Valued) (value : String) :
    Except UsageError Settings :=
  match option with
  | .steps =>
    if s.steps.isSome then .error .repeatedOption
    else match Text.signed? largestStepCount value.toList with
      | some steps => .ok { s with steps := some steps }
      | none => .error .invalidValue
  | .maxCost =>
    if s.maxCost.isSome then .error .repeatedOption
    else match Cost.parse value with
      | .ok cost => .ok { s with maxCost := some cost }
      | .error _ => .error .invalidValue

/-- The options read so far. The last one may still wait for its value, or for its value to be read. -/
structure Progress where
  settings : Settings := {}
  open? : Option (Valued × Option String) := none

namespace Progress

/-- Reads the value of the option that is still open. -/
def resolve (p : Progress) : Except UsageError Settings :=
  match p.open? with
  | none => .ok p.settings
  | some (_, none) => .error .missingValue
  | some (option, some value) => p.settings.assign option value

/-- Takes up an option, with its value if the same word holds it. -/
def take (p : Progress) (option : Valued) (value : Option String) : Except UsageError Progress := do
  let settings ← p.resolve
  match value with
  | some value => return { settings := ← settings.assign option value }
  | none => return { settings, open? := some (option, none) }

/-- Takes up the request for help, once the option before it is in order. -/
def help (p : Progress) : Except UsageError Progress := do
  let _ ← p.resolve
  .error .helpRequested

/-- Takes up the option that leaves the top-up out. -/
def skipTopUp (p : Progress) : Except UsageError Progress := do
  let settings ← p.resolve
  if settings.skipTopUp then .error .repeatedOption
  else return { settings := { settings with skipTopUp := true } }

/-- Takes up a long option. -/
def long (p : Progress) (offer : Offer) (name : String) (value : Option String) :
    Except UsageError Progress :=
  match offer.valued.find? (·.longName = name) with
  | some option => p.take option value
  | none =>
    if name = "help" then if value.isSome then .error .surplusValue else p.help
    else if offer.skipTopUp ∧ name = "skip-top-up" then
      if value.isSome then .error .surplusValue else p.skipTopUp
    else .error .unknownArgument

/-- The value in the rest of a word of short options: it may follow an equals sign. -/
def attached : List Char → Option String
  | [] => none
  | '=' :: value => some (String.ofList value)
  | value => some (String.ofList value)

/-- Takes up short options: the first of them ends the reading or takes the rest of the word. -/
def cluster (p : Progress) (offer : Offer) : List Char → Except UsageError Progress
  | [] => .ok p
  | letter :: letters =>
    match offer.valued.find? (·.letter? = some letter) with
    | some option => p.take option (attached letters)
    | none => if letter = 'h' then p.help else .error .unknownArgument

end Progress

/-- Reads the words after the name of a command. -/
def readOptions (offer : Offer) (p : Progress) : List String → Except UsageError Settings
  | [] => p.resolve
  | word :: words =>
    match Word.ofString word with
    | .separator => if words.isEmpty then p.resolve else .error .unknownArgument
    | .long name value =>
      match p.long offer name value with
      | .error error => .error error
      | .ok p => readOptions offer p words
    | .cluster letters =>
      match p.cluster offer letters with
      | .error error => .error error
      | .ok p => readOptions offer p words
    | .plain =>
      match p.open? with
      | some (option, none) => readOptions offer { p with open? := some (option, some word) } words
      | _ => .error .unknownArgument

end Arguments

/-! ## Whole lines -/

open Arguments in
/-- Reads the subscriber's command from the words after its name. -/
def SubscriberCommand.ofWords (words : List String) : Except UsageError SubscriberCommand := do
  let (name, words) ← choose ["subscriber"] words
  let _ ← readOptions {} {} words
  if name = "migrate" then return .migrate
  else if name = "rollback" then return .rollback
  else return .status

open Arguments in
/-- Reads a command line. -/
def Command.ofWords (words : List String) : Except UsageError Command := do
  let (name, words) ← choose [] words
  if name = "subscriber" then return .subscriber (← SubscriberCommand.ofWords words)
  else if name = "refresh" then
    let settings ← readOptions { valued := [.maxCost], skipTopUp := true } {} words
    return .refresh (settings.maxCost.getD .heavy) settings.skipTopUp
  else if name = "migrate" then
    return .migrate (← readOptions { valued := [.steps] } {} words).steps
  else if name = "rollback" then
    return .rollback (← readOptions { valued := [.steps] } {} words).steps
  else
    let _ ← readOptions {} {} words
    if name = "reset" then return .reset
    else if name = "status" then return .status
    else return .catalog

end StatSchema
