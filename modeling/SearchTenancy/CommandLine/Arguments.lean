import SearchTenancy.Dict

/-!
# Command line arguments

The arguments name a tenant and a logical index by options and then a command. The
options come before the command; only `put` has one of its own. An option takes the
next argument as its value unless that starts with a dash, or has its value attached.
After `--` every argument stands for itself.

Arguments are read from left to right, and a fault that is met on the way comes before
anything that is missing at the end. An option whose value is an argument of its own is
entered only when the reading goes on to another known option or to a word of the command,
or ends; only then does it count as given twice. The last option in front of the command
is entered after the command has been read.
-/

namespace SearchTenancy.CommandLine

/-- A command on a logical index. -/
inductive Command where
  | put (objectId : Option String) (body : String)
  | get (objectId : String)
  | getMany (objectIds : List String)
  | delete (objectId : String)
  | query (request : String)
  | batch (requests : String)
  | saveSettings (settings : String)
  | getSettings
  | move (destination : String)
  | drop
  | stats
  deriving DecidableEq

/-- What the arguments say. -/
structure Arguments where
  tenant : String
  index : String
  command : Command
  deriving DecidableEq

/-- Why arguments are not run. -/
inductive Usage where
  | unknownArgument
  | invalidSubcommand
  | missingRequiredArgument
  | missingSubcommand
  | invalidValue
  | tooManyValues
  | argumentConflict
  | displayHelp
  | displayVersion
  | displayHelpOnMissingArgumentOrSubcommand
  deriving DecidableEq

/-- The name of a reason. -/
def Usage.name : Usage → String
  | unknownArgument => "UnknownArgument"
  | invalidSubcommand => "InvalidSubcommand"
  | missingRequiredArgument => "MissingRequiredArgument"
  | missingSubcommand => "MissingSubcommand"
  | invalidValue => "InvalidValue"
  | tooManyValues => "TooManyValues"
  | argumentConflict => "ArgumentConflict"
  | displayHelp => "DisplayHelp"
  | displayVersion => "DisplayVersion"
  | displayHelpOnMissingArgumentOrSubcommand => "DisplayHelpOnMissingArgumentOrSubcommand"

/-! ## Options -/

/-- An option with a value. -/
structure OptionSpec where
  long : String
  short : Option Char

/-- The options of one level of the command line. -/
structure Level where
  options : List OptionSpec
  /-- Whether there is a flag that asks for the version. -/
  hasVersion : Bool

/-- An argument by its form. -/
inductive Token where
  /-- Everything after it stands for itself. -/
  | escape
  | long (name : String) (value : Option String)
  | short (letter : Char) (rest : List Char)
  | word (text : String)

/-- The form of an argument. A single dash is a word. -/
def Token.ofArgument (argument : String) : Token :=
  match argument.toList with
  | ['-', '-'] => escape
  | '-' :: '-' :: rest =>
    let name := rest.takeWhile (· ≠ '=')
    match rest.drop name.length with
    | [] => long (String.ofList name) none
    | _ :: value => long (String.ofList name) (some (String.ofList value))
  | '-' :: letter :: rest => short letter rest
  | _ => word argument

/-- An option that is not entered yet, with its value if that has been met. -/
structure PendingOption where
  name : String
  value : Option String

/-- The options read so far: those that are entered, and the one that is not. -/
structure Options where
  entered : Entries String
  pending : Option PendingOption

namespace Options

/-- No options. -/
def none : Options := ⟨[], .none⟩

/-- Enters an option with its value; no option is given twice. -/
def enter (options : Options) (name value : String) : Except Usage Options :=
  if options.entered.contains name then .error .argumentConflict
  else .ok ⟨options.entered.insert name value, .none⟩

/-- Enters the option that is not entered yet; it has to have its value. -/
def settle (options : Options) : Except Usage Options :=
  match options.pending with
  | .none => .ok options
  | some ⟨_, .none⟩ => .error .invalidValue
  | some ⟨name, some value⟩ => options.enter name value

/-- Takes a word as the value of the option that waits for one; `none` if no option does. -/
def supply? (options : Options) (word : String) : Option Options :=
  match options.pending with
  | some ⟨name, .none⟩ => some { options with pending := some ⟨name, some word⟩ }
  | _ => .none

/-- An option with an attached value, which is entered at once, or one that waits for its value. -/
def start (options : Options) (name : String) (value : Option String) : Except Usage Options := do
  let options ← options.settle
  match value with
  | some value => options.enter name value
  | .none => return { options with pending := some ⟨name, .none⟩ }

/-- A flag that ends the reading. -/
def flag (options : Options) (answer : Usage) (value : Option String) : Except Usage Options :=
  if value.isSome then .error .tooManyValues
  else do
    let _ ← options.settle
    throw answer

/-- Reads an option in its long form. -/
def long (level : Level) (options : Options) (name : String) (value : Option String) :
    Except Usage Options :=
  if name = "help" then options.flag .displayHelp value
  else if name = "version" ∧ level.hasVersion then options.flag .displayVersion value
  else
    match level.options.find? (·.long == name) with
    | some spec => options.start spec.long value
    | .none => .error .unknownArgument

/-- The value attached to an option in its short form; an equals sign in front of it is dropped. -/
def attached : List Char → Option String
  | [] => .none
  | '=' :: value => some (String.ofList value)
  | value => some (String.ofList value)

/-- Reads an option in its short form. -/
def short (level : Level) (options : Options) (letter : Char) (rest : List Char) : Except Usage Options :=
  if letter = 'h' then options.flag .displayHelp .none
  else if letter = 'V' ∧ level.hasVersion then options.flag .displayVersion .none
  else
    match level.options.find? (·.short == some letter) with
    | some spec => options.start spec.long (attached rest)
    | .none => .error .unknownArgument

end Options

/-! ## Commands -/

/-- How many words a command takes. -/
inductive Arity where
  | none
  | one
  | atMostOne
  | many

/-- Whether a command that has some words takes another. -/
def Arity.takes : Arity → Nat → Bool
  | .none, _ => false
  | .one, n => n == 0
  | .atMostOne, n => n == 0
  | .many, _ => true

/-- A command before its arguments are read: its name, its options, the number of its words, and
what it makes of them. -/
structure CommandSpec where
  name : String
  options : List OptionSpec
  arity : Arity
  build : Entries String → List String → Option Command

/-- A command with one word. -/
def oneWord (name : String) (build : String → Command) : CommandSpec :=
  ⟨name, [], .one, fun _ words => words.head?.map build⟩

/-- A command without words. -/
def noWords (name : String) (command : Command) : CommandSpec := ⟨name, [], .none, fun _ _ => some command⟩

/-- The option of `put`. -/
def objectIdOption : OptionSpec := ⟨"object-id", none⟩

/-- The commands. -/
def commands : List CommandSpec :=
  [⟨"put", [objectIdOption], .one, fun values words =>
      words.head?.map (Command.put (values.get? objectIdOption.long))⟩,
   oneWord "get" .get,
   ⟨"get-many", [], .many, fun _ words => if words.isEmpty then none else some (.getMany words)⟩,
   oneWord "delete" .delete,
   ⟨"query", [], .atMostOne, fun _ words => some (.query (words.head?.getD "\x7b\x7d"))⟩,
   oneWord "batch" .batch,
   oneWord "save-settings" .saveSettings,
   noWords "get-settings" .getSettings,
   oneWord "move" .move,
   noWords "drop" .drop,
   noWords "stats" .stats]

/-- The name of the command that explains the others. -/
def helpCommand : String := "help"

/-- Whether a word names a command. -/
def isCommand (word : String) : Bool := word == helpCommand || commands.any (·.name == word)

/-- Adds words to those of a command, as many as it takes. -/
def addWords (arity : Arity) (words : List String) : List String → Except Usage (List String)
  | [] => .ok words
  | word :: rest =>
    if arity.takes words.length then addWords arity (words ++ [word]) rest else .error .unknownArgument

/-- Reads the arguments of a command: its options and its words. A word too many is met before a
fault of the option that is not entered yet. -/
def readCommand (spec : CommandSpec) (options : Options) (words : List String) :
    List String → Except Usage (Options × List String)
  | [] => return (← options.settle, words)
  | argument :: rest => do
    match Token.ofArgument argument with
    | .escape =>
      let options ←
        if rest.isEmpty || spec.arity.takes words.length then options.settle else pure options
      return (options, ← addWords spec.arity words rest)
    | .long name value => readCommand spec (← options.long ⟨spec.options, false⟩ name value) words rest
    | .short letter others => readCommand spec (← options.short ⟨spec.options, false⟩ letter others) words rest
    | .word word =>
      match options.supply? word with
      | some options => readCommand spec options words rest
      | none =>
        if spec.arity.takes words.length then
          readCommand spec (← options.settle) (words ++ [word]) rest
        else throw .unknownArgument

/-- The command that its arguments give. -/
def parseCommand (spec : CommandSpec) (arguments : List String) : Except Usage Command := do
  let (options, words) ← readCommand spec .none [] arguments
  match spec.build options.entered words with
  | some command => return command
  | none => throw .missingRequiredArgument

/-- Answers a request for help on a command. -/
def helpOn : List String → Usage
  | [] => .displayHelp
  | [name] => if isCommand name then .displayHelp else .invalidSubcommand
  | _ => .invalidSubcommand

/-! ## The whole line -/

/-- The options in front of the command. -/
def mainLevel : Level := ⟨[⟨"tenant", some 't'⟩, ⟨"index", some 'i'⟩], true⟩

/-- Reads a word where a command is due. -/
def startCommand (word : String) (rest : List String) : Except Usage Command :=
  if word = helpCommand then .error (helpOn rest)
  else
    match commands.find? (·.name == word) with
    | some spec => parseCommand spec rest
    | none => .error .invalidSubcommand

/-- Reads the options up to the command, and the command if there is one. -/
def readMain (options : Options) : List String → Except Usage (Options × Option Command)
  | [] => .ok (options, none)
  | argument :: rest => do
    match Token.ofArgument argument with
    | .escape =>
      match rest with
      | [] => return (options, none)
      | word :: _ => throw (if isCommand word then .unknownArgument else .invalidSubcommand)
    | .long name value => readMain (← options.long mainLevel name value) rest
    | .short letter others => readMain (← options.short mainLevel letter others) rest
    | .word word =>
      match options.supply? word with
      | some options => readMain options rest
      | none => return (options, some (← startCommand word rest))

/-- What the arguments say. The tenant may also be given by the environment. -/
def parse (arguments : List String) (environmentTenant : Option String) : Except Usage Arguments := do
  let (options, command) ← readMain .none arguments
  let options ← options.settle
  let tenant := options.entered.get? "tenant" <|> environmentTenant
  match command with
  | none =>
    if options.entered.isEmpty ∧ environmentTenant.isNone then
      throw .displayHelpOnMissingArgumentOrSubcommand
    else throw .missingSubcommand
  | some command =>
    match tenant, options.entered.get? "index" with
    | some tenant, some index => return ⟨tenant, index, command⟩
    | _, _ => throw .missingRequiredArgument

end SearchTenancy.CommandLine
