import SaleSearch.Number.Numeral

/-!
# Arguments

What the arguments of the program ask for. Three options may stand before or after the command;
every other option belongs to its command. Nothing may be given twice at the same place, and a value
that starts with a hyphen has to be attached with an equals sign. A value that is an argument of its
own is only judged when the level goes on to something else, which for the last one in front of the
command is after all that belongs to the command.

* `Ask` is what is asked for, or that the arguments are misused.
* `Ask.ofArguments` reads the arguments.
-/

namespace SaleSearch.CommandLine

/-- The options that every command takes. -/
structure Options where
  /-- The path of a settings file. -/
  config : Option String := none
  /-- The path of a file with known values. -/
  reference : Option String := none
  json : Bool := false
  deriving DecidableEq, Repr

/-- A command with all that it was given. -/
inductive Command where
  | record (query : String)
  | aggregate (query : String) (history : Bool) (now : Option Int)
  | verify (query : String)
  | fold (path : String)
  deriving DecidableEq, Repr

/-- The commands by name alone. -/
inductive CommandName where
  | record
  | aggregate
  | verify
  | fold
  deriving DecidableEq, Repr

namespace CommandName

/-- The commands in the order in which the help lists them. -/
def all : List CommandName := [.record, .aggregate, .verify, .fold]

/-- The word for a command on the command line. -/
def text : CommandName → String
  | .record => "record"
  | .aggregate => "aggregate"
  | .verify => "verify"
  | .fold => "fold"

/-- The command of a word. -/
def ofText? (text : String) : Option CommandName :=
  all.find? fun name => name.text = text

end CommandName

/-- What help is about: the program, one of its commands, or help itself. -/
inductive Topic where
  | program
  | command (name : CommandName)
  | help
  deriving DecidableEq, Repr

/-- What the words after the command for help ask about. -/
def Topic.ofWords? : List String → Option Topic
  | [] => some .program
  | [word] => if word = "help" then some .help else (CommandName.ofText? word).map .command
  | _ => none

/-- What the arguments ask for. Whatever is not understood is `misuse`. -/
inductive Ask where
  | run (options : Options) (command : Command)
  | version
  | help (topic : Topic)
  | misuse
  deriving DecidableEq, Repr

/-! ## One level of arguments -/

/-- An argument by its look. A hyphen on its own is a plain word. -/
inductive Argument where
  | endOfOptions
  | long (name : String) (attached : Option String)
  | short (letter : Char)
  | word
  deriving DecidableEq, Repr

/-- The name of a long option, and the value attached to it. -/
def Argument.ofLong (text : List Char) : Argument :=
  .long (String.ofList (text.takeWhile (· ≠ '=')))
    (match text.dropWhile (· ≠ '=') with
      | [] => none
      | _ :: value => some (String.ofList value))

/-- The look of an argument. Of several letters after one hyphen only the first is taken. -/
def Argument.of (text : String) : Argument :=
  match text.toList with
  | ['-', '-'] => .endOfOptions
  | '-' :: '-' :: rest => .ofLong rest
  | '-' :: letter :: _ => .short letter
  | _ => .word

/-- An option whose value is an argument of its own, once that argument has come. -/
structure Pending where
  name : String
  value : Option String := none
  deriving DecidableEq, Repr

/-- What has been read of a level. -/
structure Level where
  values : List (String × String) := []
  flags : List String := []
  positionals : List String := []
  /-- The option that is still to be judged. -/
  pending : Option Pending := none
  /-- After two hyphens every argument is a positional. -/
  onlyPositionals : Bool := false
  deriving DecidableEq, Repr

/-- What may stand at a level: options with a value, options without, and a positional, which may
have to be a path. The outer level has no positionals but a command, and a version. -/
structure Rules where
  valued : List String
  flags : List String
  isOuter : Bool
  takesPath : Bool

/-- What may stand in front of the command. -/
def outerRules : Rules where
  valued := ["config", "reference"]
  flags := ["json"]
  isOuter := true
  takesPath := false

/-- What may stand after a command: the options of the outer level and its own. -/
def rulesOf : CommandName → Rules
  | .aggregate =>
      { valued := outerRules.valued ++ ["now"]
        flags := outerRules.flags ++ ["history"]
        isOuter := false
        takesPath := false }
  | .fold => { outerRules with isOuter := false, takesPath := true }
  | _ => { outerRules with isOuter := false }

/-- Digits after an optional sign, as a number of 64 bits. -/
def integer? (text : String) : Option Int :=
  let (negative, digits) := Number.takeSign text.toList
  let n := Number.signed negative (Number.digitsValue digits)
  if !digits.isEmpty && digits.all Text.isAsciiDigit && Number.fitsInt64 n then some n else none

/-- Paths must not be empty, and a time is a number. -/
def isValue (name value : String) : Bool :=
  if name = "now" then (integer? value).isSome else value ≠ ""

namespace Level

/-- The value that an option has at the level. -/
def value? (l : Level) (name : String) : Option String :=
  (l.values.find? fun v => v.1 = name).map (·.2)

/-- Give an option its value, which must fit it and must not have been given before. -/
def addValue (l : Level) (name value : String) : Option Level :=
  if isValue name value && (l.value? name).isNone then
    some { l with values := (name, value) :: l.values }
  else none

/-- Take the pending option, if there is one. Its value must have come. -/
def settle? (l : Level) : Option Level :=
  match l.pending with
  | none => some l
  | some { name, value } => value.bind fun value => { l with pending := none }.addValue name value

/-- Set an option without a value, which must not have been set before. -/
def addFlag (l : Level) (name : String) : Option Level :=
  if l.flags.contains name then none else some { l with flags := name :: l.flags }

/-- Take the one positional of a level beyond the outer one. -/
def addPositional (l : Level) (rules : Rules) (value : String) : Option Level :=
  if l.positionals.isEmpty && !(rules.takesPath && value = "") then
    some { l with positionals := [value] }
  else none

/-- A long option of the level, with the value attached to it. -/
def addLong (l : Level) (rules : Rules) (name : String) (attached : Option String) :
    Option Level :=
  match attached with
  | some value => if rules.valued.contains name then l.addValue name value else none
  | none =>
      if rules.flags.contains name then l.addFlag name
      else if rules.valued.contains name then some { l with pending := some { name } }
      else none

end Level

/-- What an argument makes of a level: the level goes on, or it ends. -/
inductive LevelStep where
  | continue (level : Level)
  | command (name : CommandName)
  | helpCommand
  | help
  | version
  | misuse

namespace LevelStep

/-- The level goes on if the argument could be taken. -/
def ofOption : Option Level → LevelStep
  | some level => .continue level
  | none => .misuse

/-- A word that is no option: a command at the outer level, a positional beyond it. -/
def ofWord (rules : Rules) (level : Level) (word : String) : LevelStep :=
  if rules.isOuter then
    if level.onlyPositionals then .misuse
    else if word = "help" then .helpCommand
    else match CommandName.ofText? word with
      | some name => .command name
      | none => .misuse
  else ofOption (level.settle?.bind fun level => level.addPositional rules word)

/-- An option, before which the level has been settled. -/
def ofLook (rules : Rules) (level : Level) : Argument → LevelStep
  | .long "help" none | .short 'h' => .help
  | .long "version" none | .short 'V' => if rules.isOuter then .version else .misuse
  | .long name attached => ofOption (level.addLong rules name attached)
  | _ => .misuse

/-- An argument while no option waits for its value. -/
def ofArgument (rules : Rules) (level : Level) (argument : String) : LevelStep :=
  if level.onlyPositionals then ofWord rules level argument
  else match Argument.of argument with
    | .endOfOptions => .continue { level with onlyPositionals := true }
    | .word => ofWord rules level argument
    | look =>
        match level.settle? with
        | some level => ofLook rules level look
        | none => .misuse

/-- An argument, which is the value of the option that waits for one if there is such an option. -/
def of (rules : Rules) (level : Level) (argument : String) : LevelStep :=
  match level.pending with
  | some { name, value := none } =>
      if Argument.of argument = .word then
        .continue { level with pending := some { name, value := some argument } }
      else .misuse
  | _ => ofArgument rules level argument

end LevelStep

/-- How a level ends: all arguments are read, or the rest of them belongs to something else. -/
inductive LevelEnd where
  | done (level : Level)
  | command (level : Level) (name : CommandName) (rest : List String)
  | helpOn (words : List String)
  | help
  | version
  | misuse

/-- Read arguments at a level until it ends. -/
def readLevel (rules : Rules) (level : Level) : List String → LevelEnd
  | [] =>
      match level.settle? with
      | some level => .done level
      | none => .misuse
  | argument :: rest =>
      match LevelStep.of rules level argument with
      | .continue level => readLevel rules level rest
      | .command name => .command level name rest
      | .helpCommand => .helpOn rest
      | .help => .help
      | .version => .version
      | .misuse => .misuse

/-! ## Both levels -/

/-- The options of both levels; those after the command count before those in front of it. -/
def Options.ofLevels (outer inner : Level) : Options where
  config := (inner.value? "config").or (outer.value? "config")
  reference := (inner.value? "reference").or (outer.value? "reference")
  json := inner.flags.contains "json" || outer.flags.contains "json"

/-- A command by its name and the level behind it, which must have its positional. -/
def Command.ofLevel? (name : CommandName) (level : Level) : Option Command := do
  let positional ← level.positionals.head?
  match name with
  | .record => return .record positional
  | .aggregate =>
      return .aggregate positional (level.flags.contains "history")
        ((level.value? "now").bind integer?)
  | .verify => return .verify positional
  | .fold => return .fold positional

namespace Ask

/-- What is asked for by the level in front of a command and the one behind it. -/
def ofLevels (outer : Level) (name : CommandName) : LevelEnd → Ask
  | .done inner =>
      match outer.settle?, Command.ofLevel? name inner with
      | some outer, some command => .run (Options.ofLevels outer inner) command
      | _, _ => .misuse
  | .help => .help (.command name)
  | _ => .misuse

/-- What the arguments of the program ask for. -/
def ofArguments (arguments : List String) : Ask :=
  match readLevel outerRules {} arguments with
  | .command outer name rest => ofLevels outer name (readLevel (rulesOf name) {} rest)
  | .helpOn words =>
      match Topic.ofWords? words with
      | some topic => .help topic
      | none => .misuse
  | .help => .help .program
  | .version => .version
  | .done _ | .misuse => .misuse

/-- The files that may have to be read. -/
def paths : Ask → List String
  | .run options command =>
      options.config.toList ++ options.reference.toList
        ++ match command with
          | .fold path => [path]
          | _ => []
  | _ => []

end Ask

end SaleSearch.CommandLine
