import OneUnknown.Kind

/-!
# The arguments of the program

Arguments are read one at a time from the left. Options may stand anywhere behind what they belong
to, those that concern every command also before it. A value of an option follows it, or is
attached to it; what begins with a hyphen is no value. Behind `--` there are no options.

* **`Subcommand`**, **`Invocation`**: what the program is asked to do;
* `Outcome`: what reading the arguments may end with before it is complete;
* `Reading`, `Reading.step`: the arguments read so far, and one more;
* **`Invocation.ofArguments`**: the invocation that arguments spell.
-/

namespace OneUnknown

/-! ## Invocations -/

/-- **What the program is asked to do.** -/
inductive Subcommand where
  | solve (kind : EquationKind) (equation : String) (json : Bool)
  | batch (input : String) (output? : Option String)
  | kinds
  | showSettings
  | initSettings
  | shell
  deriving DecidableEq

/-- **An invocation of the program**: what to do, and with settings from which file. -/
structure Invocation where
  settingsFile? : Option String
  subcommand : Subcommand
  deriving DecidableEq

/-- **Why the arguments are refused.** -/
inductive UsageError where
  | unknownCommand (argument : String)
  | unexpectedArgument (argument : String)
  | repeatedOption (option : String)
  | missingValue (option : String)
  | valueOfFlag (option : String)
  | emptyPath (option : String)
  | unknownKind (name : String)
  | missingArgument (name : String)
  deriving DecidableEq

/-- The wording of a usage error. -/
def UsageError.message : UsageError → String
  | unknownCommand argument => "unrecognized subcommand '" ++ argument ++ "'"
  | unexpectedArgument argument => "unexpected argument '" ++ argument ++ "' found"
  | repeatedOption option => "the argument '" ++ option ++ "' cannot be used multiple times"
  | missingValue option => "a value is required for '" ++ option ++ "' but none was supplied"
  | valueOfFlag option => "unexpected value for '" ++ option ++ "' found; no more were expected"
  | emptyPath option => "a value is required for '" ++ option ++ "' but none was supplied"
  | unknownKind name => "invalid value '" ++ name ++ "' for '<KIND>'"
  | missingArgument name => "the required argument '" ++ name ++ "' was not provided"

/-- **How reading the arguments may end early.** -/
inductive Stop where
  | version (command : String)
  | help
  | usage (error : UsageError)
  deriving DecidableEq

/-! ## Commands and options -/

/-- The name of a command before its arguments are known. -/
inductive CommandName where
  | solve
  | batch
  | kinds
  | config
  | repl
  deriving DecidableEq

namespace CommandName

/-- How a command is written. -/
def text : CommandName → String
  | solve => "solve"
  | batch => "batch"
  | kinds => "kinds"
  | config => "config"
  | repl => "repl"

/-- The command with a name. -/
def ofText? (name : String) : Option CommandName :=
  [solve, batch, kinds, config, repl].find? fun command => command.text == name

/-- The names of the arguments that a command needs, in their order. -/
def operands : CommandName → List String
  | solve => ["<KIND>", "<EQUATION>"]
  | batch => ["<FILE>"]
  | kinds | config | repl => []

end CommandName

/-- An option that the program knows. -/
inductive OptionName where
  | settings
  | verbose
  | version
  | help
  | json
  | output
  | init
  deriving DecidableEq

namespace OptionName

/-- How an option is written in full. -/
def text : OptionName → String
  | settings => "--config"
  | verbose => "--verbose"
  | version => "--version"
  | help => "--help"
  | json => "--json"
  | output => "--out"
  | init => "--init"

/-- The option may be given with a command, or before any. -/
def isFor (option : OptionName) (command? : Option CommandName) : Bool :=
  match option with
  | settings | verbose | version | help => true
  | json => command? == some .solve
  | output => command? == some .batch
  | init => command? == some .config

/-- The option needs a value. -/
def takesValue : OptionName → Bool
  | settings | output => true
  | _ => false

/-- The option of a command that is written in full. -/
def ofLong? (command? : Option CommandName) (name : String) : Option OptionName :=
  [settings, verbose, version, help, json, output, init].find? fun option =>
    option.text == name && option.isFor command?

/-- The option of a command that is written with one letter. -/
def ofShort? (command? : Option CommandName) (letter : Char) : Option OptionName :=
  let option? := match letter with
    | 'v' => some verbose
    | 'V' => some version
    | 'h' => some help
    | 'o' => some output
    | _ => none
  option?.filter fun option => option.isFor command?

end OptionName

/-! ## Reading arguments -/

/-- **The arguments read so far.** Options that concern every command are remembered apart for the
place before the command and the one behind it. -/
structure Reading where
  command? : Option CommandName := none
  /-- The option that waits for its value. -/
  pending? : Option OptionName := none
  /-- No more options are expected. -/
  literal : Bool := false
  outerSettings? : Option String := none
  innerSettings? : Option String := none
  output? : Option String := none
  json : Bool := false
  init : Bool := false
  operands : List String := []

namespace Reading

/-- The result of reading one argument. -/
abbrev Step := Except Stop Reading

/-- Refuses an argument. -/
def refuse {α : Type} (error : UsageError) : Except Stop α := .error (.usage error)

/-- A value for an option. No option is given twice, and no path is empty. -/
def setValue (reading : Reading) (option : OptionName) (value : String) : Step :=
  if value.isEmpty then refuse (.emptyPath option.text)
  else match option with
    | .output =>
      if reading.output?.isSome then refuse (.repeatedOption option.text)
      else return { reading with output? := some value, pending? := none }
    | _ =>
      if reading.command?.isSome then
        if reading.innerSettings?.isSome then refuse (.repeatedOption option.text)
        else return { reading with innerSettings? := some value, pending? := none }
      else if reading.outerSettings?.isSome then refuse (.repeatedOption option.text)
      else return { reading with outerSettings? := some value, pending? := none }

/-- The name of the program as far as it is known: with the command, if there is one. -/
def programName (reading : Reading) : String :=
  match reading.command? with
  | some command => "eqsolve-" ++ command.text
  | none => "eqsolve"

/-- An option without a value. -/
def setFlag (reading : Reading) (option : OptionName) : Step :=
  match option with
  | .version => .error (.version reading.programName)
  | .help => .error .help
  | .json =>
    if reading.json then refuse (.repeatedOption option.text)
    else return { reading with json := true }
  | .init =>
    if reading.init then refuse (.repeatedOption option.text)
    else return { reading with init := true }
  | .verbose => return reading
  | .settings | .output => return { reading with pending? := some option }

/-- An option in full, behind its hyphens: its name and what is attached to it. -/
def longOption (reading : Reading) (argument : String) : Step :=
  let name := argument.toList.takeWhile (· ≠ '=')
  let attached := argument.toList.dropWhile (· ≠ '=')
  match OptionName.ofLong? reading.command? (String.ofList name), attached with
  | none, _ => refuse (.unexpectedArgument argument)
  | some option, [] => reading.setFlag option
  | some option, _ :: value =>
    if option.takesValue then reading.setValue option (String.ofList value)
    else refuse (.valueOfFlag option.text)

/-- Options of one letter that are written together. The value of one takes the rest. -/
def shortOptions (reading : Reading) : List Char → Step
  | [] => return reading
  | letter :: rest =>
    match OptionName.ofShort? reading.command? letter with
    | none => refuse (.unexpectedArgument (String.ofList ['-', letter]))
    | some option =>
      if option.takesValue then
        match rest with
        | [] => reading.setFlag option
        | '=' :: value => reading.setValue option (String.ofList value)
        | value => reading.setValue option (String.ofList value)
      else do
        let reading ← reading.setFlag option
        reading.shortOptions rest

/-- An argument that is no option: the command, or an operand of it. -/
def operand (reading : Reading) (argument : String) : Step :=
  match reading.command? with
  | none =>
    if reading.literal then refuse (.unexpectedArgument argument)
    else match CommandName.ofText? argument with
      | some command => return { reading with command? := some command }
      | none => refuse (.unknownCommand argument)
  | some command =>
    if command.operands.length ≤ reading.operands.length then refuse (.unexpectedArgument argument)
    else if command = .solve ∧ reading.operands = [] ∧ EquationKind.ofOption? argument = none then
      refuse (.unknownKind argument)
    else if command = .batch ∧ argument.isEmpty then refuse (.emptyPath "<FILE>")
    else return { reading with operands := reading.operands ++ [argument] }

/-- **Reads one argument.** -/
def step (reading : Reading) (argument : String) : Step :=
  match reading.literal, reading.pending?, argument.toList with
  | true, _, _ => reading.operand argument
  | false, some option, '-' :: _ :: _ => refuse (.missingValue option.text)
  | false, some option, _ => reading.setValue option argument
  | false, none, ['-', '-'] => return { reading with literal := true }
  | false, none, '-' :: '-' :: _ => reading.longOption argument
  | false, none, '-' :: letter :: rest => reading.shortOptions (letter :: rest)
  | false, none, _ => reading.operand argument

/-- What is asked when all arguments have been read. -/
def subcommand (reading : Reading) : Except Stop Subcommand :=
  match reading.command?, reading.operands with
  | none, _ => return .shell
  | some .repl, _ => return .shell
  | some .kinds, _ => return .kinds
  | some .config, _ => return if reading.init then .initSettings else .showSettings
  | some .batch, [] => refuse (.missingArgument "<FILE>")
  | some .batch, input :: _ => return .batch input reading.output?
  | some .solve, name :: equation :: _ =>
    match EquationKind.ofOption? name with
    | some kind => return .solve kind equation reading.json
    | none => refuse (.unknownKind name)
  | some .solve, [_] => refuse (.missingArgument "<EQUATION>")
  | some .solve, [] => refuse (.missingArgument "<KIND>")

end Reading

/-- **The invocation that arguments spell.** Settings named behind the command win over settings
named before it. -/
def Invocation.ofArguments (arguments : List String) : Except Stop Invocation := do
  let reading ← arguments.foldlM Reading.step {}
  match reading.pending? with
  | some option => Reading.refuse (.missingValue option.text)
  | none =>
    let subcommand ← reading.subcommand
    return ⟨reading.innerSettings?.or reading.outerSettings?, subcommand⟩

end OneUnknown
