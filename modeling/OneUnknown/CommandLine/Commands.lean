import OneUnknown.Batch
import OneUnknown.CommandLine.Arguments
import OneUnknown.CommandLine.Program

/-!
# The commands of the program

Every command but the one that writes a file of settings first loads settings: from the file that
is named, or else from the file in the home directory, or else the usual ones. A named file must
be good; the one in the home directory is passed over with a warning if it is not.

* `Context`: what is known when the program starts;
* `loadSettings`: the settings that a command uses;
* `save`: a file that a command writes;
* `quoted`: a text between double quotes, as data formats have it;
* `solveCommand`, `batchCommand`, `kindsCommand`, `showSettingsCommand`, `initSettingsCommand`,
  `shellCommand`: the commands;
* **`commandLine`**: what the program does for given arguments.
-/

namespace OneUnknown

/-! ## What is known at the start -/

/-- **What is known when the program starts**: the home directory, if there is one, and whether
colours are shown, on both outputs alike. -/
structure Context where
  home? : Option String
  colours : Bool := false

/-- The file of settings in a home directory. -/
def homeSettings (home : String) : String :=
  (if home.endsWith "/" then home else home ++ "/") ++ ".eqsolve/config.toml"

/-- A warning of the part of the program with the given name, as it is written anywhere but to a
terminal. -/
def warning (part text : String) : String := "[WARN  eqsolve::" ++ part ++ "] " ++ text ++ "\n"

/-! ## Loading settings -/

/-- The causes for which the content of a file gives no settings. -/
def settingsCauses (path : String) : SettingsError → List String
  | .unreadable => ["loading " ++ path, unreadableSettings, "TOML parse error"]
  | .refused fault => ["loading " ++ path, fault.message]

/-- The settings in a file, or the causes for which there are none. -/
def settingsIn (path : String) : Except FileError String → Except (List String) Settings
  | .error e => .error ["reading " ++ path, e.message]
  | .ok text => (Settings.ofToml text).mapError (settingsCauses path)

/-- What is said of a file in the home directory that is passed over. -/
def passedOver (path : String) (causes : List String) : String :=
  warning "config" ("failed loading " ++ path ++ " (" ++ ": ".intercalate causes ++
    "), using built-in settings")

/-- **Loads settings** and goes on with them. -/
def loadSettings (context : Context) (named? : Option String) (next : Settings → Program) :
    Program :=
  match named?, context.home? with
  | some path, _ => .readFile path fun content =>
    match settingsIn path content with
    | .ok settings => next settings
    | .error causes => .fail causes
  | none, some home =>
    let path := homeSettings home
    .exists path fun found =>
      if found then
        .readFile path fun content =>
          match settingsIn path content with
          | .ok settings => next settings
          | .error causes => .complain (passedOver path causes) (next {})
      else next {}
  | none, none => next {}

/-! ## Saving -/

/-- **Writes a file** and says so, and ends with an exit code. -/
def save (path content : String) (code : Nat) : Program :=
  .writeFile path content fun written =>
    match written with
    | .error e => .fail ["writing " ++ path, e.message]
    | .ok () => .print ("wrote " ++ path ++ "\n") (.done code)

/-! ## Quoted texts -/

/-- A hexadecimal digit in lower case. -/
def hexChar (d : Nat) : Char := if d < 10 then Char.ofNat (48 + d) else Char.ofNat (87 + d)

/-- A character inside quotes. -/
def escaped (c : Char) : List Char :=
  if c = '"' then ['\\', '"']
  else if c = '\\' then ['\\', '\\']
  else if c = '\n' then ['\\', 'n']
  else if c = '\r' then ['\\', 'r']
  else if c = '\t' then ['\\', 't']
  else if c = '\x08' then ['\\', 'b']
  else if c = '\x0c' then ['\\', 'f']
  else if c < ' ' then ['\\', 'u', '0', '0', hexChar (c.toNat / 16), hexChar (c.toNat % 16)]
  else [c]

/-- **A text between quotes.** -/
def quoted (text : String) : String :=
  String.ofList ('"' :: text.toList.flatMap escaped ++ ['"'])

/-! ## Solving one equation -/

/-- The report on an equation as a record of data. -/
def jsonReport (kind : EquationKind) (equation : String) (result : SolveResult String) : String :=
  "\x7b\n  \"kind\": " ++ quoted kind.tag ++
  ",\n  \"equation\": " ++ quoted equation ++
  ",\n  \"ok\": " ++ (if result.toBool then "true" else "false") ++
  ",\n  \"result\": " ++ quoted (answerText result) ++ "\n\x7d\n"

/-- Solves one equation. -/
def solveCommand (context : Context) (kind : EquationKind) (equation : String) (json : Bool)
    (settings : Settings) : Program :=
  let result := solve settings kind equation
  let code := if result.toBool then 0 else 1
  if json then .print (jsonReport kind equation result) (.done code)
  else match result with
    | .ok answer => .print (answer ++ "\n") (.done code)
    | .error e =>
      .complain (renderError context.colours (trimString equation) e) (.done code)

/-! ## Solving a batch -/

/-- Warnings, one after another, and what follows them. -/
def complainAll (warnings : List String) (next : Program) : Program :=
  warnings.foldr (fun text next => .complain (warning "commands::batch" text) next) next

/-- Solves a batch and prints its report, or writes it to a file. -/
def batchCommand (input : String) (output? : Option String) (settings : Settings) : Program :=
  .readFile input fun content =>
    match content with
    | .error e => .fail ["reading " ++ input, e.message]
    | .ok source =>
      let records := batchRecords settings source
      let report := batchReport records
      let code := if failureCount records = 0 then 0 else 1
      complainAll (batchWarnings records) <|
        match output? with
        | none => .print report (.done code)
        | some path => save path report code

/-! ## The other commands -/

/-- Lists the kinds. -/
def kindsCommand (context : Context) : Program :=
  .print (kindTable context.colours ++ "\n") (.done 0)

/-- Shows the settings. -/
def showSettingsCommand (settings : Settings) : Program :=
  match settings.toToml? with
  | some text => .print text (.done 0)
  | none => .fail [unwritableSettings]

/-- Writes the usual settings to the named file, or else to the one in the home directory, unless
there is one already. -/
def initSettingsCommand (context : Context) (named? : Option String) : Program :=
  match named?.or (context.home?.map homeSettings) with
  | none => .fail ["no config path: pass --config FILE (home directory not found)"]
  | some path => .exists path fun found =>
    if found then .fail [path ++ " already exists"]
    else save path (({} : Settings).toToml?.getD "") 0

/-- Starts a shell. -/
def shellCommand (context : Context) (settings : Settings) : Program :=
  .print (bannerText context.colours) (.converse { settings, colours := context.colours })

/-! ## The program -/

/-- The version of the program. -/
def versionNumber : String := "0.2.0"

/-- How the program is used. -/
def usageText : String :=
  "eqsolve: linear, quadratic and polynomial equations with exact radical answers\n\n" ++
  "Usage: eqsolve [OPTIONS] [COMMAND]\n\n" ++
  "Commands:\n" ++
  "  solve <KIND> <EQUATION> [--json]\n" ++
  "  batch <FILE> [-o <FILE>]\n" ++
  "  kinds\n" ++
  "  config [--init]\n" ++
  "  repl\n\n" ++
  "Options:\n" ++
  "      --config <FILE>\n" ++
  "  -v, --verbose...\n" ++
  "  -h, --help\n" ++
  "  -V, --version\n"

/-- What an invocation does. -/
def Invocation.program (context : Context) (invocation : Invocation) : Program :=
  let load := loadSettings context invocation.settingsFile?
  match invocation.subcommand with
  | .solve kind equation json => load (solveCommand context kind equation json)
  | .batch input output? => load (batchCommand input output?)
  | .kinds => load fun _ => kindsCommand context
  | .showSettings => load showSettingsCommand
  | .initSettings => initSettingsCommand context invocation.settingsFile?
  | .shell => load (shellCommand context)

/-- What the program does if its arguments ask for no command. -/
def Stop.program : Stop → Program
  | version command => .print (command ++ " " ++ versionNumber ++ "\n") (.done 0)
  | help => .print usageText (.done 0)
  | usage error => .complain ("error: " ++ error.message ++ "\n") (.done 2)

/-- **What the program does** for given arguments. -/
def commandLine (context : Context) (arguments : List String) : Program :=
  match Invocation.ofArguments arguments with
  | .ok invocation => invocation.program context
  | .error stop => stop.program

end OneUnknown
