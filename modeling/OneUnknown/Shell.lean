import OneUnknown.Settings.Text
import OneUnknown.Solver

/-!
# The shell

A person types equations and commands, one on a line. An equation is solved as one of the current
kind, or of the kind that stands before a colon. The only thing a shell remembers is its current
kind.

* **`Shell`**: the settings and the current kind;
* `Command`, `Command.ofLine`: what a line asks;
* **`Shell.eval`**: the reply to a line;
* `Shell.prompt`, **`Shell.run`**: what a shell writes while it reads lines;
* `Shell.transcript`: the same up to the end of its input.
-/

namespace OneUnknown

/-! ## The shell and its commands -/

/-- **A shell.** -/
structure Shell where
  settings : Settings
  colours : Bool := false
  kind : EquationKind := .quadratic

/-- What a shell answers to a line. -/
inductive Reply where
  | text (content : String)
  | exit

/-- What a line asks of a shell. -/
inductive Command where
  | nothing
  | help
  | exit
  | listKinds
  | showSettings
  | showKind
  | setKind (name : List Char)
  | solve (line : List Char)

/-- The first word of a line without blanks around it, and the rest of the line. -/
def firstWord (line : List Char) : List Char × List Char :=
  match cut? isBlank line with
  | some (word, rest) => (word, trim rest)
  | none => (line, [])

/-- **Reads a line.** A command is recognised by its first word alone. -/
def Command.ofLine (line : List Char) : Command :=
  let line := trim line
  let (word, rest) := firstWord line
  match String.ofList word with
  | "" => .nothing
  | "help" | "?" => .help
  | "exit" | "quit" => .exit
  | "kinds" => .listKinds
  | "config" => .showSettings
  | "kind" => if rest.isEmpty then .showKind else .setKind rest
  | _ => .solve line

/-! ## Texts -/

/-- What the shell says about itself. -/
def helpText (colours : Bool) : String :=
  Style.title.paint colours "eqsolve shell" ++ "\n" ++
  Style.heading.paint colours "Solve:" ++ "\n" ++
  "  <equation>          # solve with the current kind\n" ++
  "  <kind>: <equation>  # solve with another kind once\n" ++
  Style.heading.paint colours "Session:" ++ "\n" ++
  "  kind [KIND]         # show or set the current kind\n" ++
  "  kinds               # list kinds\n" ++
  "  config              # show solver settings\n" ++
  "  exit                # quit shell"

/-- What the shell says when it starts. -/
def bannerText (colours : Bool) : String :=
  "\n" ++ Style.frame.paint colours "╔══════════════════════════════════════════╗" ++ "\n" ++
  Style.banner.paint colours "║          e q s o l v e   s h e l l       ║" ++ "\n" ++
  Style.frame.paint colours "╚══════════════════════════════════════════╝" ++ "  " ++
  Style.heading.paint colours "type 'help' for commands" ++ "\n\n"

/-- An error about a command. -/
def alertText (colours : Bool) (message : String) : String :=
  Style.alert.paint colours "err:" ++ " " ++ message

namespace Shell

/-! ## One line -/

/-- The kind and the equation that a line names. What stands before a colon is a kind only if it
is the name of one. -/
def question (shell : Shell) (line : List Char) : EquationKind × List Char :=
  match cut? (· == ':') line with
  | none => (shell.kind, line)
  | some (name, equation) =>
    match EquationKind.ofName? name with
    | some kind => (kind, trim equation)
    | none => (shell.kind, line)

/-- The answer to an equation, or the picture of its error. -/
def solveLine (shell : Shell) (line : List Char) : String :=
  let (kind, equation) := shell.question line
  let source := String.ofList equation
  match OneUnknown.solve shell.settings kind source with
  | .ok answer => answer
  | .error e => String.ofList (trimEnd (renderError shell.colours source e).toList)

/-- **The reply to a line**, and the shell after it. -/
def eval (shell : Shell) (line : List Char) : Reply × Shell :=
  match Command.ofLine line with
  | .nothing => (.text "", shell)
  | .help => (.text (helpText shell.colours), shell)
  | .exit => (.exit, shell)
  | .listKinds => (.text (kindTable shell.colours), shell)
  | .showSettings =>
    (.text (shell.settings.toToml?.getD (alertText shell.colours unwritableSettings)), shell)
  | .showKind => (.text ("current kind: " ++ shell.kind.tag), shell)
  | .setKind name =>
    match EquationKind.ofName? name with
    | some kind => (.text ("kind set to " ++ kind.tag), { shell with kind := kind })
    | none => (.text (alertText shell.colours (EquationKind.unknownName name)), shell)
  | .solve line => (.text (shell.solveLine line), shell)

/-! ## A whole session -/

/-- What the shell writes before it reads a line. -/
def prompt (shell : Shell) : String :=
  Style.current.paint shell.colours ("⟦" ++ shell.kind.tag ++ "⟧") ++ " " ++
    Style.caret.paint shell.colours "›" ++ " "

/-- What the shell writes after it has read a line. An empty reply is not written. -/
def replyText (content : String) : String := if content.isEmpty then "" else content ++ "\n"

/-- **What a shell writes** while it reads lines, and whether one of them ended the session. No line
is read after that one. -/
def run (prompting : Bool) (shell : Shell) : List (List Char) → String × Bool
  | [] => (if prompting then shell.prompt else "", false)
  | line :: rest =>
    let asked := if prompting then shell.prompt else ""
    match shell.eval line with
    | (.exit, _) => (asked, true)
    | (.text content, shell) =>
      let (written, ended) := run prompting shell rest
      (asked ++ replyText content ++ written, ended)

/-- What a shell writes up to the end of its input, where it ends the line of its last prompt. -/
def transcript (prompting : Bool) (shell : Shell) (lines : List (List Char)) : String :=
  let (written, ended) := shell.run prompting lines
  if prompting && !ended then written ++ "\n" else written

end Shell

end OneUnknown
