import OneUnknown.CommandLine.Commands

/-!
# The program

Carries out the requests of a command for real: on files, on the standard outputs and input, and
with a person at the shell. All decisions are made by `commandLine`.
-/

namespace OneUnknown

/-- The number of an error, which some requests return negated. -/
def errorNumber (number : UInt32) : UInt32 := min number (0 - number)

/-- An error of the operating system. Number 36 is a name that is too long. A file of the wrong kind
is a directory by its number 21, and otherwise a file where a directory has to be. -/
def fileError (e : IO.Error) : FileError :=
  match e with
  | .noFileOrDirectory .. => .notFound
  | .resourceBusy .. => .busy
  | .alreadyExists .. => .alreadyExists
  | .inappropriateType _ number _ =>
    if errorNumber number = 21 then .isDirectory else .notDirectory
  | .invalidArgument _ number _ =>
    if errorNumber number = 36 then .nameTooLong else .other (toString e)
  | e => .other (toString e)

/-- The outcome of an action on files. -/
def attempt {α : Type} (action : IO α) : IO (Except FileError α) := do
  try
    return .ok (← action)
  catch e =>
    return .error (fileError e)

/-- The content of a file, which has to be text. -/
def readText (path : String) : IO (Except FileError String) := do
  match ← attempt (IO.FS.readBinFile path) with
  | .error e => return .error e
  | .ok bytes => return (String.fromUTF8? bytes).elim (.error .notText) .ok

/-- There is something at a path. -/
def isThere (path : String) : IO Bool := do
  return (← attempt (IO.FS.realPath path)).toBool

/-- Makes a directory unless there is one. -/
def ensureDirectory (path : String) : IO Unit := do
  try
    IO.FS.createDir path
  catch e =>
    if ← isThere (path ++ "/.") then return else throw e

/-- Makes a directory and all that lead to it, given the path backwards. -/
def ensureDirectories : List String → IO Unit
  | [] => return
  | part :: above => do
    if FileTree.isIdle part then ensureDirectories above
    else
      let path := "/".intercalate (part :: above).reverse
      try
        ensureDirectory path
      catch e =>
        match e with
        | .noFileOrDirectory .. => do
          ensureDirectories above
          ensureDirectory path
        | e => throw e

/-- The path of a new file beside the one with a path, whose directory is given backwards. -/
def unfinishedBeside (path : String) (above : List String) : IO String := do
  let name := ".unfinished-" ++ natText (← IO.monoNanosNow)
  match above with
  | [] => return if path.startsWith "/" then "/" ++ name else name
  | above => return "/".intercalate above.reverse ++ "/" ++ name

/-- Writes a file as a whole: what was there stays until all is written. -/
def writeWhole (path content : String) : IO Unit := do
  let above := FileTree.above (FileTree.parts path)
  ensureDirectories above
  let unfinished ← unfinishedBeside path above
  IO.FS.writeFile unfinished content
  try
    IO.FS.rename unfinished path
  catch e =>
    IO.FS.removeFile unfinished
    throw e

/-- The bytes up to the next line feed, or to the end of the input, behind those read so far. -/
partial def readLine (input : IO.FS.Stream) (line : ByteArray) : IO ByteArray := do
  let next ← input.read 1
  let line := line ++ next
  if next.isEmpty || next.get! 0 = 10 then return line else readLine input line

/-- Talks to a person until the input or the conversation ends, and returns the exit code. A line
that is no text breaks the input off. -/
partial def converse (shell : Shell) : IO UInt32 := do
  let output ← IO.getStdout
  output.putStr shell.prompt
  output.flush
  let bytes ← readLine (← IO.getStdin) .empty
  if bytes.isEmpty then
    output.putStrLn ""
    return 0
  else
    match String.fromUTF8? bytes with
    | none =>
      IO.eprint (failureText [FileError.notText.message])
      return 1
    | some line =>
      match shell.eval (lines line.toList).flatten with
      | (.exit, _) => return 0
      | (.text content, shell) =>
        output.putStr (Shell.replyText content)
        converse shell

/-- Carries out a program and returns its exit code. -/
def Program.perform : Program → IO UInt32
  | done code => return code.toUInt32
  | fail causes => do
    IO.eprint (failureText causes)
    return 1
  | print text next => do
    IO.print text
    perform next
  | complain text next => do
    IO.eprint text
    perform next
  | readFile path next => do
    let content ← readText path
    perform (next content)
  | .exists path next => do
    perform (next (← isThere path))
  | writeFile path content next => do
    let written ← attempt (writeWhole path content)
    perform (next written)
  | converse shell => OneUnknown.converse shell

/-- The value of a variable of the environment, unless it is empty. -/
def environment? (name : String) : IO (Option String) := do
  return (← IO.getEnv name).filter (· ≠ "")

/-- The home directory that the table of users has for the user of this program. -/
def homeInTable? : IO (Option String) := do
  let status ← attempt (IO.FS.readFile "/proc/self/status")
  let table ← attempt (IO.FS.readFile "/etc/passwd")
  let fields (separator : Char) (text : Except FileError String) : List (List String) :=
    (lines (text.toOption.getD "").toList).map fun line =>
      (line.splitOn separator).map String.ofList
  let user? := (fields '\t' status).findSome? fun
    | "Uid:" :: user :: _ => some user
    | _ => none
  return (fields ':' table).findSome? fun
    | _ :: _ :: user :: _ :: _ :: home :: _ => if some user = user? then some home else none
    | _ => none

/-- The home directory: what the environment says, or else the table of users. -/
def homeDirectory? : IO (Option String) := do
  match ← environment? "HOME" with
  | some home => return some home
  | none => homeInTable?

/-- A switch in the environment, which is on unless it is zero. -/
def switch? (name : String) : IO (Option Bool) := do
  return (← IO.getEnv name).map (· ≠ "0")

/-- Whether colours are shown. They may be forced or forbidden, and otherwise need a terminal as the
standard output, whichever output they are written to. -/
def showsColours : IO Bool := do
  if (← switch? "CLICOLOR_FORCE") = some true then return true
  else if (← switch? "NO_COLOR").isSome then return false
  else return (← switch? "CLICOLOR").getD true && (← (← IO.getStdout).isTty)

end OneUnknown

def main (arguments : List String) : IO UInt32 := do
  let context : OneUnknown.Context :=
    { home? := ← OneUnknown.homeDirectory?, colours := ← OneUnknown.showsColours }
  (OneUnknown.commandLine context arguments).perform
