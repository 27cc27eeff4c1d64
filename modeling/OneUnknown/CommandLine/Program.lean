import OneUnknown.CommandLine.FileTree
import OneUnknown.Shell

/-!
# Requests to the world outside

A program is a row of requests, each of which may depend on the answers to the ones before. It can
be carried out for real, and here it is carried out upon a tree of files.

* **`Program`**: requests and what follows them;
* `failureText`: how a failure with its causes is shown;
* `World`, `World.read`, `World.write`, `World.conversation`: the files and the standard input;
* **`Program.runIn`**, `Effects`: a program carried out upon them.
-/

namespace OneUnknown

/-! ## Programs -/

/-- **A row of requests.** -/
inductive Program where
  /-- The end, with an exit code. -/
  | done (code : Nat)
  /-- The end by a failure, whose causes follow one another inwards. -/
  | fail (causes : List String)
  /-- Writes to the standard output. -/
  | print (text : String) (next : Program)
  /-- Writes to the standard error output. -/
  | complain (text : String) (next : Program)
  /-- Asks for the content of a file. -/
  | readFile (path : String) (next : Except FileError String → Program)
  /-- Asks whether there is a file or a directory. -/
  | exists (path : String) (next : Bool → Program)
  /-- Writes a file as a whole. -/
  | writeFile (path content : String) (next : Except FileError Unit → Program)
  /-- Runs a shell on the standard input, and ends with it. -/
  | converse (shell : Shell)

/-- The causes of a failure, one on a line and numbered if there are several. -/
def causeLines : List String → String
  | [] => ""
  | [cause] => "    " ++ cause ++ "\n"
  | causes => String.join (causes.zipIdx.map fun (cause, number) =>
      "    " ++ natText number ++ ": " ++ cause ++ "\n")

/-- **How a failure is shown**: what failed, and below it why. -/
def failureText : List String → String
  | [] => ""
  | [failure] => "Error: " ++ failure ++ "\n"
  | failure :: causes => "Error: " ++ failure ++ "\n\nCaused by:\n" ++ causeLines causes

/-! ## Carrying out a program -/

/-- **What a program meets**: the files, the working directory, and the standard input. A file may
be there without being readable, because its content is no text or for another reason; and the
standard input may break off behind its last line. -/
structure World where
  tree : FileTree
  here : Place
  input : String
  unreadable : List (Place × FileError) := []
  inputFault? : Option FileError := none

namespace World

/-- **The content of a file**, if it can be read. -/
def read (world : World) (path : String) : Except FileError String := do
  let content ← world.tree.read world.here path
  match world.unreadable.lookup (← world.tree.locate world.here (FileTree.parts path)) with
  | some e => .error e
  | none => return content

/-- **Writes a file** as a whole. It can be read then, whatever was there before. -/
def write (world : World) (path content : String) : World × Except FileError Unit :=
  let result := world.tree.write world.here path content
  let unreadable :=
    match result.2, result.1.locate world.here (FileTree.parts path) with
    | .ok (), .ok place => world.unreadable.filter fun file => file.1 ≠ place
    | _, _ => world.unreadable
  ({ world with tree := result.1, unreadable }, result.2)

/-- What a shell writes that reads the standard input, and what keeps it from reading on. A fault of
the input does not matter behind a line that ends the session. -/
def conversation (world : World) (shell : Shell) : String × Option FileError :=
  let lines := lines world.input.toList
  match (shell.run true lines).2, world.inputFault? with
  | false, some e => ((shell.run true lines).1, some e)
  | _, _ => (shell.transcript true lines, none)

end World

/-- **What a program leaves behind**: an exit code, what it wrote, and the files. -/
structure Effects where
  code : Nat
  output : String := ""
  errors : String := ""
  tree : FileTree

namespace Program

/-- **Carries out a program** upon a tree of files. -/
def runIn (world : World) : Program → Effects
  | done code => { code, tree := world.tree }
  | fail causes => { code := 1, errors := failureText causes, tree := world.tree }
  | print text next =>
    let effects := runIn world next
    { effects with output := text ++ effects.output }
  | complain text next =>
    let effects := runIn world next
    { effects with errors := text ++ effects.errors }
  | readFile path next => runIn world (next (world.read path))
  | .exists path next => runIn world (next (world.tree.has world.here path))
  | writeFile path content next =>
    let result := world.write path content
    runIn result.1 (next result.2)
  | converse shell =>
    let (output, fault?) := world.conversation shell
    { code := if fault?.isSome then 1 else 0, output
      errors := failureText (fault?.toList.map FileError.message), tree := world.tree }

end Program

end OneUnknown
