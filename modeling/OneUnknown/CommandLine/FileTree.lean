/-!
# A tree of files

The program reads and writes files that it is given paths to. Here is what becomes of such
requests: which file a path leads to from the working directory, and why a request may fail.

A path leads through directories only, whatever follows: a slash, a dot or two dots at its end
also ask for a directory. Names and paths have a greatest length, which counts bytes.

* **`FileTree`**: files by their place, and empty directories;
* `FileError`: why a request fails, in the words of the operating system;
* `FileTree.walk`, `FileTree.locate`: where a path leads;
* **`FileTree.read`**, `FileTree.has`: a file's content, and whether there is anything;
* `FileTree.target`: the directory and the name that the end of a path stands for;
* `FileTree.makeDirectories`: a directory with all that lead to it;
* `FileTree.put`, `FileTree.replace`: a file with new content;
* **`FileTree.write`**: the same, in a directory that is made if it is missing.
-/

namespace OneUnknown

/-! ## Trees and errors -/

/-- A place in the tree: the names on the way from the root. -/
abbrev Place := List String

/-- **Files with their content**, and directories that may be empty. -/
structure FileTree where
  files : List (Place × String)
  directories : List Place := []

/-- **Why a request fails.** -/
inductive FileError where
  | notFound
  | busy
  | alreadyExists
  | notDirectory
  | isDirectory
  | nameTooLong
  /-- The content is no text. -/
  | notText
  | other (message : String)
  deriving DecidableEq

/-- The wording of the operating system. -/
def FileError.message : FileError → String
  | notFound => "No such file or directory (os error 2)"
  | busy => "Device or resource busy (os error 16)"
  | alreadyExists => "File exists (os error 17)"
  | notDirectory => "Not a directory (os error 20)"
  | isDirectory => "Is a directory (os error 21)"
  | nameTooLong => "File name too long (os error 36)"
  | notText => "stream did not contain valid UTF-8"
  | other message => message

/-- What is at a place. -/
inductive Entry where
  | file (content : String)
  | directory
  | missing
  deriving DecidableEq

namespace FileTree

/-- What is at a place. Every place on the way to a file is a directory. -/
def entry (tree : FileTree) (place : Place) : Entry :=
  match tree.files.lookup place with
  | some content => .file content
  | none =>
    let isAbove (other : Place) : Bool := place.isPrefixOf other
    if place.isEmpty || tree.files.any (fun file => isAbove file.1) ||
      tree.directories.any isAbove then .directory
    else .missing

/-- Makes sure that there is a directory at a place. -/
def requireDirectory (tree : FileTree) (place : Place) : Except FileError Unit :=
  match tree.entry place with
  | .directory => .ok ()
  | .file _ => .error .notDirectory
  | .missing => .error .notFound

/-! ## Paths -/

/-- The parts of a path between its slashes. The first part of an absolute path is empty. -/
def parts (path : String) : List String := (path.toList.splitOn '/').map String.ofList

/-- A part that stays where it is: nothing between two slashes, or a dot. -/
def isIdle (part : String) : Bool := part = "" || part = "."

/-- The greatest length of a name, in bytes. -/
def nameLimit : Nat := 255

/-- The greatest length of a path, in bytes. -/
def pathLimit : Nat := 4095

/-- A path is refused as a whole if it is too long. -/
def requireLength (path : List String) : Except FileError Unit :=
  if pathLimit < ("/".intercalate path).utf8ByteSize then .error .nameTooLong else .ok ()

/-- The place where a path starts: the root if it is absolute, or else the working directory. -/
def start (here : Place) : List String → Place
  | "" :: _ :: _ => []
  | _ => here

/-- **Where parts lead** from a place. Nothing is above the root. -/
def walk (tree : FileTree) (here : Place) : List String → Except FileError Place
  | [] => .ok here
  | part :: rest => do
    tree.requireDirectory here
    if isIdle part then tree.walk here rest
    else if part = ".." then tree.walk here.dropLast rest
    else if nameLimit < part.utf8ByteSize then .error .nameTooLong
    else tree.walk (here ++ [part]) rest

/-- The place that a path names from the working directory. -/
def locate (tree : FileTree) (here : Place) (path : List String) : Except FileError Place := do
  requireLength path
  tree.walk (start here path) path

/-! ## Reading -/

/-- **The content of a file.** -/
def read (tree : FileTree) (here : Place) (path : String) : Except FileError String := do
  let place ← tree.locate here (parts path)
  match tree.entry place with
  | .file content => return content
  | .directory => .error .isDirectory
  | .missing => .error .notFound

/-- There is a file or a directory. -/
def has (tree : FileTree) (here : Place) (path : String) : Bool :=
  match tree.locate here (parts path) with
  | .error _ => false
  | .ok place =>
    match tree.entry place with
    | .missing => false
    | _ => true

/-! ## The end of a path -/

/-- **The directory in which a path names something, and the name.** There is no name if the path
ends with a dot or two, or is the root. -/
def target (tree : FileTree) (here : Place) (path : List String) :
    Except FileError (Place × Option String) := do
  requireLength path
  match path.reverse.dropWhile (· = "") with
  | [] => return (start here path, none)
  | last :: above =>
    let place ← tree.walk (start here path) above.reverse
    tree.requireDirectory place
    if last = "." ∨ last = ".." then return (place, none)
    else if nameLimit < last.utf8ByteSize then .error .nameTooLong
    else return (place, some last)

/-- The path of the directory in which a path names something, backwards. -/
def above (path : List String) : List String :=
  ((path.reverse.dropWhile isIdle).drop 1).dropWhile isIdle

/-! ## Making directories -/

/-- The tree with a directory at a place. -/
def withDirectory (tree : FileTree) (place : Place) : FileTree :=
  { tree with directories := place :: tree.directories }

/-- The tree with a new, empty directory. -/
def makeDirectory (tree : FileTree) (here : Place) (path : List String) :
    Except FileError FileTree := do
  match ← tree.target here path with
  | (_, none) => .error .alreadyExists
  | (place, some name) =>
    match tree.entry (place ++ [name]) with
    | .missing => return tree.withDirectory (place ++ [name])
    | _ => .error .alreadyExists

/-- The tree with a directory, which is made if there is none. -/
def ensureDirectory (tree : FileTree) (here : Place) (path : List String) :
    Except FileError FileTree :=
  match tree.makeDirectory here path with
  | .ok tree => .ok tree
  | .error e =>
    match (tree.locate here path).map tree.entry with
    | .ok .directory => .ok tree
    | _ => .error e

/-- **Makes a directory and all that lead to it**, given the path backwards. Those that lead to it
are made only if it cannot be made without. What was made stays also if a later one cannot be. -/
def makeDirectories (tree : FileTree) (here : Place) :
    List String → FileTree × Except FileError Unit
  | [] => (tree, .ok ())
  | part :: above =>
    if isIdle part then tree.makeDirectories here above
    else
      let path := (part :: above).reverse
      match tree.ensureDirectory here path with
      | .ok tree => (tree, .ok ())
      | .error .notFound =>
        match tree.makeDirectories here above with
        | (tree, .error e) => (tree, .error e)
        | (tree, .ok ()) =>
          match tree.ensureDirectory here path with
          | .ok tree => (tree, .ok ())
          | .error e => (tree, .error e)
      | .error e => (tree, .error e)

/-! ## Writing -/

/-- The tree with a file of the given content at a place. -/
def put (tree : FileTree) (place : Place) (content : String) : FileTree :=
  { tree with files := (place, content) :: tree.files.filter fun file => file.1 ≠ place }

/-- The tree with a file of the given content, in a directory that is there. The path must end with
the name of the file, behind which not even a slash may stand. -/
def replace (tree : FileTree) (here : Place) (path : List String) (content : String) :
    Except FileError FileTree := do
  match ← tree.target here path with
  | (_, none) => .error .busy
  | (place, some name) =>
    if path.getLast? = some "" then .error .notDirectory
    else match tree.entry (place ++ [name]) with
      | .directory => .error .isDirectory
      | _ => return tree.put (place ++ [name]) content

/-- **Writes a file** as a whole, in a directory that is made if it is missing. The directories that
were made stay also if the file cannot be written. -/
def write (tree : FileTree) (here : Place) (path content : String) :
    FileTree × Except FileError Unit :=
  let path := parts path
  match tree.makeDirectories here (above path) with
  | (tree, .error e) => (tree, .error e)
  | (tree, .ok ()) =>
    match tree.replace here path content with
    | .ok tree => (tree, .ok ())
    | .error e => (tree, .error e)

end FileTree

end OneUnknown
