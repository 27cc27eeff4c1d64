/-!
# TOML documents as trees

A TOML document is a tree of tables. A table remembers how it came about, since that decides by
which statements it may still be extended: a header may complete a table that was only implied by
longer headers, dotted keys may extend tables made by dotted keys, and a table written in braces
is closed.

* **`Origin`**, **`Node`**: tables and values;
* `descend`: what a statement does to the table that its path leads to;
* `assign?`: a key with its value;
* `openTable?`, `appendTable?`: a header in single and in double brackets.
-/

namespace OneUnknown.Toml

/-! ## Trees -/

/-- **How a table came about.** -/
inductive Origin where
  /-- By a header of its own, or as the whole document. -/
  | header
  /-- By the header of a table below it. -/
  | implied
  /-- By a dotted key. -/
  | dotted
  /-- In braces. -/
  | braces
  deriving DecidableEq

/-- **A value, a table, or a row of tables.** -/
inductive Node where
  | text (content : String)
  | integer (value : Int)
  | float (value : Float)
  | boolean (value : Bool)
  | date (content : String)
  | array (items : List Node)
  | table (origin : Origin) (entries : List (String × Node))
  | tables (rows : List (List (String × Node)))

/-- The entries of a table, in the order in which they were made. -/
abbrev Entries := List (String × Node)

/-- The node under a key. -/
def find? (entries : Entries) (key : String) : Option Node := entries.lookup key

/-- The entries with another node under a key, at its place or at the end. -/
def put (entries : Entries) (key : String) (node : Node) : Entries :=
  match entries with
  | [] => [(key, node)]
  | (other, old) :: rest =>
    if other = key then (key, node) :: rest else (other, old) :: put rest key node

/-! ## Paths -/

/-- **Changes the table at the end of a path.** Tables that are missing on the way are made, as
dotted or as implied ones. Dotted keys do not enter tables that have a header, and nothing enters
a table in braces or a value. In a row of tables the path goes on in the last one. -/
def descend (dotted : Bool) (change : Origin → Entries → Option Entries) :
    List String → Origin → Entries → Option Entries
  | [], origin, entries => change origin entries
  | key :: path, _, entries =>
    match find? entries key with
    | none => do
      let origin := if dotted then .dotted else .implied
      let below ← descend dotted change path origin []
      return put entries key (.table origin below)
    | some (.table origin below) =>
      if origin = .braces || (dotted && origin == .header) then none
      else do
        let below ← descend dotted change path origin below
        return put entries key (.table origin below)
    | some (.tables rows) => do
      let last ← rows.getLast?
      let below ← descend dotted change path .header last
      return put entries key (.tables (rows.dropLast ++ [below]))
    | some _ => none

/-- **Adds a value** under a dotted key, whose last part is new. The table it is added to was made
by a dotted key if and only if the key has a dot. -/
def assign? (path : List String) (key : String) (value : Node) (entries : Entries) :
    Option Entries :=
  descend true (fun origin below =>
    if (origin == .dotted) = path.isEmpty then none
    else if (find? below key).isSome then none
    else some (below ++ [(key, value)])) path .header entries

/-- **Begins a table** by its header. It is new, or so far only implied. -/
def openTable? (path : List String) (key : String) (entries : Entries) : Option Entries :=
  descend false (fun _ above =>
    match find? above key with
    | none => some (put above key (.table .header []))
    | some (.table .implied below) => some (put above key (.table .header below))
    | some _ => none) path .header entries

/-- **Begins a further table in a row of tables.** -/
def appendTable? (path : List String) (key : String) (entries : Entries) : Option Entries :=
  descend false (fun _ above =>
    match find? above key with
    | none => some (put above key (.tables [[]]))
    | some (.tables rows) => some (put above key (.tables (rows ++ [[]])))
    | some _ => none) path .header entries

end OneUnknown.Toml
