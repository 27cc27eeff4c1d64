import OneUnknown.Toml.Lexical

/-!
# Reading TOML documents

A document is a row of statements, each on a line of its own: a key with its value, a header, or
a header in double brackets. Values nest to a limited depth.

* `value?`: a value, with what may stand inside it;
* **`Statement`**, `statement?`: one statement;
* `Document.apply?`: what it does to the tables so far;
* **`read?`**: the tree that a text describes, if it is a TOML document.
-/

namespace OneUnknown.Toml

/-! ## Values -/

mutual

/-- **A value**, given a bound on the steps of reading and the depth that is left. -/
def value? : Nat → Nat → Read Node
  | 0, _, _ => none
  | bound + 1, depth, cs =>
    match cs with
    | '"' :: _ | '\'' :: _ =>
      (text? cs).map fun (content, rest) => (.text (String.ofList content), rest)
    | '[' :: rest =>
      match depth with
      | 0 => none
      | depth + 1 => (items? bound depth rest).map fun (items, rest) => (.array items, rest)
    | '{' :: rest =>
      match depth with
      | 0 => none
      | depth + 1 =>
        match skipBlanks rest with
        | '}' :: rest => some (.table .braces [], rest)
        | _ => (pairs? bound depth [] rest).map fun (entries, rest) =>
          (.table .braces entries, rest)
    | 't' :: rest => (behind? ['r', 'u', 'e'] rest).map fun rest => (.boolean true, rest)
    | 'f' :: rest => (behind? ['a', 'l', 's', 'e'] rest).map fun rest => (.boolean false, rest)
    | _ => number? cs

/-- The items of an array up to its bracket. A comma may follow the last one. -/
def items? : Nat → Nat → Read (List Node)
  | 0, _, _ => none
  | bound + 1, depth, cs =>
    match skipLayout cs with
    | ']' :: rest => some ([], rest)
    | start => do
      let (item, rest) ← value? bound depth start
      match skipLayout rest with
      | ']' :: rest => return ([item], rest)
      | ',' :: rest =>
        let (items, rest) ← items? bound depth rest
        return (item :: items, rest)
      | _ => none

/-- The pairs of a table in braces up to its brace, on one line and added to those before. -/
def pairs? : Nat → Nat → Entries → Read Entries
  | 0, _, _, _ => none
  | bound + 1, depth, entries, cs => do
    let ((path, key), rest) ← key? cs
    let rest ← behind? ['='] rest
    let (value, rest) ← value? bound depth (skipBlanks rest)
    let entries ← assign? path key value entries
    match skipBlanks rest with
    | '}' :: rest => return (entries, rest)
    | ',' :: rest => pairs? bound depth entries rest
    | _ => none

end

/-! ## Statements -/

/-- **A statement of a document.** -/
inductive Statement where
  /-- A key with its value. -/
  | pair (path : List String) (key : String) (value : Node)
  /-- A header in single brackets. -/
  | table (path : List String) (key : String)
  /-- A header in double brackets. -/
  | row (path : List String) (key : String)

/-- **Reads a statement** and the end of its line. -/
def statement? : Read Statement := fun cs => do
  match cs with
  | '[' :: '[' :: rest =>
    let ((path, key), rest) ← key? rest
    let rest ← behind? [']', ']'] rest
    return (.row path key, ← lineEnd? rest)
  | '[' :: rest =>
    let ((path, key), rest) ← key? rest
    let rest ← behind? [']'] rest
    return (.table path key, ← lineEnd? rest)
  | _ =>
    let ((path, key), rest) ← key? cs
    let rest ← behind? ['='] rest
    let (value, rest) ← value? (2 * rest.length + 2) depthLimit (skipBlanks rest)
    return (.pair path key value, ← lineEnd? rest)

/-! ## Documents -/

/-- **A document so far**: its tables and the path of the present one. -/
structure Document where
  entries : Entries := []
  current : List String := []

/-- What a statement does to a document. -/
def Document.apply? (document : Document) : Statement → Option Document
  | .pair path key value => do
    let entries ←
      descend false (fun _ below => assign? path key value below) document.current .header
        document.entries
    return { document with entries := entries }
  | .table path key => do
    let entries ← openTable? path key document.entries
    return ⟨entries, path ++ [key]⟩
  | .row path key => do
    let entries ← appendTable? path key document.entries
    return ⟨entries, path ++ [key]⟩

/-- The rest of a document, given a bound on its statements. -/
def statementsWithin : Nat → Document → List Char → Option Document
  | 0, _, _ => none
  | bound + 1, document, cs =>
    match skipLayout cs with
    | [] => some document
    | start =>
      if start.head? = some '#' then
        if (skipComment start).isEmpty then some document else none
      else do
        let (statement, rest) ← statement? start
        let document ← document.apply? statement
        statementsWithin bound document rest

/-- **The tree that a text describes**, if it is a TOML document. A byte order mark at its start is
left out. -/
def read? (text : String) : Option Entries :=
  let cs := match text.toList with
    | '\uFEFF' :: rest => rest
    | cs => cs
  (statementsWithin (cs.length + 1) {} cs).map (·.entries)

end OneUnknown.Toml
