import OneUnknown.Solver

/-!
# Solving many equations

A batch is a text with one equation on a line, each behind its kind and a colon. Blank lines and
lines that begin with `#` are comments. Every other line has one line in the report, also if it
could not be read or solved.

* **`BatchLine`**, `BatchLine.ofLine`: what a line says;
* **`BatchRecord`**, `BatchRecord.of?`: what became of a line;
* `batchRecords`, **`batchReport`**, `failureCount`: what became of all lines;
* `batchWarnings`: what is said about lines that could not be read.
-/

namespace OneUnknown

/-! ## Lines -/

/-- **What a line of a batch says.** -/
inductive BatchLine where
  | comment
  | equation (kind : EquationKind) (text : List Char)
  | invalid (message : String)

/-- **Reads a line of a batch.** The kind ends at the first colon. -/
def BatchLine.ofLine (line : List Char) : BatchLine :=
  let line := trim line
  if line.isEmpty || line.head? = some '#' then .comment
  else match cut? (· == ':') line with
    | none =>
      .invalid ("expected '<kind>: <equation>', got '" ++ String.ofList line ++ "'")
    | some (name, text) =>
      match EquationKind.ofName? name with
      | some kind => .equation kind (trim text)
      | none => .invalid (EquationKind.unknownName name)

/-! ## Records -/

/-- **What became of a line**: its number, what it asked and what came of it, whether that counts
as a failure, and whether it could not even be read. -/
structure BatchRecord where
  line : Nat
  question : String
  outcome : String
  failed : Bool
  unreadable : Bool

namespace BatchRecord

/-- The record of a line; comments have none. -/
def of? (settings : Settings) (number : Nat) (line : List Char) : Option BatchRecord :=
  match BatchLine.ofLine line with
  | .comment => none
  | .invalid message => some
    { line := number
      question := String.ofList (trim line)
      outcome := message
      failed := true
      unreadable := true }
  | .equation kind text =>
    let equation := String.ofList text
    let result := solve settings kind equation
    some
      { line := number
        question := kind.tag ++ ": " ++ equation
        outcome := answerText result
        failed := !result.toBool
        unreadable := false }

/-- The line of a record in the report. -/
def text (record : BatchRecord) : String := record.question ++ " => " ++ record.outcome ++ "\n"

end BatchRecord

/-- The records of lines that are numbered from `number` on. -/
def recordsFrom (settings : Settings) (number : Nat) : List (List Char) → List BatchRecord
  | [] => []
  | line :: rest =>
    (BatchRecord.of? settings number line).toList ++ recordsFrom settings (number + 1) rest

/-- **The records of a batch**, in the order of its lines. -/
def batchRecords (settings : Settings) (source : String) : List BatchRecord :=
  recordsFrom settings 1 (lines source.toList)

/-! ## The report -/

/-- **The report of a batch.** -/
def batchReport (records : List BatchRecord) : String := String.join (records.map (·.text))

/-- How many lines failed. -/
def failureCount (records : List BatchRecord) : Nat := records.countP (·.failed)

/-- What is said about the lines that could not be read, with their numbers. -/
def batchWarnings (records : List BatchRecord) : List String :=
  (records.filter (·.unreadable)).map fun record =>
    "line " ++ natText record.line ++ ": " ++ record.outcome

end OneUnknown
