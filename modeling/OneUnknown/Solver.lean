import OneUnknown.Linear
import OneUnknown.Quadratic
import OneUnknown.RealRoots
import OneUnknown.Style

/-!
# Solving an equation of a given kind

* **`solve`**: the answer to an equation of a kind, blanks around it left out;
* `shownComplaint`, **`SolveError.userMessage`**: what a person is told if there is none;
* `diagnostic`, **`renderError`**: the picture of an error, with the equation below it and a mark
  under the column that it is about.
-/

namespace OneUnknown

/-! ## Solving -/

/-- **The answer to an equation of a given kind.** -/
def solve (settings : Settings) (kind : EquationKind) (text : String) : SolveResult String :=
  let equation := trimString text
  let places := settings.decimalPlaces
  let limit := settings.maxDegree
  if equation.isEmpty then .error (.malformed .emptyInput)
  else match kind with
    | .linear => Linear.solve places limit equation
    | .quadratic => Quadratic.solve places limit equation
    | .polynomial => RealRoots.solve settings.newton places limit equation
    | kind => .error (.notImplemented kind)

/-! ## What a person is told -/

/-- The wordings that are requests already and need no introduction. -/
def requests : List String :=
  [Complaint.missingEquals.message, (Complaint.severalEquals 0).message,
    Complaint.emptyInput.message]

/-- A complaint's wording as it is shown to a person. -/
def shownComplaint (message : String) : String :=
  if message ∈ requests then message else "Error in solving the equation: " ++ message

/-- What a division by zero is called. -/
def undefinedAnswer : String := "undefined"

/-- **What a person is told about an error.** -/
def SolveError.userMessage : SolveError → String
  | malformed complaint => shownComplaint complaint.message
  | divisionByZero => undefinedAnswer
  | e => e.message

/-- The answer, or what a person is told instead. -/
def answerText : SolveResult String → String
  | .ok answer => answer
  | .error e => e.userMessage

/-! ## Pictures of errors -/

/-- A line of the picture, behind its gutter. -/
def gutterLine (colours : Bool) (line : String) : String :=
  " " ++ Style.faint.paint colours "|" ++ " " ++ line ++ "\n"

/-- The mark under a column. -/
def columnMark (column : Nat) : String := String.ofList (List.replicate (column - 1) ' ' ++ ['^'])

/-- **The picture of a message**, with the source and a mark below if the column is known. -/
def diagnostic (colours : Bool) (source message : String) (column? : Option Nat) : String :=
  Style.error.paint colours "error:" ++ " " ++ Style.wording.paint colours message ++ "\n" ++
    match column? with
    | none => ""
    | some column =>
      gutterLine colours source ++
        gutterLine colours (Style.marker.paint colours (columnMark column))

/-- **The picture of an error** in an equation. -/
def renderError (colours : Bool) (source : String) (e : SolveError) : String :=
  diagnostic colours source e.userMessage e.column?

end OneUnknown
