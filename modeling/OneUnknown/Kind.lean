import OneUnknown.Style
import OneUnknown.Text.Blank
import OneUnknown.Text.LowerCase

/-!
# Kinds of equations

Twelve kinds of equations have a name; three of them can be solved. A kind is named in four places,
each with its own strictness: by its exact tag in data, by its option name on the command line,
and freely, with any case, hyphens and underscores, by a person.

* `EquationKind`, `EquationKind.all`, `EquationKind.tag`, `EquationKind.isImplemented`;
* `EquationKind.ofTag?`: the exact tag;
* `EquationKind.ofOption?`: the name on a command line;
* **`EquationKind.ofName?`**: the free spelling;
* **`kindTable`**: every kind with what can be done about it, one on a line.
-/

namespace OneUnknown

/-- **A kind of equation.** -/
inductive EquationKind where
  | linear
  | quadratic
  | polynomial
  | rational
  | exponential
  | logarithmic
  | system
  | inequality
  | absoluteValue
  | piecewise
  | trigonometric
  | matrix
  deriving DecidableEq

namespace EquationKind

/-- All kinds, in the order in which they are listed. -/
def all : List EquationKind :=
  [linear, quadratic, polynomial, rational, exponential, logarithmic, system, inequality,
    absoluteValue, piecewise, trigonometric, matrix]

theorem mem_all (kind : EquationKind) : kind ∈ all := by cases kind <;> decide

/-- The name of a kind in data and in output. -/
def tag : EquationKind → String
  | linear => "linear"
  | quadratic => "quadratic"
  | polynomial => "polynomial"
  | rational => "rational"
  | exponential => "exponential"
  | logarithmic => "logarithmic"
  | system => "system"
  | inequality => "inequality"
  | absoluteValue => "absoluteValue"
  | piecewise => "piecewise"
  | trigonometric => "trigonometric"
  | matrix => "matrix"

/-- Equations of the kind can be solved. -/
def isImplemented : EquationKind → Bool
  | linear | quadratic | polynomial => true
  | _ => false

/-! ## Exact names -/

/-- The kind with exactly this tag. -/
def ofTag? (name : String) : Option EquationKind := all.find? fun kind => kind.tag == name

/-- The name of a kind on a command line: words are joined by hyphens. -/
def optionName : EquationKind → String
  | absoluteValue => "absolute-value"
  | kind => kind.tag

/-- The kind that an argument names, by its option name or by its tag. -/
def ofOption? (name : String) : Option EquationKind :=
  all.find? fun kind => kind.optionName == name || kind.tag == name

/-! ## Free spelling -/

/-- A name without hyphens and underscores, in lower case. -/
def plainName (name : List Char) : List Char :=
  (name.filter fun c => c ≠ '-' && c ≠ '_').flatMap lowerCase

/-- **The kind that a name means** when blanks around it, case, hyphens and underscores are
disregarded. -/
def ofName? (name : List Char) : Option EquationKind :=
  all.find? fun kind => plainName kind.tag.toList == plainName (trim name)

/-- What is said of a name that means no kind. -/
def unknownName (name : List Char) : String :=
  "unknown equation kind '" ++ String.ofList (trim name) ++ "'"

end EquationKind

/-! ## The table of kinds -/

/-- The width of the column of tags. -/
def tagWidth : Nat := 14

/-- The line of a kind: its tag, filled up to the width, and its status. -/
def kindRow (colours : Bool) (kind : EquationKind) : String :=
  let status :=
    if kind.isImplemented then Style.available.paint colours "implemented"
    else Style.faint.paint colours "not implemented"
  kind.tag ++ String.ofList (List.replicate (tagWidth - kind.tag.length) ' ') ++ " " ++ status

/-- **The table of all kinds.** -/
def kindTable (colours : Bool) : String :=
  "\n".intercalate (EquationKind.all.map (kindRow colours))

end OneUnknown
