import OneUnknown.Kind
import OneUnknown.Token

/-!
# Why an equation is not solved

An equation may be malformed, divide by zero, lack an unknown, or be of a kind that cannot be
solved. A malformed equation is described by a complaint, which most often knows the column that
it is about.

* **`Complaint`**, `Complaint.column?`, `Complaint.message`: what is wrong with an equation;
* **`SolveError`**, `SolveError.column?`, `SolveError.message`: why there is no answer.
-/

namespace OneUnknown

/-! ## Complaints -/

/-- **What is wrong with an equation.** -/
inductive Complaint where
  /-- The text is no row of tokens. -/
  | lexical (error : LexError)
  /-- A second sign of equality. -/
  | severalEquals (column : Nat)
  /-- A token that cannot follow what stands before it. -/
  | unexpected (lexeme : String) (column : Nat)
  /-- A token where an operand has to stand. -/
  | expectedOperand (lexeme : String) (column : Nat)
  /-- The end of input where an operand has to stand. -/
  | expectedExpression (column : Nat)
  /-- Something else where a parenthesis has to be closed. -/
  | expectedClose (column : Nat)
  /-- A number that directly follows a factor. -/
  | missingOperator (lexeme : String) (column : Nat)
  /-- An exponent that is not a number in range. -/
  | badExponent (column : Nat)
  /-- A power of a number that is out of range. -/
  | numberTooLarge (column : Nat)
  /-- A product or a power whose degree exceeds the limit. -/
  | degreeTooHigh (limit : Nat) (column : Nat)
  /-- A second unknown. -/
  | mixedUnknowns (first second : Char) (column : Nat)
  /-- A divisor that contains the unknown. -/
  | divisionByUnknown (column : Nat)
  /-- No sign of equality at all. -/
  | missingEquals
  /-- An expression that is set equal to nothing. -/
  | missingRightSide (column : Nat)
  /-- The degree is too high for a linear equation. -/
  | notLinear (degree : Nat)
  /-- The degree is too high for a quadratic equation. -/
  | aboveQuadratic (degree : Nat)
  /-- The degree is too low for a quadratic equation. -/
  | missingSquare
  /-- The root of a negative number is asked for. -/
  | negativeRadicand
  /-- There is nothing to solve. -/
  | emptyInput

namespace Complaint

/-- The column that a complaint is about. -/
def column? : Complaint → Option Nat
  | lexical error => some error.column
  | severalEquals column | unexpected _ column | expectedOperand _ column
  | expectedExpression column | expectedClose column | missingOperator _ column
  | badExponent column | numberTooLarge column | degreeTooHigh _ column
  | mixedUnknowns _ _ column | divisionByUnknown column | missingRightSide column => some column
  | missingEquals | notLinear _ | aboveQuadratic _ | missingSquare | negativeRadicand
  | emptyInput => none

/-- **The wording of a complaint.** -/
def message : Complaint → String
  | lexical error => error.message
  | severalEquals _ => "Please enter a valid equation with only one \"=\" sign."
  | unexpected lexeme _ => "Unexpected '" ++ lexeme ++ "'"
  | expectedOperand lexeme _ =>
    "Unexpected '" ++ lexeme ++ "', expected a number, variable or '('"
  | expectedExpression _ => "Expected an expression"
  | expectedClose _ => "Expected ')'"
  | missingOperator lexeme _ => "Missing operator before '" ++ lexeme ++ "'"
  | badExponent _ => "Exponent must be a non-negative integer"
  | numberTooLarge _ => "Number is too large"
  | degreeTooHigh limit _ => "Degree exceeds the supported maximum of " ++ natText limit
  | mixedUnknowns first second _ =>
    "Equation mixes variables '" ++ first.toString ++ "' and '" ++ second.toString ++ "'"
  | divisionByUnknown _ => "Division by an expression containing the variable is not supported"
  | missingEquals => "Please enter a valid equation with an \"=\" sign."
  | missingRightSide _ => "Missing '= 0' right-hand side"
  | notLinear degree =>
    "Not a linear equation: the variable appears with degree " ++ natText degree
  | aboveQuadratic degree =>
    "Degree " ++ natText degree ++ " is too high for a quadratic; use the polynomial solver"
  | missingSquare => "Missing x^2 term"
  | negativeRadicand => "Cannot take the square root of a negative number"
  | emptyInput => "Please enter an equation."

end Complaint

/-! ## Errors -/

/-- **Why there is no answer.** -/
inductive SolveError where
  | malformed (complaint : Complaint)
  | divisionByZero
  | noVariable
  | notImplemented (kind : EquationKind)

namespace SolveError

/-- The column that an error points at. -/
def column? : SolveError → Option Nat
  | malformed complaint => complaint.column?
  | _ => none

/-- The wording of an error. -/
def message : SolveError → String
  | malformed complaint => complaint.message
  | divisionByZero => "division by zero"
  | noVariable => "No variable found in the equation."
  | notImplemented kind => kind.tag ++ " equations are not implemented yet."

end SolveError

/-- The outcome of something that may leave an equation unsolved. -/
abbrev SolveResult := Except SolveError

end OneUnknown
