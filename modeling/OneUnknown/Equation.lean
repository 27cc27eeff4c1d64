import OneUnknown.Polynomial
import OneUnknown.SolveError

/-!
# Equations in one unknown

An equation is a polynomial, or two of them with a sign of equality between, and the letter that
its unknown is called by. Four things are checked while the sides are built up: that there is one
unknown only, that degrees stay within a limit, that nothing is divided by zero or by the unknown,
and that powers of numbers are finite.

* **`Equation`**, `Equation.normalized`: two sides, and their difference;
* `boundedMul`, `divideBy`, `raise`: the checked operations on polynomials;
* `bindUnknown`: the check that there is one unknown.
-/

namespace OneUnknown

variable {K : Type} [Scalar K]

/-! ## The type -/

/-- **An equation**: the unknown, if one is mentioned, and the sides. Without a sign of equality
there is no right side. -/
structure Equation (K : Type) [Scalar K] where
  unknown? : Option Char
  left : Polynomial K
  right? : Option (Polynomial K)

namespace Equation

/-- **Left side minus right side**, whose zeros solve the equation. A missing right side counts as
zero. -/
def normalized (e : Equation K) : Polynomial K :=
  match e.right? with
  | some right => e.left.sub right
  | none => e.left

/-- The letter by which the unknown is called in an answer. -/
def variableName (e : Equation K) : Char := e.unknown?.getD 'x'

end Equation

/-! ## Checked operations -/

/-- The product, unless its degree exceeds the limit. -/
def boundedMul (limit column : Nat) (p q : Polynomial K) : SolveResult (Polynomial K) :=
  if limit < p.degree + q.degree then .error (.malformed (.degreeTooHigh limit column))
  else .ok (p.mul q)

/-- The quotient by a number, as the product with its reciprocal. -/
def divideBy (column : Nat) (p q : Polynomial K) : SolveResult (Polynomial K) :=
  match q.asConstant? with
  | some d => if d == 0 then .error .divisionByZero else .ok (p.scale (1 / d))
  | none => .error (.malformed (.divisionByUnknown column))

/-- The power, of a number if it is finite, of a polynomial if its degree is within the limit. -/
def raise (limit column : Nat) (p : Polynomial K) (exponent : Nat) :
    SolveResult (Polynomial K) :=
  match p.asConstant? with
  | some c =>
    let value := Scalar.power c exponent
    if Scalar.isFinite value then .ok (.constant value)
    else .error (.malformed (.numberTooLarge column))
  | none =>
    if limit < p.degree * exponent then .error (.malformed (.degreeTooHigh limit column))
    else .ok (p.pow exponent)

/-- The unknown after a letter has been met: that letter, and no other. -/
def bindUnknown (unknown? : Option Char) (name : Char) (column : Nat) : SolveResult Char :=
  match unknown? with
  | none => .ok name
  | some first =>
    if first = name then .ok name
    else .error (.malformed (.mixedUnknowns first name column))

end OneUnknown
