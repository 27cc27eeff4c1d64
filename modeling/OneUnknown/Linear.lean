import OneUnknown.Equation.Reader
import OneUnknown.Radical
import OneUnknown.Text.Alphabetic

/-!
# Linear equations

A linear equation needs exactly one sign of equality and some letter, both of which are looked
for in the text before it is read. Its solution is a quotient of two coefficients.

* `everyNumberSolves`, `nothingSolves`: the answers where the unknown drops out;
* `signColumns`: where the signs of equality stand in a text;
* **`Linear.solve`**: the answer to a linear equation.
-/

namespace OneUnknown

/-! ## Answers without a number -/

/-- The answer if both sides are the same. -/
def everyNumberSolves : String := "all real numbers"

/-- The answer if the sides differ by a number. -/
def nothingSolves : String := "no solution"

/-! ## Signs of equality in a text -/

/-- The columns of the signs of equality, counted from `column` on. -/
def signColumns (column : Nat) : List Char → List Nat
  | [] => []
  | c :: rest =>
    if c = '=' then column :: signColumns (column + 1) rest else signColumns (column + 1) rest

/-! ## Solving -/

namespace Linear

/-- What has to hold of a text before it is read as a linear equation. -/
def checkText (text : List Char) : SolveResult Unit :=
  match signColumns 1 text with
  | [] => .error (.malformed .missingEquals)
  | _ :: second :: _ => .error (.malformed (.severalEquals second))
  | [_] => if text.any isAlphabetic then .ok () else .error .noVariable

/-- The answer to an equation of degree one at most. -/
def answer (places : Nat) (e : Equation Float) : SolveResult String :=
  let p := e.normalized
  match p.degree? with
  | none => .ok everyNumberSolves
  | some 0 => .ok nothingSolves
  | some 1 => do
    let value ← fractionText places (-p.coeff 0) (p.coeff 1)
    return assignment e.variableName value
  | some degree => .error (.malformed (.notLinear degree))

/-- **The answer to a linear equation.** -/
def solve (places limit : Nat) (text : String) : SolveResult String := do
  checkText text.toList
  let e ← Equation.parse limit text
  answer places e

end Linear

end OneUnknown
