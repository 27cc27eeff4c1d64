import OneUnknown.Number.Shortest
import OneUnknown.Polynomial

/-!
# Polynomials as text

A polynomial is written by falling power in the letter `x`. Terms with coefficient zero are left
out, a coefficient of magnitude one is not written before a power, and signs stand between the
terms with a blank on either side.

* `termText`: the magnitude of a term;
* **`Polynomial.text`**: the text of a polynomial.
-/

namespace OneUnknown

/-- The text of a term without its sign: the magnitude of its coefficient and a power. -/
def termText (magnitude : Float) (power : Nat) : String :=
  let factor := if magnitude == 1 then "" else plainText magnitude
  match power with
  | 0 => plainText magnitude
  | 1 => factor ++ "x"
  | _ => factor ++ "x^" ++ natText power

/-- The text of terms that follow a first one, each with its sign before it. -/
def furtherTerms : List (Float × Nat) → String
  | [] => ""
  | (c, power) :: rest =>
    (if c < 0 then " - " else " + ") ++ termText c.abs power ++ furtherTerms rest

namespace Polynomial

/-- The terms by falling power, without those whose coefficient is zero. -/
def terms (p : Polynomial Float) : List (Float × Nat) :=
  p.coeffs.zipIdx.reverse.filter fun (c, _) => !(c == 0)

/-- **The text of a polynomial.** -/
def text (p : Polynomial Float) : String :=
  match p.terms with
  | [] => "0"
  | (c, power) :: rest =>
    (if c < 0 then "-" else "") ++ termText c.abs power ++ furtherTerms rest

end Polynomial

end OneUnknown
