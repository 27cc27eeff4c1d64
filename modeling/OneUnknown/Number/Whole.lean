import OneUnknown.Number.Rounding

/-!
# Whole numbers among floating-point numbers

A coefficient that is a whole number, or within a billionth of one, is treated exactly.

* `isIntegral`: the number is as good as whole;
* **`asInteger?`**: the whole number meant, if every whole number up to it can be represented.
-/

namespace OneUnknown

/-- How far from a whole number a value may be and still stand for it. -/
def integralTolerance : Float := 1e-9

/-- The greatest magnitude up to which every whole number can be represented, two to the 53. -/
def exactLimit : Float := 9007199254740992

/-- The number is finite and whole up to the tolerance. -/
def isIntegral (x : Float) : Bool :=
  x.isFinite && (x - roundFloat x).abs ≤ integralTolerance

/-- The whole part of the magnitude of a finite number, with its sign. -/
def truncated (x : Float) : Int :=
  match Dyadic.ofFloat? x with
  | none => 0
  | some d =>
    let whole : Int := d.numerator / d.denominator
    if d.negative then -whole else whole

/-- **The whole number that a value stands for**, if it is within the exact range. -/
def asInteger? (x : Float) : Option Int :=
  if isIntegral x && x.abs ≤ exactLimit then some (truncated (roundFloat x)) else none

end OneUnknown
