import OneUnknown.Number.Dyadic

/-!
# Rounding

A quotient of natural numbers is rounded to the nearest whole number. Values are rounded with
halves away from zero, digits are written with halves to the even neighbour.

* `halfUp`, `halfEven`: rounding of `num / den`;
* **`roundFloat`**: the nearest whole floating-point number, halves away from zero;
* `powerOfTen`: the scale of a number of decimal places.
-/

namespace OneUnknown

/-! ## Quotients -/

/-- `num / den` to the nearest whole number, halves upwards. -/
def halfUp (num den : Nat) : Nat := (2 * num + den) / (2 * den)

/-- `num / den` to the nearest whole number, halves to the even neighbour. -/
def halfEven (num den : Nat) : Nat :=
  let down := num / den
  let rest := 2 * (num % den)
  if rest < den then down
  else if den < rest then down + 1
  else if down % 2 = 0 then down else down + 1

/-! ## Floating-point numbers -/

/-- The number with the sign of another. -/
def withSign (negative : Bool) (x : Float) : Float := if negative then -x else x

/-- **The nearest whole number**, halves away from zero; a zero keeps the sign of what was
rounded. Numbers without a fraction, the infinities and `NaN` stay as they are. -/
def roundFloat (x : Float) : Float :=
  match Dyadic.ofFloat? x with
  | none => x
  | some d =>
    if 0 ≤ d.exponent then x
    else withSign d.negative (Float.ofNat (halfUp d.numerator d.denominator))

/-- Ten to the number of places, the scale at which decimals are rounded. The exponent is a word of
32 bits with a sign, so that it is negative from 2³¹ places on. Up to 22 places the power is exact.
Beyond them it is the nearest number, where repeated multiplication would round more than once, and
an exponent of 309 or more makes it infinite. -/
def powerOfTen (places : Nat) : Float :=
  match (places : Int).bmod UInt32.size with
  | .ofNat n => Float.ofScientific 1 false (min n 309)
  | .negSucc n => Float.ofScientific 1 true (min (n + 1) 400)

end OneUnknown
