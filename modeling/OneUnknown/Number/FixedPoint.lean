import OneUnknown.Number.Rounding
import OneUnknown.Number.Shortest

/-!
# Decimals with a given number of places

A value is rounded to a number of places, written with exactly that many, and then freed of the
zeros that say nothing.

* `fixedText`: the exact value with a given number of places, halves to the even neighbour;
* `withoutTrailingZeros`: the same number without idle zeros after the point;
* **`decimalText`**: a value rounded and written as short as its places allow;
* **`roundTo`**: the rounded value itself, never `-0`.
-/

namespace OneUnknown

/-! ## Fixed places -/

/-- **The exact value with `places` digits after the point.** -/
def fixedText (places : Nat) (x : Float) : String :=
  signedText (fun d => pointed places (halfEven (d.numerator * Nat.pow 10 places) d.denominator)) x

/-! ## Idle zeros -/

/-- The text without zeros at its end, and without the point if that is then last. -/
def dropIdle (text : List Char) : List Char :=
  let kept := (text.reverse.dropWhile (· == '0')).reverse
  if kept.getLast? = some '.' then kept.dropLast else kept

/-- **The same number in fewest characters**: zeros at the end go if they stand behind a point, and
zero has no sign. -/
def withoutTrailingZeros (text : List Char) : List Char :=
  let short := if '.' ∈ text then dropIdle text else text
  if short = ['-', '0'] then ['0'] else short

/-! ## Rounded values -/

/-- The value rounded to `places` decimal places, with its sign even if it is zero. -/
def roundedAt (places : Nat) (x : Float) : Float :=
  roundFloat (x * powerOfTen places) / powerOfTen places

/-- **The text of a value rounded to `places` decimal places.** -/
def decimalText (places : Nat) (x : Float) : String :=
  String.ofList (withoutTrailingZeros (fixedText places (roundedAt places x)).toList)

/-- **The value rounded to `places` decimal places**, with `-0` made `0`. -/
def roundTo (places : Nat) (x : Float) : Float :=
  let rounded := roundedAt places x
  if rounded == 0 then 0 else rounded

end OneUnknown
