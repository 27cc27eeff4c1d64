/-!
# Floating-point numbers as exact fractions

A finite floating-point number is a whole number times a power of two. All that is printed,
rounded or compared exactly goes through this form.

* `Dyadic`: sign, significand and exponent;
* **`Dyadic.ofFloat?`**: the exact value of a finite number;
* `Dyadic.numerator`, `Dyadic.denominator`: its magnitude as a fraction;
* `totalKey`: the rank of a number in the total order, signed zeros and all.
-/

namespace OneUnknown

/-- A number `± significand · 2 ^ exponent`. -/
structure Dyadic where
  negative : Bool
  significand : Nat
  exponent : Int

namespace Dyadic

/-- **The exact value** of a floating-point number, if it is finite. The lowest exponent is shared
by the zeros and the subnormal numbers, whose significand lacks the leading bit. -/
def ofFloat? (x : Float) : Option Dyadic :=
  let bits : Nat := x.toBits.toNat
  let negative := bits / Nat.pow 2 63 == 1
  let biased : Nat := bits / Nat.pow 2 52 % Nat.pow 2 11
  let fraction : Nat := bits % Nat.pow 2 52
  if biased = 2047 then none
  else if biased = 0 then some ⟨negative, fraction, -1074⟩
  else some ⟨negative, Nat.pow 2 52 + fraction, (biased : Int) - 1075⟩

/-- The numerator of the magnitude. -/
def numerator (d : Dyadic) : Nat := d.significand * Nat.pow 2 d.exponent.toNat

/-- The denominator of the magnitude, a power of two. -/
def denominator (d : Dyadic) : Nat := Nat.pow 2 (-d.exponent).toNat

theorem denominator_pos (d : Dyadic) : 0 < d.denominator := Nat.pow_pos (by decide)

end Dyadic

/-! ## The total order -/

/-- **The rank of a number in the total order**: negative numbers below positive ones, `-0` below
`0`, the infinities outside the finite numbers, and what is no number beyond them. -/
def totalKey (x : Float) : Int :=
  let bits : Nat := x.toBits.toNat
  if bits < Nat.pow 2 63 then bits else -((bits - Nat.pow 2 63 : Nat) : Int) - 1

end OneUnknown
