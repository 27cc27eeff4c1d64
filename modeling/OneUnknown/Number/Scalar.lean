import OneUnknown.Number.Rounding

/-!
# Numbers that an equation may be read in

Reading an equation needs little of its numbers: the four operations, powers with a natural
exponent, a test for zero, and the value of a literal. It is written for any such numbers, so that
what floating-point arithmetic computes can be compared with exact arithmetic.

* **`Scalar`**: the operations;
* the floating-point numbers, in which equations are solved;
* the rational numbers, in which nothing is rounded.
-/

namespace OneUnknown

/-- **Numbers with the arithmetic of equations.** The test `==` may be coarser than equality: the
two floating-point zeros pass it, and `NaN` fails it against itself. -/
class Scalar (K : Type) extends Zero K, One K, Add K, Sub K, Mul K, Div K, Neg K, NatCast K,
    BEq K where
  /-- A number to a natural exponent. -/
  power : K → Nat → K
  /-- Neither infinite nor undefined. -/
  isFinite : K → Bool
  /-- The number that a literal of this value stands for. -/
  ofFloat : Float → K

/-! ## Floating-point numbers -/

instance natCastFloat : NatCast Float := ⟨Float.ofNat⟩

instance : Scalar Float where
  power base exponent := Float.pow base (Float.ofNat exponent)
  isFinite := Float.isFinite
  ofFloat x := x

/-! ## Rational numbers -/

/-- The exact value of a finite floating-point number; infinities and `NaN` are sent to zero. -/
def exactValue (x : Float) : Rat :=
  match Dyadic.ofFloat? x with
  | none => 0
  | some d => mkRat (if d.negative then -(d.numerator : Int) else d.numerator) d.denominator

instance : Scalar Rat where
  toZero := Zero.ofOfNat0
  toOne := One.ofOfNat1
  power := Rat.pow
  isFinite _ := true
  ofFloat := exactValue

end OneUnknown
