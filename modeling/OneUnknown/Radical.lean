import OneUnknown.Integer.SquareFree
import OneUnknown.Number.FixedPoint
import OneUnknown.Number.Whole
import OneUnknown.SolveError

/-!
# Numbers with one square root

The roots of quadratic equations with whole coefficients are numbers
`(constant + coefficient · √radicand) / denominator`. They are kept reduced: the radicand has no
square factor, the three whole numbers have no common factor, and the denominator is positive.

* `euclid`: the greatest common divisor (`euclid_eq_gcd`);
* **`Radical`**: the parts of such a number;
* `Radical.IsReduced`, `Radical.Reduced`: the reduced form, and the numbers in it;
* `Radical.reduced`: the reduction, **`Radical.of?`**: any parts reduced, unless the denominator is
  zero;
* `Radical.fraction?`, `Radical.sqrt?`: the special cases without a root, and with nothing else;
* **`Radical.of`**, `Radical.fraction`, `Radical.sqrt`: the same as parts of an answer;
* `Radical.value`: the number in floating-point arithmetic;
* **`Radical.text`**: its exact text;
* **`fractionText`**, **`rootText`**: a quotient, and a square root over a number, exact if their
  parts are whole numbers and otherwise decimals with a given number of places;
* `assignment`: a solution with the letter of its unknown.
-/

namespace OneUnknown

/-! ## Greatest common divisors -/

/-- **The greatest common divisor**, by repeated remainders. -/
def euclid (x y : Nat) : Nat := if y = 0 then x else euclid y (x % y)
termination_by y
decreasing_by exact Nat.mod_lt x (Nat.pos_of_ne_zero ‹_›)

theorem euclid_eq_gcd (x y : Nat) : euclid x y = Nat.gcd x y := by
  induction x, y using euclid.induct with
  | case1 x => rw [euclid, if_pos rfl, Nat.gcd_zero_right]
  | case2 x y h ih =>
    rw [euclid, if_neg h, ih, Nat.gcd_comm y, ← Nat.gcd_rec, Nat.gcd_comm]

/-! ## The type -/

/-- **The number `(constant + coefficient · √radicand) / denominator`.** -/
structure Radical where
  constant : Int
  coefficient : Int
  radicand : Nat
  denominator : Int
  deriving DecidableEq

namespace Radical

/-- **The reduced form.** A number without a root has radicand one. -/
structure IsReduced (r : Radical) : Prop where
  denominator_pos : 0 < r.denominator
  gcd_eq_one :
    Nat.gcd (Nat.gcd r.constant.natAbs r.coefficient.natAbs) r.denominator.natAbs = 1
  squareFree : ∀ p, 2 ≤ p → ¬ p * p ∣ r.radicand
  coefficient_eq_zero_iff : r.coefficient = 0 ↔ r.radicand = 1

/-- **A reduced radical**, with the proof that it is one. -/
structure Reduced extends Radical where
  isReduced : toRadical.IsReduced

theorem Reduced.toRadical_injective : Function.Injective Reduced.toRadical
  | ⟨_, _⟩, ⟨_, _⟩, rfl => rfl

/-! ## Reduction -/

/-- Square factors move out of the root. -/
def extracted (r : Radical) : Radical :=
  let (k, m) := squareFree r.radicand
  { r with coefficient := r.coefficient * k, radicand := m }

/-- A root of one joins the constant, and a root that is taken zero times is forgotten. -/
def collapsed (r : Radical) : Radical :=
  if r.radicand = 1 then { r with constant := r.constant + r.coefficient, coefficient := 0 }
  else if r.coefficient = 0 then { r with radicand := 1 }
  else r

/-- The common factor of the three whole numbers. -/
def commonFactor (r : Radical) : Nat :=
  euclid (euclid r.constant.natAbs r.coefficient.natAbs) r.denominator.natAbs

/-- The common factor goes. -/
def cancelled (r : Radical) : Radical :=
  { r with
    constant := r.constant.tdiv r.commonFactor
    coefficient := r.coefficient.tdiv r.commonFactor
    denominator := r.denominator.tdiv r.commonFactor }

/-- The denominator becomes positive. -/
def normalizedSign (r : Radical) : Radical :=
  if r.denominator < 0 then
    { r with
      constant := -r.constant
      coefficient := -r.coefficient
      denominator := -r.denominator }
  else r

/-- **The reduced form of a number** whose denominator is not zero. -/
def reduced (r : Radical) : Radical := r.extracted.collapsed.cancelled.normalizedSign

/-- **The number with the given parts, reduced.** There is none with a denominator of zero. -/
def of? (constant coefficient : Int) (radicand : Nat) (denominator : Int) : Option Radical :=
  if denominator = 0 then none else some (reduced ⟨constant, coefficient, radicand, denominator⟩)

/-- A fraction of whole numbers. -/
def fraction? (numerator denominator : Int) : Option Radical := of? numerator 0 1 denominator

/-- A root over a whole number. -/
def sqrt? (radicand : Nat) (denominator : Int) : Option Radical := of? 0 1 radicand denominator

/-! ## Parts of an answer -/

/-- A number that there may be none of because its denominator is zero. -/
def orDivisionByZero : Option Radical → SolveResult Radical
  | some r => .ok r
  | none => .error .divisionByZero

/-- **The number with the given parts, reduced.** A denominator of zero is refused. -/
def of (constant coefficient : Int) (radicand : Nat) (denominator : Int) : SolveResult Radical :=
  orDivisionByZero (of? constant coefficient radicand denominator)

/-- A fraction of whole numbers, unless the denominator is zero. -/
def fraction (numerator denominator : Int) : SolveResult Radical :=
  orDivisionByZero (fraction? numerator denominator)

/-- A root over a whole number, unless this is zero. -/
def sqrt (radicand : Nat) (denominator : Int) : SolveResult Radical :=
  orDivisionByZero (sqrt? radicand denominator)

theorem fraction_eq (numerator denominator : Int) :
    fraction numerator denominator = of numerator 0 1 denominator := rfl

theorem sqrt_eq (radicand : Nat) (denominator : Int) :
    sqrt radicand denominator = of 0 1 radicand denominator := rfl

/-! ## Queries -/

/-- The number has no root in it. -/
def isRational (r : Radical) : Bool := r.coefficient == 0

/-- The number is zero. -/
def isZero (r : Radical) : Bool := r.constant == 0 && r.coefficient == 0

/-- The number in floating-point arithmetic. -/
def value (r : Radical) : Float :=
  (Float.ofInt r.constant + Float.ofInt r.coefficient * (Float.ofNat r.radicand).sqrt) /
    Float.ofInt r.denominator

/-! ## Text -/

/-- The root with the magnitude of its coefficient, which is left out if it is one. -/
def rootText (r : Radical) : String :=
  (if r.coefficient.natAbs = 1 then "" else natText r.coefficient.natAbs) ++ "√" ++
    natText r.radicand

/-- The numerator of a number that has a root in it. -/
def numeratorText (r : Radical) : String :=
  if r.constant = 0 then (if r.coefficient < 0 then "-" else "") ++ r.rootText
  else intText r.constant ++ (if r.coefficient < 0 then " - " else " + ") ++ r.rootText

/-- **The exact text of a number.** A numerator with a root is set in parentheses before a
denominator, and a denominator of one is left out. -/
def text (r : Radical) : String :=
  if r.coefficient = 0 then
    if r.denominator = 1 then intText r.constant
    else intText r.constant ++ "/" ++ intText r.denominator
  else if r.denominator = 1 then r.numeratorText
  else "(" ++ r.numeratorText ++ ")/" ++ intText r.denominator

end Radical

/-! ## Solutions -/

/-- **The text of a quotient**: a reduced fraction of whole numbers, or a decimal. -/
def fractionText (places : Nat) (numerator denominator : Float) : SolveResult String :=
  if denominator == 0 then .error .divisionByZero
  else match asInteger? numerator, asInteger? denominator with
    | some n, some d => do return (← Radical.fraction n d).text
    | _, _ => .ok (decimalText places (numerator / denominator))

/-- **The text of a square root over a number**: exact for whole numbers, or a decimal. -/
def rootText (places : Nat) (radicand denominator : Float) : SolveResult String :=
  if denominator == 0 then .error .divisionByZero
  else if radicand < 0 then .error (.malformed .negativeRadicand)
  else match asInteger? radicand, asInteger? denominator with
    | some r, some d => do return (← Radical.sqrt r.toNat d).text
    | _, _ => .ok (decimalText places (radicand.sqrt / denominator))

/-- A solution with the letter of its unknown. -/
def assignment (name : Char) (value : String) : String := name.toString ++ " = " ++ value

end OneUnknown
