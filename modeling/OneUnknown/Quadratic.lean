import OneUnknown.Equation.Reader
import OneUnknown.Radical

/-!
# Quadratic equations

With whole coefficients and a discriminant in the exact range, the solutions are written as
radicals. Otherwise they are computed and written as decimals, and a discriminant that is small
beside the terms it is the difference of counts as zero.

* **`Quadratic`**, `Quadratic.parse`: the coefficients of an equation `a x² + b x + c = 0`;
* `QuadraticRoots`, **`Quadratic.roots`**: the solutions in floating-point arithmetic;
* `exactDiscriminant?`, **`Quadratic.exactText`**: the solutions as radicals;
* **`Quadratic.rootsText`**, **`Quadratic.solve`**: the answer.
-/

namespace OneUnknown

/-! ## Coefficients -/

/-- **A quadratic equation** `a x² + b x + c = 0` in the unknown `name`. -/
structure Quadratic where
  name : Char
  a : Float
  b : Float
  c : Float

namespace Quadratic

/-- The discriminant in floating-point arithmetic. -/
def discriminant (q : Quadratic) : Float := q.b * q.b - 4 * q.a * q.c

/-- The quadratic equation that an equation is, if its degree is two. -/
def ofEquation (e : Equation Float) : SolveResult Quadratic :=
  let p := e.normalized
  match p.degree? with
  | some 2 => .ok ⟨e.variableName, p.coeff 2, p.coeff 1, p.coeff 0⟩
  | some degree =>
    if 2 < degree then .error (.malformed (.aboveQuadratic degree))
    else .error (.malformed .missingSquare)
  | none => .error (.malformed .missingSquare)

/-- **The quadratic equation that a text spells.** Its right side must be written out. -/
def parse (limit : Nat) (text : String) : SolveResult Quadratic := do
  let e ← Equation.parse limit text
  if e.right?.isNone then .error (.malformed (.missingRightSide (text.length + 1)))
  else ofEquation e

end Quadratic

/-! ## Solutions in floating-point arithmetic -/

/-- **The solutions of a quadratic equation**: two numbers, one, or a conjugate pair given by its
real part and its positive imaginary part. -/
inductive QuadraticRoots where
  | distinct (first second : Float)
  | repeated (root : Float)
  | complex (re im : Float)

/-- The greater of two numbers, or the one that is a number. -/
def greater (x y : Float) : Float :=
  if x.isNaN then y else if y.isNaN then x else if x < y then y else x

/-- How small a discriminant is beside its terms when it counts as zero. -/
def discriminantTolerance : Float := 1e-12

/-- **The solutions of `a x² + b x + c = 0`**, the one with the positive root first. -/
def Quadratic.roots (a b c : Float) : QuadraticRoots :=
  let discriminant := b * b - 4 * a * c
  let size := greater (b * b) (4 * a * c).abs
  let twice := 2 * a
  if discriminant.abs ≤ discriminantTolerance * size then .repeated (-b / twice)
  else if 0 < discriminant then
    .distinct ((-b + discriminant.sqrt) / twice) ((-b - discriminant.sqrt) / twice)
  else .complex (-b / twice) ((-discriminant).sqrt / twice.abs)

/-! ## Exact solutions -/

/-- The discriminant, if it is in the exact range once it is a floating-point number. -/
def exactDiscriminant? (a b c : Int) : Option Int :=
  let discriminant := b * b - 4 * a * c
  if Float.ofNat discriminant.natAbs ≤ exactLimit then some discriminant else none

/-- The text of a conjugate pair; a real part of zero is left out. -/
def complexText (name : Char) (re : String) (reIsZero : Bool) (im : String) : String :=
  if reIsZero then assignment name ("±" ++ im ++ "i")
  else assignment name (re ++ " ± " ++ im ++ "i")

/-- The text of two solutions. -/
def pairText (name : Char) (first second : String) : String :=
  assignment name first ++ ", " ++ assignment name second

namespace Quadratic

/-- The two real solutions as radicals, given a positive discriminant; a root that is whole is
added to the fraction. -/
def realPair (a b : Int) (discriminant : Nat) : SolveResult (Radical × Radical) := do
  if isPerfectSquare discriminant then
    let s : Int := isqrt discriminant
    return (← Radical.fraction (-b + s) (2 * a), ← Radical.fraction (-b - s) (2 * a))
  else
    return (← Radical.of (-b) 1 discriminant (2 * a), ← Radical.of (-b) (-1) discriminant (2 * a))

/-- **The solutions as radicals**, given the discriminant; `a` has to be other than zero. -/
def exactText (name : Char) (a b discriminant : Int) : SolveResult String := do
  if 0 < discriminant then
    let (r₁, r₂) ← realPair a b discriminant.toNat
    return pairText name r₁.text r₂.text
  else if discriminant = 0 then
    return assignment name (← Radical.fraction (-b) (2 * a)).text
  else
    let re ← Radical.fraction (-b) (2 * a)
    let im ← Radical.sqrt discriminant.natAbs (2 * a).natAbs
    return complexText name re.text re.isZero im.text

/-- The solutions as decimals. -/
def decimalRoots (places : Nat) (q : Quadratic) : String :=
  match roots q.a q.b q.c with
  | .distinct r₁ r₂ => pairText q.name (decimalText places r₁) (decimalText places r₂)
  | .repeated r => assignment q.name (decimalText places r)
  | .complex re im =>
    complexText q.name (decimalText places re) (re == 0) (decimalText places im)

/-! ## The answer -/

/-- **The text of the solutions**, exact where that is possible. -/
def rootsText (places : Nat) (q : Quadratic) : SolveResult String :=
  match asInteger? q.a, asInteger? q.b, asInteger? q.c with
  | some a, some b, some c =>
    match exactDiscriminant? a b c with
    | some discriminant => exactText q.name a b discriminant
    | none => .ok (q.decimalRoots places)
  | _, _, _ => .ok (q.decimalRoots places)

/-- **The answer to a quadratic equation.** -/
def solve (places limit : Nat) (text : String) : SolveResult String := do
  let q ← parse limit text
  q.rootsText places

end Quadratic

end OneUnknown
