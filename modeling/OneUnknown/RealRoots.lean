import OneUnknown.Equation.Reader
import OneUnknown.Linear
import OneUnknown.Radical
import OneUnknown.Settings

/-!
# Real roots of polynomials

Real roots are searched for by Newton's method from a few starting points. Zero is a root exactly
if a power of the unknown divides the polynomial, and is split off first. Roots found twice are
kept once.

* `NewtonStep`, `newtonStep`: what becomes of one iterate;
* **`newton`**: the root reached from a starting point;
* `keepApart`, **`distinctRoots`**: rounded roots that keep their distance, in ascending order;
* **`findRoots`**: the roots of a polynomial;
* **`RealRoots.solve`**: the answer to a polynomial equation.
-/

namespace OneUnknown

/-! ## Newton's method -/

/-- **What becomes of an iterate**: it is a root, it leads to one, it leads on, or it leads nowhere
because the slope vanishes or the next iterate is not finite. -/
inductive NewtonStep where
  | root (x : Float)
  | next (x : Float)
  | lost

/-- One step of Newton's method. -/
def newtonStep (p : Polynomial Float) (tolerance x : Float) : NewtonStep :=
  let value := p.evaluate x
  let slope := p.evaluateDerivative x
  let next := x - value / slope
  if value == 0 then .root x
  else if slope.abs < tolerance then .lost
  else if !next.isFinite then .lost
  else if (next - x).abs < tolerance then .root next
  else .next next

/-- **The root reached from `x`** within a number of steps. -/
def newton (p : Polynomial Float) (tolerance : Float) : Nat → Float → Option Float
  | 0, _ => none
  | steps + 1, x =>
    match newtonStep p tolerance x with
    | .root r => some r
    | .next y => newton p tolerance steps y
    | .lost => none

/-! ## Distinct roots -/

/-- The numbers that are farther than the tolerance from every number kept before them. -/
def keepApart (tolerance : Float) (kept : List Float) : List Float → List Float
  | [] => kept
  | r :: rest =>
    if kept.any fun a => (a - r).abs ≤ tolerance then keepApart tolerance kept rest
    else keepApart tolerance (kept ++ [r]) rest

/-- **The roots rounded to a number of places**, those too near to an earlier one left out, in
ascending order. -/
def distinctRoots (tolerance : Float) (places : Nat) (roots : List Float) : List Float :=
  (keepApart tolerance [] (roots.map (roundTo places))).mergeSort fun x y =>
    totalKey x ≤ totalKey y

/-- The roots before they are rounded: zero, if it is one, and what the seeds lead to. -/
def rootCandidates (settings : NewtonSettings) (p : Polynomial Float) : List Float :=
  let (zeros, rest) := p.splitZeroRoots
  let zero := if 0 < zeros then [0] else []
  let others :=
    if 0 < rest.degree then
      settings.seeds.filterMap (newton rest settings.tolerance settings.maxIterations)
    else []
  zero ++ others

/-- **The real roots of a polynomial that the seeds lead to**, in ascending order. -/
def findRoots (settings : NewtonSettings) (places : Nat) (p : Polynomial Float) : List Float :=
  distinctRoots settings.tolerance places (rootCandidates settings p)

/-! ## Solving -/

/-- The answer if no root was found. -/
def noRootsFound : String := "no real roots found"

namespace RealRoots

/-- The answer to an equation of any degree. -/
def answer (settings : NewtonSettings) (places : Nat) (e : Equation Float) :
    SolveResult String :=
  let p := e.normalized
  match p.degree? with
  | none => .ok everyNumberSolves
  | some 0 => .ok nothingSolves
  | some _ =>
    match findRoots settings places p with
    | [] => .ok noRootsFound
    | roots => do
      let texts ← roots.mapM fun r => fractionText places r 1
      return ", ".intercalate (texts.map (assignment e.variableName))

/-- **The answer to a polynomial equation.** -/
def solve (settings : NewtonSettings) (places limit : Nat) (text : String) :
    SolveResult String := do
  let e ← Equation.parse limit text
  answer settings places e

end RealRoots

end OneUnknown
