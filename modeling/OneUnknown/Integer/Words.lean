import OneUnknown.Integer.Checked

/-!
# Square roots and square-free parts in words

The integer square root and the square-free part are computed here by loops over words of 64 bits,
whose squares may take 128 bits. A state of trial division is the same as elsewhere; its test cuts
the square of the divisor off at the greatest word, but the turn after it needs the square itself.

* `lowering`, `raising`, **`Words.correctedRoot`**: the square root from any estimate;
* `Words.isqrt`, `Words.isPerfectSquare`: the square root from the floating-point estimate;
* `dividing`, `trying`, **`Words.squareFree`**: the square-free part.
-/

namespace OneUnknown.Words

/-! ## Square roots -/

/-- The estimate is lowered until its square is at most `n`. -/
def lowering (n : Nat) : Loop Nat where
  wanted s := return decide (n < (← doubleWord (s * s)))
  turn s := difference s 1

/-- The estimate is raised until the next square exceeds `n`. -/
def raising (n : Nat) : Loop Nat where
  wanted s := do
    let next ← word (s + 1)
    return decide ((← doubleWord (next * next)) ≤ n)
  turn s := word (s + 1)

/-- **The integer square root of `n`**, from an estimate. -/
def correctedRoot (turns n estimate : Nat) : Checked Nat := do
  let s ← (lowering n).run turns estimate
  (raising n).run turns s

/-- **The integer square root.** -/
def isqrt (turns n : Nat) : Checked Nat := correctedRoot turns n (estimatedRoot n)

/-- `n` is the square of a natural number. -/
def isPerfectSquare (turns n : Nat) : Checked Bool := do
  let s ← isqrt turns n
  return (← doubleWord (s * s)) == n

/-! ## The square-free part -/

/-- A divisor is moved out of what is left as often as its square divides it. The state is the
product of the divisors moved out, and what is left. -/
def dividing (p square : Nat) : Loop (Nat × Nat) where
  wanted s := return s.2 % square == 0
  turn s := return (← word (s.1 * p), s.2 / square)

/-- **Trial division.** -/
def trying (turns : Nat) : Loop SquareSearch where
  wanted s := return s.wanted
  turn s := do
    let square ← word (s.trial * s.trial)
    let (root, rest) ← (dividing s.trial square).run turns (s.root, s.rest)
    let trial ← word (s.trial + if s.trial = 2 then 1 else 2)
    return ⟨root, rest, trial⟩

/-- **A number as a square times a square-free number.** -/
def squareFree (turns n : Nat) : Checked (Nat × Nat) := do
  if n = 0 then return (0, 1)
  if ← isPerfectSquare turns n then return (← isqrt turns n, 1)
  let s ← (trying turns).run turns (SquareSearch.start n)
  return (s.root, s.rest)

end OneUnknown.Words
