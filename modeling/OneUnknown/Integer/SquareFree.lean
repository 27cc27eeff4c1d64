import OneUnknown.Integer.SquareRoot

/-!
# Square-free parts

Every positive number is a square times a number without square factors. The square factors are
found by trial division: two and the odd numbers are tried in turn, and each is divided out as
often as its square divides what is left.

* `largestWord`: the bound of the numbers that are taken apart;
* `divideOut`: one divisor, as often as its square divides;
* `SquareSearch`, `SquareSearch.wanted`, `SquareSearch.step`: the state of trial division;
* **`squareFree`**: the root of the greatest square factor, and the square-free part.
-/

namespace OneUnknown

/-- The greatest number of 64 bits. -/
def largestWord : Nat := Nat.pow 2 64 - 1

/-! ## One divisor -/

/-- Moves `p` from `m` to `k` as often as its square divides `m`. -/
def divideOut (p k m : Nat) : Nat × Nat :=
  if 2 ≤ p ∧ 0 < m ∧ m % (p * p) = 0 then divideOut p (k * p) (m / (p * p)) else (k, m)
termination_by m
decreasing_by
  rename_i h
  exact Nat.div_lt_self h.2.1 (Nat.lt_of_lt_of_le (by decide) (Nat.mul_le_mul h.1 h.1))

theorem divideOut_snd_le (p k m : Nat) : (divideOut p k m).2 ≤ m := by
  induction k, m using divideOut.induct p with
  | case1 k m h ih => rw [divideOut, if_pos h]; exact Nat.le_trans ih (Nat.div_le_self _ _)
  | case2 k m h => exact Nat.le_of_eq (by rw [divideOut, if_neg h])

/-! ## Trial division -/

/-- **The state of trial division**: the product of the divisors moved out, what is left, and the
divisor to be tried next. -/
structure SquareSearch where
  root : Nat
  rest : Nat
  trial : Nat

namespace SquareSearch

/-- The state before the first trial. -/
def start (n : Nat) : SquareSearch := ⟨1, n, 2⟩

/-- A further trial is wanted: the square of the divisor, cut off at the greatest word, does not
exceed what is left. -/
def wanted (s : SquareSearch) : Bool := min (s.trial * s.trial) largestWord ≤ s.rest

/-- The state after one trial. -/
def step (s : SquareSearch) : SquareSearch :=
  let (root, rest) := divideOut s.trial s.root s.rest
  ⟨root, rest, s.trial + if s.trial = 2 then 1 else 2⟩

theorem rest_step_le (s : SquareSearch) : s.step.rest ≤ s.rest := divideOut_snd_le _ _ _

theorem trial_lt_step (s : SquareSearch) : s.trial < s.step.trial := by
  simp only [step]; split <;> omega

/-- **The state after all trials.** Divisors grow and never pass what is left. -/
def run (s : SquareSearch) : SquareSearch :=
  if s.wanted && s.trial ≤ s.rest then s.step.run else s
termination_by s.rest + 1 - s.trial
decreasing_by
  rename_i h
  have h₁ : s.trial ≤ s.rest := by simpa using (Bool.and_eq_true_iff.mp h).2
  have h₂ := s.rest_step_le
  have h₃ := s.trial_lt_step
  omega

end SquareSearch

/-! ## The square-free part -/

/-- **A number as a square times a square-free number**: `(k, m)` with `n = k² · m`. Zero is the
square of zero; perfect squares are recognised at once. -/
def squareFree (n : Nat) : Nat × Nat :=
  if n = 0 then (0, 1)
  else if isPerfectSquare n then (isqrt n, 1)
  else
    let s := (SquareSearch.start n).run
    (s.root, s.rest)

end OneUnknown
