/-!
# Integer square roots

The integer square root is found by correcting an estimate, which comes from floating-point
arithmetic. However good the estimate is, the correction ends at the exact root.

* `lowered`, `raised`: the two corrections;
* **`correctedRoot`**: the root from any estimate;
* `isqrt`, `isPerfectSquare`: the root from the floating-point estimate;
* **`correctedRoot_sq_le`**, **`lt_succ_correctedRoot_sq`**: the root is exact.
-/

namespace OneUnknown

/-! ## Corrections -/

/-- The estimate lowered until its square is at most `n`. -/
def lowered (n : Nat) : Nat → Nat
  | 0 => 0
  | s + 1 => if n < (s + 1) * (s + 1) then lowered n s else s + 1

/-- The estimate raised until the next square exceeds `n`. -/
def raised (n s : Nat) : Nat :=
  if (s + 1) * (s + 1) ≤ n then raised n (s + 1) else s
termination_by n - s
decreasing_by
  have := Nat.mul_le_mul_right (s + 1) (show 1 ≤ s + 1 by omega)
  omega

/-- **The integer square root of `n`**, from an estimate. -/
def correctedRoot (n estimate : Nat) : Nat := raised n (lowered n estimate)

theorem lowered_sq_le (n s : Nat) : lowered n s * lowered n s ≤ n := by
  induction s with
  | zero => simp [lowered]
  | succ s ih =>
    unfold lowered
    split
    · exact ih
    · omega

theorem raised_sq_le {n s : Nat} (h : s * s ≤ n) : raised n s * raised n s ≤ n := by
  induction s using raised.induct n with
  | case1 s hs ih => rw [raised, if_pos hs]; exact ih hs
  | case2 s hs => rw [raised, if_neg hs]; exact h

theorem lt_succ_raised_sq (n s : Nat) : n < (raised n s + 1) * (raised n s + 1) := by
  induction s using raised.induct n with
  | case1 s hs ih => rw [raised, if_pos hs]; exact ih
  | case2 s hs => rw [raised, if_neg hs]; omega

theorem correctedRoot_sq_le (n estimate : Nat) :
    correctedRoot n estimate * correctedRoot n estimate ≤ n :=
  raised_sq_le (lowered_sq_le n estimate)

theorem lt_succ_correctedRoot_sq (n estimate : Nat) :
    n < (correctedRoot n estimate + 1) * (correctedRoot n estimate + 1) :=
  lt_succ_raised_sq n _

/-! ## The floating-point estimate -/

/-- The whole part of the floating-point square root. -/
def estimatedRoot (n : Nat) : Nat := (Float.ofNat n).sqrt.toUInt64.toNat

/-- **The integer square root.** -/
def isqrt (n : Nat) : Nat := correctedRoot n (estimatedRoot n)

/-- `n` is the square of a natural number. -/
def isPerfectSquare (n : Nat) : Bool := isqrt n * isqrt n == n

end OneUnknown
