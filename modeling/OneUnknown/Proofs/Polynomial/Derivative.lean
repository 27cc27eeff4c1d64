import Mathlib.Algebra.Polynomial.Derivative
import OneUnknown.Proofs.Polynomial.Formal

/-!
# Values and derivatives

Horner's scheme, written as a fold over the reversed coefficients, computes the value of the formal
polynomial that they stand for. The value of the derivative is found by the same scheme from the
coefficients `c₁ · 1, c₂ · 2, …`, which are multiplied as they are met and not trimmed: in exact
arithmetic the formal derivative, and in floating-point arithmetic what these products round to.

* `evaluate_eq_horner`, `evaluateDerivative_eq_horner`: the folds as Horner's scheme;
* `derivativeList`, `map_zipIdx_drop_one`: the coefficients of the derivative, by index;
* `eval_formal`, **`formal_derivativeList`**: values and derivatives of formal polynomials;
* `horner_derivativeList_eq_sum`: the value of the derivative as a sum;
* **`value_and_derivative`**: what is computed, in exact and in rounded arithmetic.
-/

namespace OneUnknown

open OneUnknown.Polynomial (horner horner_cons horner_map_range horner_eq_sum)

/-! ## The folds -/

section Folds

variable {K : Type} [Zero K] [Add K] [Mul K] (cs : List K) (x : K)

theorem evaluate_eq_horner : Dense.evaluate cs x = horner x cs := List.foldl_reverse

variable [NatCast K]

/-- The coefficients of the derivative. -/
def derivativeList (cs : List K) : List K :=
  (List.range (cs.length - 1)).map fun i => cs.getD (i + 1) 0 * ((i + 1 : Nat) : K)

omit [Add K] in
theorem map_zipIdx_drop_one :
    (cs.zipIdx.drop 1).map (fun t => t.1 * (t.2 : K)) = derivativeList cs := by
  refine List.ext_getElem (by simp [derivativeList]) fun i hi _ => ?_
  have hlength : i + 1 < cs.length := by
    simp only [List.length_map, List.length_drop, List.length_zipIdx] at hi
    omega
  simp [derivativeList, hlength, Nat.add_comm]

theorem evaluateDerivative_eq_horner :
    Dense.evaluateDerivative cs x = horner x (derivativeList cs) := by
  rw [← map_zipIdx_drop_one, horner, List.foldr_map, Dense.evaluateDerivative, List.foldl_reverse]

end Folds

/-! ## Formal derivatives -/

section Formal

variable {R : Type} [CommRing R] (x : R)

theorem eval_formal (cs : List R) : (formal cs).eval x = horner x cs := by
  induction cs with
  | nil => simp [formal]
  | cons c cs ih =>
    rw [formal, Polynomial.eval_add, Polynomial.eval_C, Polynomial.eval_mul, Polynomial.eval_X, ih,
      horner_cons]
    ring

theorem getD_derivativeList (cs : List R) (k : Nat) :
    (derivativeList cs).getD k 0 = cs.getD (k + 1) 0 * ((k + 1 : Nat) : R) := by
  rcases Nat.lt_or_ge k (cs.length - 1) with hk | hk
  · simp [derivativeList, hk]
  · rw [List.getD_eq_default _ _ (by simpa [derivativeList] using hk),
      List.getD_eq_default cs _ (by omega), zero_mul]

/-- **The coefficients of the derivative** are those of the formal derivative. -/
theorem formal_derivativeList (cs : List R) :
    formal (derivativeList cs) = Polynomial.derivative (formal cs) := by
  ext k
  rw [coeff_formal, getD_derivativeList, Polynomial.coeff_derivative, coeff_formal]
  push_cast
  rfl

theorem horner_derivativeList (cs : List R) :
    horner x (derivativeList cs) = (Polynomial.derivative (formal cs)).eval x := by
  rw [← formal_derivativeList, eval_formal]

/-- **The value of the derivative as a sum** over the powers of the polynomial. -/
theorem horner_derivativeList_eq_sum (cs : List R) : horner x (derivativeList cs) =
    ∑ i ∈ Finset.range cs.length, (i : R) * cs.getD i 0 * x ^ (i - 1) := by
  rw [derivativeList, horner_map_range]
  rcases cs with _ | ⟨c, cs⟩
  · rfl
  · -- The constant has the factor zero; each other power is one less.
    rw [List.length_cons, Finset.sum_range_succ', Nat.add_sub_cancel]
    simp only [Nat.cast_zero, zero_mul, add_zero, Nat.add_sub_cancel]
    exact Finset.sum_congr rfl fun i _ => by rw [mul_comm (List.getD _ _ _)]

end Formal

/-! ## Values of polynomials -/

section Values

variable {R : Type} [CommRing R] [BEq R] [LawfulBEq R] (x : R)

omit [LawfulBEq R] in
theorem evaluateDerivative_eq_eval (p : Polynomial R) :
    p.evaluateDerivative x = (Polynomial.derivative (formal p.coeffs)).eval x := by
  rw [Polynomial.evaluateDerivative, Polynomial.derivativeCoeffs, ← horner_derivativeList]
  exact congrArg _ (map_zipIdx_drop_one p.coeffs)

/-- Trimming before differentiating takes away zeros only. -/
theorem evaluateDerivative_ofList (cs : List R) :
    (Polynomial.ofList cs).evaluateDerivative x = (Polynomial.derivative (formal cs)).eval x := by
  rw [evaluateDerivative_eq_eval, Polynomial.coeffs_ofList, formal_trimZeros]

/-- **The product rule.** -/
theorem evaluateDerivative_mul (p q : Polynomial R) : (p.mul q).evaluateDerivative x =
    p.evaluateDerivative x * q.evaluate x + p.evaluate x * q.evaluateDerivative x := by
  rw [evaluateDerivative_eq_eval, formal_mul, Polynomial.derivative_mul, Polynomial.eval_add,
    Polynomial.eval_mul, Polynomial.eval_mul, eval_formal, eval_formal,
    ← evaluateDerivative_eq_eval, ← evaluateDerivative_eq_eval]
  rfl

end Values

/-- **Values and derivatives are those of the polynomial that is stored.** The folds over the
reversed coefficients are what is computed. Of rational numbers they are the sums over the powers,
for every list of coefficients, trimmed or not; the second is the value of the formal derivative,
and the product rule holds of it. Of floating-point numbers the second is Horner's scheme for the
rounded products of the coefficients with their powers, without trimming. -/
theorem value_and_derivative :
    (∀ (K : Type) [Scalar K] (p : Polynomial K) (x : K),
      p.evaluate x = Dense.evaluate p.coeffs x ∧
      p.evaluateDerivative x = Dense.evaluateDerivative p.coeffs x) ∧
    (∀ (cs : List Rat) (x : Rat),
      (Polynomial.ofList cs).evaluate x =
        ∑ i ∈ Finset.range cs.length, cs.getD i 0 * x ^ i ∧
      (Polynomial.ofList cs).evaluateDerivative x =
        ∑ i ∈ Finset.range cs.length, (i : Rat) * cs.getD i 0 * x ^ (i - 1) ∧
      (Polynomial.ofList cs).evaluateDerivative x =
        (Polynomial.derivative (formal cs)).eval x) ∧
    (∀ (p q : Polynomial Rat) (x : Rat), (p.mul q).evaluateDerivative x =
      p.evaluateDerivative x * q.evaluate x + p.evaluate x * q.evaluateDerivative x) ∧
    ∀ (p : Polynomial Float) (x : Float), p.evaluateDerivative x =
      Dense.evaluate ((List.range (p.coeffs.length - 1)).map fun i =>
        p.coeff (i + 1) * Float.ofNat (i + 1)) x := by
  refine ⟨fun K _ p x => ⟨?_, ?_⟩, fun cs x => ⟨?_, ?_, ?_⟩, fun p q x => ?_, fun p x => ?_⟩
  · exact (evaluate_eq_horner p.coeffs x).symm
  · rw [evaluateDerivative_eq_horner, ← map_zipIdx_drop_one]
    rfl
  · exact (Polynomial.evaluate_ofList x cs).trans (horner_eq_sum x le_rfl)
  · rw [← horner_derivativeList_eq_sum, horner_derivativeList]
    exact evaluateDerivative_ofList x cs
  · exact evaluateDerivative_ofList x cs
  · exact evaluateDerivative_mul x p q
  · rw [evaluate_eq_horner]
    exact congrArg _ (map_zipIdx_drop_one p.coeffs)

end OneUnknown
