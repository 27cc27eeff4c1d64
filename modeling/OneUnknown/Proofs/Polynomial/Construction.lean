import OneUnknown.Number.Scalar
import OneUnknown.Proofs.Polynomial.Dense

/-!
# Polynomials from any operations

However a polynomial is obtained, its last stored coefficient does not test as zero, so that its
length tells the degree. That is not the work of a type: on plain vectors the same holds, although
rounding may cancel leading coefficients, a product may underflow, and infinities may make `NaN`.

* **`Construction`**: a polynomial obtained by operations one after another;
* `Construction.value`, `Construction.stored`: its result, and the vector that operations in place
  leave;
* `Construction.stored_eq`: they are the same coefficients;
* **`Construction.degree_exact`**: the last coefficient, the degree and its bounds.
-/

namespace OneUnknown

/-! ## Constructions -/

/-- **How a polynomial is obtained** by operations one after another, starting from any numbers. -/
inductive Construction (K : Type) where
  | zero
  | constant (c : K)
  | monomial (c : K) (degree : Nat)
  | ofList (cs : List K)
  | add (r s : Construction K)
  | sub (r s : Construction K)
  | mul (r s : Construction K)
  | neg (r : Construction K)
  | scale (r : Construction K) (k : K)
  | pow (r : Construction K) (exponent : Nat)
  /-- What is left of a polynomial without the powers of the unknown that divide it. -/
  | otherFactor (r : Construction K)

namespace Construction

section

variable {K : Type} [Scalar K]

/-- **The polynomial that is obtained.** -/
def value : Construction K → Polynomial K
  | zero => .zero
  | constant c => .constant c
  | monomial c degree => .monomial c degree
  | ofList cs => .ofList cs
  | add r s => r.value.add s.value
  | sub r s => r.value.sub s.value
  | mul r s => r.value.mul s.value
  | neg r => r.value.neg
  | scale r k => r.value.scale k
  | pow r exponent => r.value.pow exponent
  | otherFactor r => r.value.splitZeroRoots.2

/-- **The vector that is obtained** by the same operations in place. -/
def stored : Construction K → List K
  | zero => []
  | constant c => Dense.constant c
  | monomial c degree => Dense.monomial c degree
  | ofList cs => Dense.popZeros cs
  | add r s => Dense.add r.stored s.stored
  | sub r s => Dense.sub r.stored s.stored
  | mul r s => Dense.mul r.stored s.stored
  | neg r => Dense.neg r.stored
  | scale r k => Dense.scale r.stored k
  | pow r exponent => Dense.pow r.stored exponent
  | otherFactor r => (Dense.splitZeroRoots r.stored).2

theorem stored_eq (h0 : ((0 : K) == 0) = true) (r : Construction K) :
    r.stored = r.value.coeffs := by
  induction r with
  | zero => rfl
  | constant c => exact Dense.constant_eq c
  | monomial c degree => exact Dense.monomial_eq c degree
  | ofList cs => exact Dense.popZeros_eq cs
  | add r s ihr ihs => rw [stored, ihr, ihs]; exact Dense.combine_eq _ _ _
  | sub r s ihr ihs => rw [stored, ihr, ihs]; exact Dense.combine_eq _ _ _
  | mul r s ihr ihs => rw [stored, ihr, ihs]; exact Dense.mul_eq _ _ h0
  | neg r ih => rw [stored, ih]; exact Dense.scale_eq _ _
  | scale r k ih => rw [stored, ih]; exact Dense.scale_eq _ _
  | pow r exponent ih => rw [stored, ih]; exact Dense.pow_eq _ h0 _
  | otherFactor r ih => rw [stored, ih, Dense.splitZeroRoots_eq]; rfl

end

end Construction

/-! ## Every construction -/

/-- **Degrees are exact and bounded.** The vector that operations in place leave is that of the
polynomial, and its last entry does not test as zero. So the zero polynomial is the one without a
degree; the coefficient at the degree is not zero and all above it are; constants are the
polynomials of degree zero; and arithmetic raises degrees no further than over exact numbers. -/
theorem Construction.degree_exact (r s : Construction Float) (n : Nat) :
    (r.stored = r.value.coeffs ∧ ∀ c, r.stored.getLast? = some c → (c == 0) = false) ∧
    (r.value.isZero = true ↔ r.value.degree? = none) ∧
    (∀ d, r.value.degree? = some d →
      (r.value.coeff d == 0) = false ∧ ∀ i, d < i → r.value.coeff i = 0) ∧
    (r.value.asConstant?.isSome = true ↔ r.value.degree?.getD 0 = 0) ∧
    (r.add s).value.degree?.getD 0 ≤ max (r.value.degree?.getD 0) (s.value.degree?.getD 0) ∧
    (r.sub s).value.degree?.getD 0 ≤ max (r.value.degree?.getD 0) (s.value.degree?.getD 0) ∧
    (r.mul s).value.degree?.getD 0 ≤ r.value.degree?.getD 0 + s.value.degree?.getD 0 ∧
    (r.pow n).value.degree?.getD 0 ≤ n * r.value.degree?.getD 0 := by
  have hstored := r.stored_eq Polynomial.float_zero_beq_zero
  simp only [← Polynomial.degree_eq_getD]
  refine ⟨⟨hstored, fun c hlast => ?_⟩, r.value.isZero_iff_degree?, fun d hd => ?_,
    Polynomial.isSome_asConstant?_iff, Polynomial.degree_add_le, Polynomial.degree_sub_le,
    Polynomial.degree_mul_le, Polynomial.degree_pow_le n⟩
  · rw [hstored] at hlast
    exact r.value.trimmed c hlast
  · exact ⟨Polynomial.coeff_beq_zero_of_degree? hd,
      fun _ hi => Polynomial.coeff_eq_zero_of_degree_lt (by rwa [Polynomial.degree_of_degree? hd])⟩

/-- An infinite coefficient minus itself is not zero but `NaN`, and so it is stored. -/
theorem Construction.degree_exact_nan :
    let r : Construction Float := .scale (.ofList [1, 1e308]) 10
    (r.sub r).value.degree? = some 1 ∧ ((r.sub r).value.coeff 1).isNaN = true ∧
      ((r.sub r).value.coeff 1 == 0) = false ∧ (r.sub r).value.coeff 2 = 0 := by
  intro r
  have hdegree : (r.sub r).value.degree? = some 1 := by decide +kernel
  have hnan : ((r.sub r).value.coeff 1).isNaN = true := by decide +kernel
  obtain ⟨hlead, habove⟩ := ((r.sub r).degree_exact r 0).2.2.1 1 hdegree
  exact ⟨hdegree, hnan, hlead, habove 2 (by decide)⟩

end OneUnknown
