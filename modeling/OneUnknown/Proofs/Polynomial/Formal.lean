import Mathlib.Algebra.Polynomial.Coeff
import OneUnknown.Number.Scalar
import OneUnknown.Proofs.Polynomial.Dense
import OneUnknown.Proofs.Polynomial.Evaluation

/-!
# Formal polynomials

Over a commutative ring whose test for zero is exact, the coefficients that are stored stand for a
formal polynomial, and multiplication for its multiplication: the sum along a diagonal is the
coefficient of the formal product. So laws of formal polynomials, such as that repeated squaring is
repeated multiplication, hold of the stored coefficients as well.

* **`formal`**, `coeff_formal`, `formal_coeffs_injective`: the polynomial that a list stands for;
* `sum_diagonalTerms`, **`formal_mul`**, `formal_pow`: products and powers;
* **`product_sums_diagonals`**: multiplication, of rounded and of exact numbers.
-/

section

open scoped Polynomial

namespace OneUnknown

/-! ## Lists as formal polynomials -/

section Formal

variable {R : Type} [CommRing R]

/-- **The formal polynomial with given coefficients** by ascending power. -/
noncomputable def formal : List R → R[X]
  | [] => 0
  | c :: cs => Polynomial.C c + Polynomial.X * formal cs

theorem coeff_formal (cs : List R) (k : Nat) : (formal cs).coeff k = cs.getD k 0 := by
  induction cs generalizing k with
  | nil => simp [formal]
  | cons c cs ih => cases k <;> simp [formal, ih, Polynomial.coeff_C]

/-- **The terms on a diagonal add up** to the coefficient of the formal product. -/
theorem sum_diagonalTerms (cs : List R) {ds : List R} (hds : 0 < ds.length) (k : Nat) :
    (Dense.diagonalTerms cs ds k).sum = (formal cs * formal ds).coeff k := by
  induction cs generalizing k with
  | nil => simp [Dense.diagonalTerms_eq_nil, formal]
  | cons c cs ih =>
    rw [formal, add_mul, Polynomial.coeff_add, Polynomial.coeff_C_mul, coeff_formal, mul_assoc]
    cases k with
    | zero => simp [Dense.diagonalTerms_zero c cs hds]
    | succ k =>
      rw [Dense.diagonalTerms_succ, List.sum_append, ih, Polynomial.coeff_X_mul]
      split
      · simp
      · rw [List.getD_eq_default _ _ (by omega)]
        simp

/-- **What the loops leave** are the coefficients of the formal product. -/
theorem getD_products_eq_coeff (cs : List R) {ds : List R} (hds : 0 < ds.length) (k : Nat) :
    (Dense.products cs ds).getD k 0 = (formal cs * formal ds).coeff k := by
  rw [Dense.getD_products, ← sum_diagonalTerms cs hds, List.sum_eq_foldl]

end Formal

/-! ## Trimmed lists -/

section Trimmed

variable {R : Type} [CommRing R] [BEq R] [LawfulBEq R]

theorem formal_trimZeros (cs : List R) : formal (trimZeros cs) = formal cs := by
  ext k
  rw [coeff_formal, coeff_formal]
  rcases Polynomial.getD_trimZeros cs k with heq | ⟨hzero, heq⟩
  · exact heq
  · rw [heq, eq_of_beq hzero]

theorem formal_coeffs_injective : (fun p : Polynomial R => formal p.coeffs).Injective := by
  intro p q h
  have hformal : formal p.coeffs = formal q.coeffs := h
  have hcoeff (k : Nat) : p.coeffs.getD k 0 = q.coeffs.getD k 0 := by
    rw [← coeff_formal, hformal, coeff_formal]
  have hlength : p.coeffs.length = q.coeffs.length :=
    le_antisymm (Polynomial.length_le_of_trimmed (by simp) p.trimmed fun k hk => hcoeff k ▸ hk)
      (Polynomial.length_le_of_trimmed (by simp) q.trimmed fun k hk => hcoeff k ▸ hk)
  refine Polynomial.ext (List.ext_getElem hlength fun k hp hq => ?_)
  rw [← List.getD_eq_getElem _ 0 hp, hcoeff, List.getD_eq_getElem _ _ hq]

variable (p q : Polynomial R)

/-- **Multiplication stands for the product** of formal polynomials. -/
theorem formal_mul : formal (p.mul q).coeffs = formal p.coeffs * formal q.coeffs := by
  rw [← Dense.mul_eq p q (by simp), Dense.mul]
  split
  · rename_i hempty
    simp only [Bool.or_eq_true, List.isEmpty_iff] at hempty
    rcases hempty with h | h <;> simp [h, formal]
  · rename_i hnonempty
    have hq : 0 < q.coeffs.length := List.length_pos_iff.mpr (by simp_all)
    rw [Dense.popZeros_eq, formal_trimZeros]
    ext k
    rw [coeff_formal, getD_products_eq_coeff _ hq]

theorem formal_one : formal (Polynomial.constant (1 : R)).coeffs = 1 := by
  rw [Polynomial.constant, Polynomial.coeffs_ofList, formal_trimZeros]
  simp [formal]

theorem formal_pow (n : Nat) : formal (p.pow n).coeffs = formal p.coeffs ^ n := by
  rw [Polynomial.pow, Polynomial.map_powFrom (fun p => formal p.coeffs) formal_mul, formal_one,
    one_mul]

/-- **Repeated squaring is repeated multiplication.** -/
theorem pow_eq_iterate (n : Nat) : p.pow n = p.mul^[n] (.constant 1) := by
  refine formal_coeffs_injective ?_
  dsimp only
  rw [formal_pow]
  induction n with
  | zero => rw [pow_zero, Function.iterate_zero_apply, formal_one]
  | succ n ih => rw [Function.iterate_succ_apply', formal_mul, ← ih, pow_succ']

end Trimmed

/-! ## Multiplication -/

/-- **Multiplication sums along the diagonals, in a fixed order.** Before trimming, the coefficient
at every power starts from zero and takes the products on the diagonal one after another, every
pair of powers once and those of the first factor ascending; no two of these additions of
floating-point numbers change places. Above the sum of the degrees all coefficients are zero. Of
exact numbers the power by repeated squaring is the repeated product. -/
theorem product_sums_diagonals :
    (∀ p q : Polynomial Float,
      (p.mul q).coeffs = trimZeros (Dense.products p.coeffs q.coeffs) ∧
      (Dense.products p.coeffs q.coeffs).length = p.coeffs.length + q.coeffs.length - 1 ∧
      (∀ k, (Dense.products p.coeffs q.coeffs).getD k 0 =
        ((Dense.diagonal p.coeffs.length q.coeffs.length k).map fun t =>
          p.coeff t.1 * q.coeff t.2).foldl (· + ·) 0) ∧
      ∀ k, p.degree + q.degree < k → (p.mul q).coeff k = 0) ∧
    (∀ m n k : Nat,
      (∀ i j, (i, j) ∈ Dense.diagonal m n k ↔ i < m ∧ j < n ∧ i + j = k) ∧
      (Dense.diagonal m n k).Pairwise fun s t => s.1 < t.1) ∧
    ∀ (p : Polynomial Rat) (n : Nat), p.pow n = p.mul^[n] (.constant 1) := by
  refine ⟨fun p q => ⟨?_, Dense.length_products _ _, fun k => Dense.getD_products _ _ k,
    fun k hk => ?_⟩, fun m n k => ⟨fun i j => Dense.mem_diagonal, Dense.pairwise_diagonal m n k⟩,
    fun p n => pow_eq_iterate p n⟩
  · rw [← Dense.mul_eq p q Polynomial.float_zero_beq_zero,
      Dense.mul_eq_popZeros Polynomial.float_zero_beq_zero, Dense.popZeros_eq]
  · have hdegree := Polynomial.degree_mul_le (p := p) (q := q)
    exact Polynomial.coeff_eq_zero_of_degree_lt (hdegree.trans_lt hk)

/-- A one between two large numbers is lost, as it is added to the first of them; and nothing is
stored at the power that the degrees do not reach. -/
theorem product_sums_diagonals_lost_one :
    let p : Polynomial Float := .ofList [1e16, 1, -1e16]
    let q : Polynomial Float := .ofList [1, 1, 1]
    (Dense.products p.coeffs q.coeffs).getD 2 0 = 0 ∧ p.degree + q.degree < 5 ∧
      (p.mul q).coeff 5 = 0 := by
  intro p q
  obtain ⟨-, -, hsum, habove⟩ := product_sums_diagonals.1 p q
  have hdegree : p.degree + q.degree < 5 := by decide +kernel
  have hlost : ((Dense.diagonal p.coeffs.length q.coeffs.length 2).map fun t =>
      p.coeff t.1 * q.coeff t.2).foldl (· + ·) 0 = 0 := by
    decide +kernel
  exact ⟨(hsum 2).trans hlost, hdegree, habove 5 hdegree⟩

end OneUnknown

end
