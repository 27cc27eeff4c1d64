import Mathlib.Algebra.BigOperators.Intervals
import Mathlib.Tactic.Ring
import OneUnknown.Polynomial

/-!
# Values of polynomials

Over a commutative ring whose test for zero is exact, arithmetic of coefficients is arithmetic of
values: the value of a sum is the sum of the values, and so for differences, products, multiples
and powers. Trimming takes away zeros only and does not change a value.

* `horner_append`, `horner_eq_sum`: Horner's scheme as a sum of powers;
* `horner_trimZeros`: values after trimming;
* `horner_convolve`: what summing along the diagonals computes;
* **`evaluate_add`**, **`evaluate_sub`**, **`evaluate_mul`**: arithmetic;
* `map_powFrom`, **`evaluate_pow`**: powers by repeated squaring.
-/

namespace OneUnknown.Polynomial

variable {K : Type} [CommRing K] [BEq K] [LawfulBEq K] (x : K)

/-! ## Horner's scheme -/

section Horner

omit [BEq K] [LawfulBEq K]

@[simp] theorem horner_nil : horner x ([] : List K) = 0 := rfl

@[simp] theorem horner_cons (c : K) (cs : List K) : horner x (c :: cs) = horner x cs * x + c := rfl

theorem horner_append (cs ds : List K) :
    horner x (cs ++ ds) = horner x cs + horner x ds * x ^ cs.length := by
  induction cs with
  | nil => simp
  | cons c cs ih =>
    rw [List.cons_append, horner_cons, horner_cons, ih, List.length_cons]
    ring

theorem horner_map_range (f : Nat → K) (n : Nat) :
    horner x ((List.range n).map f) = ∑ i ∈ Finset.range n, f i * x ^ i := by
  induction n with
  | zero => rfl
  | succ n ih =>
    rw [List.range_succ, List.map_append, horner_append, ih, Finset.sum_range_succ]
    simp

theorem horner_eq_sum {cs : List K} {n : Nat} (h : cs.length ≤ n) :
    horner x cs = ∑ i ∈ Finset.range n, cs.getD i 0 * x ^ i := by
  rw [← horner_map_range]
  induction cs generalizing n with
  | nil =>
    rw [horner_map_range]
    simp
  | cons c cs ih =>
    obtain ⟨n, rfl⟩ : ∃ k, n = k + 1 := ⟨n - 1, by simp at h; omega⟩
    rw [List.range_succ_eq_map, List.map_cons, List.map_map, horner_cons, horner_cons,
      ih (n := n) (by simpa using h)]
    rfl

theorem horner_map_mul (k : K) (cs : List K) :
    horner x (cs.map (· * k)) = horner x cs * k := by
  induction cs with
  | nil => simp
  | cons c cs ih =>
    rw [List.map_cons, horner_cons, horner_cons, ih]
    ring

theorem horner_zipWith (a : K) {sums q : List K} (h : sums.length = q.length) :
    horner x (List.zipWith (fun sum b => sum + a * b) sums q) =
      horner x sums + a * horner x q := by
  induction sums generalizing q with
  | nil =>
    obtain rfl := List.eq_nil_of_length_eq_zero h.symm
    simp
  | cons sum sums ih =>
    obtain ⟨b, q, rfl⟩ := List.exists_cons_of_length_eq_add_one h.symm
    rw [List.zipWith_cons_cons, horner_cons, ih (by simpa using h), horner_cons, horner_cons]
    ring

/-- **Summing along the diagonals multiplies.** The sums at hand are added to the product of the
coefficients that are still to come. -/
theorem horner_convolve {q : List K} (hq : q ≠ []) (p : List K) {sums : List K}
    (h : sums.length = q.length) :
    horner x (convolve q sums p) = horner x sums + horner x p * horner x q := by
  induction p generalizing sums with
  | nil => simp [convolve]
  | cons a p ih =>
    have hvalue := horner_zipWith x a h
    rcases hz : List.zipWith (fun sum b => sum + a * b) sums q with _ | ⟨sum, later⟩
    · have : q.length = 0 := by
        have := congrArg List.length hz
        simpa [h] using this
      exact absurd (List.eq_nil_of_length_eq_zero this) hq
    · have hlength : (later ++ [0]).length = q.length := by
        have := congrArg List.length hz
        simpa [h] using this.symm
      rw [hz, horner_cons] at hvalue
      rw [convolve, hz, horner_cons, ih hlength, horner_append, horner_cons]
      calc (horner x later + horner x [0] * x ^ later.length + horner x p * horner x q) * x + sum
          = (horner x later * x + sum) + horner x p * x * horner x q := by simp; ring
        _ = horner x sums + (horner x p * x + a) * horner x q := by rw [hvalue]; ring

end Horner

/-! ## Trimming -/

theorem horner_trimZeros (cs : List K) : horner x (trimZeros cs) = horner x cs := by
  induction cs with
  | nil => rfl
  | cons c rest ih =>
    unfold trimZeros
    split
    · rename_i hrest
      rw [hrest] at ih
      split
      · rename_i hc
        simp [← ih, eq_of_beq hc]
      · simp [← ih]
    · rename_i d kept hrest
      rw [hrest] at ih
      rw [horner_cons, ih, horner_cons]

theorem evaluate_ofList (cs : List K) : (ofList cs).evaluate x = horner x cs :=
  horner_trimZeros x cs

omit [LawfulBEq K] in
@[simp] theorem evaluate_zero : (zero : Polynomial K).evaluate x = 0 := rfl

@[simp] theorem evaluate_constant (c : K) : (constant c).evaluate x = c := by
  rw [constant, evaluate_ofList]
  simp

omit [LawfulBEq K] in
theorem evaluate_of_asConstant? {p : Polynomial K} {c : K} (h : p.asConstant? = some c) :
    p.evaluate x = c := by
  unfold asConstant? at h
  split at h <;> simp_all [evaluate]

@[simp] theorem evaluate_monomial (c : K) (n : Nat) : (monomial c n).evaluate x = c * x ^ n := by
  have hzeros : horner x (List.replicate n (0 : K)) = 0 := by
    induction n with
    | zero => rfl
    | succ n ih => simp [List.replicate_succ, ih]
  rw [monomial, evaluate_ofList, horner_append, hzeros]
  simp

/-! ## Arithmetic -/

variable (p q : Polynomial K)

theorem evaluate_combine (op : K → K → K) : (combine op p q).evaluate x =
    ∑ i ∈ Finset.range (max p.coeffs.length q.coeffs.length),
      op (p.coeff i) (q.coeff i) * x ^ i := by
  rw [combine, evaluate_ofList, horner_map_range]

@[simp] theorem evaluate_add : (p.add q).evaluate x = p.evaluate x + q.evaluate x := by
  rw [add, evaluate_combine, evaluate, evaluate, horner_eq_sum x (le_max_left _ q.coeffs.length),
    horner_eq_sum x (le_max_right p.coeffs.length _), ← Finset.sum_add_distrib]
  exact Finset.sum_congr rfl fun i _ => add_mul _ _ _

@[simp] theorem evaluate_sub : (p.sub q).evaluate x = p.evaluate x - q.evaluate x := by
  rw [sub, evaluate_combine, evaluate, evaluate, horner_eq_sum x (le_max_left _ q.coeffs.length),
    horner_eq_sum x (le_max_right p.coeffs.length _), ← Finset.sum_sub_distrib]
  exact Finset.sum_congr rfl fun i _ => sub_mul _ _ _

@[simp] theorem evaluate_scale (k : K) : (p.scale k).evaluate x = p.evaluate x * k := by
  rw [scale, evaluate_ofList, horner_map_mul, evaluate]

@[simp] theorem evaluate_neg : p.neg.evaluate x = -p.evaluate x := by
  rw [neg, evaluate_scale, mul_neg, mul_one]

@[simp] theorem evaluate_mul : (p.mul q).evaluate x = p.evaluate x * q.evaluate x := by
  unfold mul
  split
  · rename_i h
    simp only [isZero, Bool.or_eq_true, List.isEmpty_iff] at h
    rw [evaluate_zero]
    rcases h with h | h <;> simp [evaluate, h]
  · rename_i h
    simp only [isZero, Bool.or_eq_true, List.isEmpty_iff, not_or] at h
    have hsums : horner x (List.replicate q.coeffs.length (0 : K)) = 0 := by
      simpa [evaluate_monomial] using horner_map_mul x 0 q.coeffs
    rw [evaluate_ofList, horner_convolve x h.2 _ (by simp), hsums, zero_add]
    rfl

omit [LawfulBEq K] in
/-- **Repeated squaring multiplies**, under every map that turns products into products. -/
theorem map_powFrom {M : Type*} [Monoid M] (f : Polynomial K → M)
    (hf : ∀ p q, f (p.mul q) = f p * f q) (result base : Polynomial K) (n : Nat) :
    f (powFrom result base n) = f result * f base ^ n := by
  induction n using Nat.strongRecOn generalizing result base with
  | ind n ih =>
    by_cases hn : n = 0
    · rw [powFrom, if_pos hn, hn, pow_zero, mul_one]
    · -- The result takes up the base if the lowest digit is one.
      have hresult : f (if n % 2 = 1 then result.mul base else result) =
          f result * f base ^ (n % 2) := by
        rcases Nat.mod_two_eq_zero_or_one n with h | h <;> simp [h, hf]
      have hdigits : f base ^ n = f base ^ (n % 2) * (f base * f base) ^ (n / 2) := by
        rw [← pow_two, ← pow_mul, ← pow_add, Nat.mod_add_div]
      rw [powFrom, if_neg hn]
      by_cases hhalf : n / 2 = 0
      · rw [if_pos hhalf, hresult, hdigits, hhalf, pow_zero, mul_one]
      · rw [if_neg hhalf, ih (n / 2) (by omega), hresult, hf, hdigits, mul_assoc]

@[simp] theorem evaluate_pow (n : Nat) : (p.pow n).evaluate x = p.evaluate x ^ n := by
  rw [pow, map_powFrom (fun p => p.evaluate x) (evaluate_mul x), evaluate_constant, one_mul]

end OneUnknown.Polynomial
