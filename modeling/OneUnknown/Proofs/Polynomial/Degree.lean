import OneUnknown.Proofs.Polynomial.Coefficients

/-!
# Degrees of floating-point polynomials

What a degree tells, and what arithmetic can do to it. Rounding may cancel leading coefficients, so
of a result there are upper bounds only.

* `coeff_eq_zero_of_degree_lt`, `coeff_beq_zero_of_degree?`, `isSome_asConstant?_iff`: coefficients
  above and at the degree, and constants;
* `degree_constant`, `degree_monomial_le`: constants and monomials;
* `degree_add_le`, `degree_sub_le`, `degree_scale_le`: what is done power by power;
* `exists_convolve_cons`, **`degree_mul_le`**: products;
* `degree_powFrom_le`, **`degree_pow_le`**: powers.
-/

namespace OneUnknown.Polynomial

/-! ## What the degree tells -/

section Degree

variable {K : Type} [Zero K] [BEq K] {p : Polynomial K}

theorem degree_eq_getD (p : Polynomial K) : p.degree = p.degree?.getD 0 := by
  unfold degree degree?
  split <;> simp_all

theorem degree_of_degree? {d : Nat} (h : p.degree? = some d) : p.degree = d := by
  rw [degree_eq_getD, h, Option.getD_some]

theorem coeff_eq_zero_of_degree_lt {n : Nat} (h : p.degree < n) : p.coeff n = 0 := by
  refine List.getD_eq_default _ _ ?_
  unfold degree at h
  omega

theorem coeff_beq_zero_of_degree? {d : Nat} (h : p.degree? = some d) :
    (p.coeff d == 0) = false := by
  unfold degree? at h
  split at h
  · cases h
  obtain rfl : p.coeffs.length - 1 = d := Option.some.inj h
  refine p.trimmed _ ?_
  rw [List.getLast?_eq_getElem?, coeff, List.getD_eq_getElem _ _ (by omega),
    List.getElem?_eq_getElem]

theorem isSome_asConstant?_iff : p.asConstant?.isSome = true ↔ p.degree = 0 := by
  obtain ⟨cs, htrimmed⟩ := p
  rcases cs with _ | ⟨c, _ | ⟨d, cs⟩⟩ <;> simp [asConstant?, degree]

end Degree

/-! ## Bounds -/

variable {p q : Polynomial Float}

theorem degree_ofList_le (cs : List Float) : (ofList cs).degree ≤ cs.length - 1 :=
  Nat.sub_le_sub_right (length_trimZeros_le cs) 1

theorem degree_constant (c : Float) : (constant c).degree = 0 :=
  Nat.le_zero.mp (degree_ofList_le [c])

theorem degree_monomial_le (c : Float) (n : Nat) : (monomial c n).degree ≤ n := by
  refine (degree_ofList_le _).trans ?_
  simp

theorem degree_combine_le (op : Float → Float → Float) :
    (combine op p q).degree ≤ max p.degree q.degree := by
  refine (degree_ofList_le _).trans ?_
  rw [List.length_map, List.length_range, degree, degree]
  omega

theorem degree_add_le : (p.add q).degree ≤ max p.degree q.degree := degree_combine_le _

theorem degree_sub_le : (p.sub q).degree ≤ max p.degree q.degree := degree_combine_le _

theorem degree_scale_le (c : Float) : (p.scale c).degree ≤ p.degree := by
  refine (degree_ofList_le _).trans ?_
  rw [List.length_map, degree]

section Convolve

variable {K : Type} [Zero K] [Add K] [Mul K] {sums q : List K}
  (hsums : sums.length = q.length) (hq : 0 < q.length)

include hsums hq

theorem exists_convolve_step (a : K) (p : List K) :
    ∃ sum later, List.zipWith (fun sum b => sum + a * b) sums q = sum :: later ∧
      convolve q sums (a :: p) = sum :: convolve q (later ++ [0]) p ∧
      later.length + 1 = q.length := by
  cases hzip : List.zipWith (fun sum b => sum + a * b) sums q with
  | nil =>
    have hlength := congrArg List.length hzip
    rw [List.length_zipWith, hsums, List.length_nil] at hlength
    omega
  | cons sum later =>
    have hlength := congrArg List.length hzip
    rw [List.length_zipWith, hsums, Nat.min_self, List.length_cons] at hlength
    exact ⟨sum, later, rfl, by simp only [convolve, hzip], hlength.symm⟩

/-- Convolution yields one coefficient for every power of the product, and then a zero. -/
theorem exists_convolve_cons (a : K) (p : List K) :
    ∃ cs, convolve q sums (a :: p) = cs ++ [0] ∧ cs.length = q.length + p.length := by
  induction p generalizing sums a with
  | nil =>
    obtain ⟨sum, later, -, hstep, hlength⟩ := exists_convolve_step hsums hq a []
    exact ⟨sum :: later, by rw [hstep]; rfl, by simpa using hlength⟩
  | cons b p ih =>
    obtain ⟨sum, later, -, hstep, hlength⟩ := exists_convolve_step hsums hq a (b :: p)
    have hnext : (later ++ [0]).length = q.length := by simpa using hlength
    obtain ⟨cs, hcs, hcount⟩ := ih hnext b
    refine ⟨sum :: cs, by rw [hstep, hcs]; rfl, ?_⟩
    rw [List.length_cons, List.length_cons, hcount]
    omega

end Convolve

/-- **The degree of a product** is at most the sum of the degrees. -/
theorem degree_mul_le : (p.mul q).degree ≤ p.degree + q.degree := by
  unfold mul
  split
  · exact Nat.zero_le _
  rename_i hzero
  simp only [isZero, Bool.or_eq_true, List.isEmpty_iff, not_or] at hzero
  obtain ⟨a, rest, hp⟩ := List.exists_cons_of_ne_nil hzero.1
  have hq : 0 < q.coeffs.length := List.length_pos_iff.mpr hzero.2
  obtain ⟨cs, hcs, hlength⟩ := exists_convolve_cons
    (List.length_replicate (a := (0 : Float))) hq a rest
  have hsame : ofList (cs ++ [0]) = ofList cs := ext (trimZeros_append_zero float_zero_beq_zero cs)
  rw [hp, hcs, hsame]
  refine (degree_ofList_le cs).trans ?_
  simp only [degree, hp, List.length_cons, hlength]
  omega

theorem degree_powFrom_le (result base : Polynomial Float) (n : Nat) :
    (powFrom result base n).degree ≤ result.degree + n * base.degree := by
  induction n using Nat.strongRecOn generalizing result base with
  | ind n ih =>
    by_cases hn : n = 0
    · rw [powFrom, if_pos hn]
      exact Nat.le_add_right _ _
    have hresult : (if n % 2 = 1 then result.mul base else result).degree ≤
        result.degree + n % 2 * base.degree := by
      rcases Nat.mod_two_eq_zero_or_one n with h | h
      · simp [h]
      · rw [if_pos h, h, Nat.one_mul]
        exact degree_mul_le
    have hdigits : n * base.degree =
        n % 2 * base.degree + n / 2 * (base.degree + base.degree) := by
      conv_lhs => rw [← Nat.mod_add_div n 2]
      ring
    rw [powFrom, if_neg hn]
    by_cases hhalf : n / 2 = 0
    · rw [if_pos hhalf]
      omega
    · rw [if_neg hhalf]
      have hsquare : n / 2 * (base.mul base).degree ≤ n / 2 * (base.degree + base.degree) :=
        Nat.mul_le_mul_left _ degree_mul_le
      refine (ih (n / 2) (by omega) _ (base.mul base)).trans ?_
      omega

/-- **The degree of a power** is at most the multiple of the degree. -/
theorem degree_pow_le (n : Nat) : (p.pow n).degree ≤ n * p.degree := by
  have h := degree_powFrom_le (constant 1) p n
  rwa [degree_constant, Nat.zero_add] at h

end OneUnknown.Polynomial
