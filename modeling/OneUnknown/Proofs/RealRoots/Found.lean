import OneUnknown.Proofs.Polynomial.Degree
import OneUnknown.Proofs.RealRoots.Distinct
import OneUnknown.Proofs.RealRoots.Newton

/-!
# Where the roots of a polynomial come from

Zero is split off before the search, as often as it is a root, and the search goes on in the other
factor. So zero is found exactly, whatever the starting points are, and every other root that is
found has been reached from one of them.

* `Polynomial.zeros_append_splitZeroRoots`, `Polynomial.coeff_zero_splitZeroRoots`,
  `Polynomial.degree?_splitZeroRoots`: the power of the unknown and the other factor;
* `mem_rootCandidates_iff`, `rootCandidates_of_pos`: the roots before they are rounded;
* `findRoots_of_degree_eq_zero`: a constant has no roots;
* **`findRoots_certified`**: the roots of a polynomial.
-/

namespace OneUnknown

/-! ## The root zero -/

namespace Polynomial

variable {K : Type} [Zero K] [BEq K]

theorem coeffs_splitZeroRoots (p : Polynomial K) :
    p.splitZeroRoots.2.coeffs = p.coeffs.dropWhile (· == 0) := by
  have hsplit := List.takeWhile_append_dropWhile (p := (· == (0 : K))) (l := p.coeffs)
  have hdrop : p.coeffs.drop (p.coeffs.takeWhile (· == 0)).length =
      p.coeffs.dropWhile (· == 0) :=
    (congrArg (List.drop _) hsplit.symm).trans List.drop_left
  have htrimmed : Trimmed (p.coeffs.dropWhile (· == 0)) := by
    intro c hc
    refine p.trimmed c ?_
    rw [← hsplit, List.getLast?_append, hc]
    rfl
  rw [splitZeroRoots, hdrop, coeffs_ofList, trimZeros_of_trimmed htrimmed]

/-- **The coefficients are zeros and those of the other factor.** -/
theorem zeros_append_splitZeroRoots (p : Polynomial K) : ∃ zeros : List K,
    zeros.length = p.splitZeroRoots.1 ∧ (∀ c ∈ zeros, (c == 0) = true) ∧
      p.coeffs = zeros ++ p.splitZeroRoots.2.coeffs := by
  refine ⟨p.coeffs.takeWhile (· == 0), rfl, fun c hc => ?_, ?_⟩
  · exact List.mem_takeWhile_imp (p := (· == (0 : K))) hc
  · rw [coeffs_splitZeroRoots, List.takeWhile_append_dropWhile]

theorem exists_coeffs_splitZeroRoots {p : Polynomial K} (h : p.isZero = false) :
    ∃ c cs, p.splitZeroRoots.2.coeffs = c :: cs ∧ (c == 0) = false := by
  have hne : p.coeffs ≠ [] := by simpa [isZero] using h
  have hlast := p.trimmed _ (List.getLast?_eq_some_getLast hne)
  rcases hcoeffs : p.splitZeroRoots.2.coeffs with _ | ⟨c, cs⟩
  · obtain ⟨zeros, -, hzeros, happend⟩ := p.zeros_append_splitZeroRoots
    rw [hcoeffs, List.append_nil] at happend
    rw [hzeros _ (happend ▸ List.getLast_mem hne)] at hlast
    exact Bool.noConfusion hlast
  · refine ⟨c, cs, rfl, ?_⟩
    have hhead := List.head?_dropWhile_not (· == (0 : K)) p.coeffs
    rw [← coeffs_splitZeroRoots, hcoeffs] at hhead
    exact hhead

theorem coeff_zero_splitZeroRoots {p : Polynomial K} (h : p.isZero = false) :
    (p.splitZeroRoots.2.coeff 0 == 0) = false := by
  obtain ⟨c, cs, hcoeffs, hc⟩ := exists_coeffs_splitZeroRoots h
  rw [coeff, hcoeffs]
  exact hc

/-- **The degree is that of the other factor and the power of the unknown together.** -/
theorem degree?_splitZeroRoots {p : Polynomial K} (h : p.isZero = false) :
    ∃ d, p.splitZeroRoots.2.degree? = some d ∧ p.degree? = some (d + p.splitZeroRoots.1) := by
  obtain ⟨c, cs, hcoeffs, -⟩ := exists_coeffs_splitZeroRoots h
  obtain ⟨zeros, hlength, -, happend⟩ := p.zeros_append_splitZeroRoots
  have hfactor : p.splitZeroRoots.2.coeffs.length = cs.length + 1 := by rw [hcoeffs]; rfl
  have hsum : p.coeffs.length = p.splitZeroRoots.1 + (cs.length + 1) := by
    rw [happend, List.length_append, hlength, hfactor]
  refine ⟨cs.length, ?_, ?_⟩
  · rw [degree?, hfactor, if_neg (by omega)]
    rfl
  · rw [degree?, hsum, if_neg (by omega), Option.some.injEq]
    omega

theorem splitZeroRoots_of_isZero {p : Polynomial K} (h : p.isZero = true) :
    p.splitZeroRoots.1 = 0 ∧ p.splitZeroRoots.2.degree = 0 := by
  have hnil : p.coeffs = [] := by simpa [isZero] using h
  refine ⟨by simp [splitZeroRoots, hnil], ?_⟩
  rw [degree, coeffs_splitZeroRoots, hnil]
  rfl

end Polynomial

/-! ## Candidates -/

section Candidates

variable {settings : NewtonSettings} {places : Nat} {p : Polynomial Float} {r : Float}

/-- **The roots before they are rounded**: zero, and what is reached in the other factor. -/
theorem mem_rootCandidates_iff : r ∈ rootCandidates settings p ↔
    (0 < p.splitZeroRoots.1 ∧ r = 0) ∨ (0 < p.splitZeroRoots.2.degree ∧
      ∃ seed ∈ settings.seeds,
        newton p.splitZeroRoots.2 settings.tolerance settings.maxIterations seed = some r) := by
  simp only [rootCandidates, List.mem_append]
  refine or_congr ?_ ?_
  · split <;> simp_all
  · split
    · rename_i hdegree
      rw [List.mem_filterMap]
      exact (and_iff_right hdegree).symm
    · rename_i hdegree
      simp [hdegree]

theorem rootCandidates_of_pos (settings : NewtonSettings) (h : 0 < p.splitZeroRoots.1) :
    ∃ others, rootCandidates settings p = 0 :: others ∧
      (p.splitZeroRoots.2.degree = 0 → others = []) := by
  simp only [rootCandidates, if_pos h, List.singleton_append, List.cons.injEq, true_and]
  exact ⟨_, rfl, fun hdegree => if_neg (by omega)⟩

theorem rootCandidates_eq_nil (h : p.splitZeroRoots.1 = 0)
    (hdegree : p.splitZeroRoots.2.degree = 0) : rootCandidates settings p = [] := by
  simp [rootCandidates, h, hdegree]

end Candidates

/-! ## Roots -/

theorem findRoots_of_degree_eq_zero (settings : NewtonSettings) (places : Nat)
    {p : Polynomial Float} (h : p.degree = 0) : findRoots settings places p = [] := by
  have hsplit : p.splitZeroRoots.1 = 0 ∧ p.splitZeroRoots.2.degree = 0 := by
    cases hzero : p.isZero with
    | true => exact Polynomial.splitZeroRoots_of_isZero hzero
    | false =>
      obtain ⟨d, hd, hsum⟩ := Polynomial.degree?_splitZeroRoots hzero
      have hfactor := Polynomial.degree_of_degree? hd
      have hwhole := Polynomial.degree_of_degree? hsum
      omega
  rw [findRoots, rootCandidates_eq_nil hsplit.1 hsplit.2, distinctRoots_nil]

/-- **What the roots of a polynomial are worth.** With the power of the unknown that divides it and
the other factor: every root is zero, if the power is not trivial, or has been reached in the other
factor from a starting point; both are rounded. Zero is found whenever it is a root, and alone if
the other factor is a constant. Otherwise everything that is reached is found, or something near to
it. The zero polynomial has no roots. -/
theorem findRoots_certified (settings : NewtonSettings) (places : Nat) (p : Polynomial Float) :
    let k := p.splitZeroRoots.1
    let q := p.splitZeroRoots.2
    let reached := newton q settings.tolerance settings.maxIterations
    let roots := findRoots settings places p
    (∃ zeros : List Float, zeros.length = k ∧ (∀ c ∈ zeros, (c == 0) = true) ∧
      p.coeffs = zeros ++ q.coeffs) ∧
    (p.isZero = false → (q.coeff 0 == 0) = false ∧
      ∃ d, q.degree? = some d ∧ p.degree? = some (d + k)) ∧
    (∀ v ∈ roots, (0 < k ∧ v = roundTo places 0) ∨
      ∃ seed ∈ settings.seeds, ∃ r, reached seed = some r ∧ v = roundTo places r) ∧
    (0 < k → roundTo places 0 ∈ roots) ∧
    (0 < k → q.degree = 0 → roots = [roundTo places 0]) ∧
    (0 < q.degree → ∀ seed ∈ settings.seeds, ∀ r, reached seed = some r →
      ∃ v ∈ roots, v = roundTo places r ∨ IsWithin settings.tolerance v (roundTo places r)) ∧
    (p.isZero = true → roots = []) := by
  intro k q reached roots
  refine ⟨p.zeros_append_splitZeroRoots, fun hne => ?_, fun v hv => ?_, fun hk => ?_,
    fun hk hdegree => ?_, fun hdegree seed hseed r hr => ?_, fun hzero => ?_⟩
  · exact ⟨Polynomial.coeff_zero_splitZeroRoots hne, Polynomial.degree?_splitZeroRoots hne⟩
  · obtain ⟨r, hr, rfl⟩ := exists_of_mem_distinctRoots hv
    rcases mem_rootCandidates_iff.mp hr with ⟨hk, rfl⟩ | ⟨-, seed, hseed, hreached⟩
    · exact .inl ⟨hk, rfl⟩
    · exact .inr ⟨seed, hseed, r, hreached, rfl⟩
  · obtain ⟨others, hcandidates, -⟩ := rootCandidates_of_pos settings hk
    simp only [roots, findRoots, hcandidates]
    exact roundTo_mem_distinctRoots _ _ _ _
  · obtain ⟨others, hcandidates, hothers⟩ := rootCandidates_of_pos settings hk
    simp only [roots, findRoots, hcandidates, hothers hdegree]
    exact distinctRoots_singleton _ _ _
  · exact exists_mem_distinctRoots
      (mem_rootCandidates_iff.mpr (.inr ⟨hdegree, seed, hseed, hr⟩))
  · obtain ⟨hk, hdegree⟩ := Polynomial.splitZeroRoots_of_isZero hzero
    simp only [roots, findRoots, rootCandidates_eq_nil hk hdegree]
    exact distinctRoots_nil _ _

/-- `x⁴ - 2 x²` has the root zero and one near `√2`, `3 x³` has the root zero alone, and `0` has
none. -/
theorem findRoots_certified_fourth_power :
    let p : Polynomial Float := .ofList [0, 0, -2, 0, 1]
    let cube : Polynomial Float := .ofList [0, 0, 0, 3]
    (p.isZero = false ∧ 0 < p.splitZeroRoots.1 ∧ 0 < p.splitZeroRoots.2.degree ∧
      5 ∈ ({} : NewtonSettings).seeds ∧ newton p.splitZeroRoots.2 ({} : NewtonSettings).tolerance
        ({} : NewtonSettings).maxIterations 5 = some 1.4142135623730951) ∧
    (p.splitZeroRoots.2.coeff 0 == 0) = false ∧ roundTo 6 0 ∈ findRoots {} 6 p ∧
    (∃ v ∈ findRoots {} 6 p, v = roundTo 6 1.4142135623730951 ∨
      IsWithin ({} : NewtonSettings).tolerance v (roundTo 6 1.4142135623730951)) ∧
    (0 < cube.splitZeroRoots.1 ∧ cube.splitZeroRoots.2.degree = 0) ∧
    findRoots {} 6 cube = [roundTo 6 0] ∧ findRoots {} 6 .zero = [] := by
  intro p cube
  have hp : p.isZero = false := by decide +kernel
  have hpower : 0 < p.splitZeroRoots.1 := by decide +kernel
  have hfactor : 0 < p.splitZeroRoots.2.degree := by decide +kernel
  have hseed : 5 ∈ ({} : NewtonSettings).seeds := List.mem_of_getElem? (i := 3) rfl
  have hreached : newton p.splitZeroRoots.2 ({} : NewtonSettings).tolerance
      ({} : NewtonSettings).maxIterations 5 = some 1.4142135623730951 := by decide +kernel
  have hcube : 0 < cube.splitZeroRoots.1 ∧ cube.splitZeroRoots.2.degree = 0 := by decide +kernel
  obtain ⟨-, hne, -, hzero, -, hfound, -⟩ := findRoots_certified {} 6 p
  obtain ⟨-, -, -, -, halone, -⟩ := findRoots_certified {} 6 cube
  obtain ⟨-, -, -, -, -, -, hnone⟩ := findRoots_certified {} 6 .zero
  exact ⟨⟨hp, hpower, hfactor, hseed, hreached⟩, (hne hp).1, hzero hpower,
    hfound hfactor 5 hseed _ hreached, hcube, halone hcube.1 hcube.2, hnone rfl⟩

end OneUnknown
