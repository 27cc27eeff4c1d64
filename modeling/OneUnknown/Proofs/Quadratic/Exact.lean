import Mathlib.Algebra.QuadraticDiscriminant
import Mathlib.Analysis.Complex.Basic
import OneUnknown.Proofs.Radical.Canonical
import OneUnknown.Quadratic

/-!
# Exact solutions of quadratic equations

Where the coefficients and the discriminant are whole numbers in range, the text of the solutions
is made of radicals. These radicals are the solutions: there are no others, and nothing is rounded.

* `exists_realPair_eq_ok`, `exactText_of_pos`: two real solutions;
* `exactText_zero`: one solution;
* `exactText_of_neg`: a conjugate pair;
* **`rootsText_solutions`**: the text of the solutions, by the sign of the discriminant.
-/

namespace OneUnknown

namespace Quadratic

variable {a b c D : Int}

/-! ## Two real solutions -/

theorem exists_fraction (ha : a ≠ 0) (n : Int) :
    ∃ r : Radical.Reduced, Radical.fraction n (2 * a) = .ok r.toRadical ∧
      r.toReal = n / (2 * a) := by
  have h2a : 2 * a ≠ 0 := mul_ne_zero two_ne_zero ha
  obtain ⟨r, hr, hvalue⟩ := Radical.exists_of_eq_ok (c := n) (k := 0) (n := 1) h2a
  refine ⟨r, hr, ?_⟩
  rw [hvalue]
  push_cast
  ring

/-- **The two real solutions**, with the root of the discriminant added and subtracted. -/
theorem exists_realPair_eq_ok (ha : a ≠ 0) (b : Int) (n : Nat) :
    ∃ r₁ r₂ : Radical.Reduced, realPair a b n = .ok (r₁.toRadical, r₂.toRadical) ∧
      r₁.toReal = (-b + √(n : ℝ)) / (2 * a) ∧ r₂.toReal = (-b - √(n : ℝ)) / (2 * a) := by
  have h2a : 2 * a ≠ 0 := mul_ne_zero two_ne_zero ha
  by_cases hn : isPerfectSquare n = true
  · have hs : √(n : ℝ) = isqrt n := by
      have hsq : ((isqrt n : ℝ)) ^ 2 = n := by exact_mod_cast isqrt_sq hn
      rw [← hsq, Real.sqrt_sq (Nat.cast_nonneg _)]
    obtain ⟨r₁, hr₁, hvalue₁⟩ := exists_fraction ha (-b + isqrt n)
    obtain ⟨r₂, hr₂, hvalue₂⟩ := exists_fraction ha (-b - isqrt n)
    refine ⟨r₁, r₂, ?_, ?_, ?_⟩
    · simp only [realPair, hn, if_true, hr₁, hr₂]
      rfl
    · rw [hvalue₁, hs]
      push_cast
      rfl
    · rw [hvalue₂, hs]
      push_cast
      rfl
  · obtain ⟨r₁, hr₁, hvalue₁⟩ := Radical.exists_of_eq_ok (c := -b) (k := 1) (n := n) h2a
    obtain ⟨r₂, hr₂, hvalue₂⟩ := Radical.exists_of_eq_ok (c := -b) (k := -1) (n := n) h2a
    refine ⟨r₁, r₂, ?_, ?_, ?_⟩
    · simp only [realPair, hn, hr₁, hr₂]
      rfl
    · rw [hvalue₁]
      push_cast
      ring
    · rw [hvalue₂]
      push_cast
      ring

theorem exactText_of_pos (name : Char) (ha : a ≠ 0) (b : Int) (hD : 0 < D) :
    ∃ r₁ r₂ : Radical.Reduced, exactText name a b D = .ok (pairText name r₁.text r₂.text) ∧
      r₁.toReal = (-b + √(D : ℝ)) / (2 * a) ∧ r₂.toReal = (-b - √(D : ℝ)) / (2 * a) := by
  obtain ⟨r₁, r₂, hpair, hvalue₁, hvalue₂⟩ := exists_realPair_eq_ok ha b D.toNat
  have hcast : ((D.toNat : Nat) : ℝ) = D := by
    exact_mod_cast Int.toNat_of_nonneg hD.le
  rw [hcast] at hvalue₁ hvalue₂
  refine ⟨r₁, r₂, ?_, hvalue₁, hvalue₂⟩
  simp only [exactText, hD, if_true, hpair]
  rfl

/-! ## One solution -/

theorem exactText_zero (name : Char) (ha : a ≠ 0) (b : Int) :
    ∃ r : Radical.Reduced, exactText name a b 0 = .ok (assignment name r.text) ∧
      r.toReal = -b / (2 * a) := by
  obtain ⟨r, hr, hvalue⟩ := exists_fraction ha (-b)
  refine ⟨r, ?_, by rw [hvalue, Int.cast_neg]⟩
  simp only [exactText, lt_irrefl, if_true, hr]
  rfl

/-! ## A conjugate pair -/

theorem exactText_of_neg (name : Char) (ha : a ≠ 0) (b : Int) (hD : D < 0) :
    ∃ re im : Radical.Reduced, exactText name a b D =
        .ok (if b = 0 then assignment name ("±" ++ im.text ++ "i")
          else assignment name (re.text ++ " ± " ++ im.text ++ "i")) ∧
      re.toReal = -b / (2 * a) ∧
      im.toReal = √(-D : ℝ) / (2 * |(a : ℝ)|) := by
  obtain ⟨re, hre, hreValue⟩ := exists_fraction ha (-b)
  have h2a : ((2 * a).natAbs : Int) ≠ 0 := by omega
  obtain ⟨im, him, himValue⟩ :=
    Radical.exists_of_eq_ok (c := 0) (k := 1) (n := D.natAbs) h2a
  have hzero : re.isZero = decide (b = 0) := by
    have h2a' : (2 * a : ℝ) ≠ 0 := by
      have : (a : ℝ) ≠ 0 := by exact_mod_cast ha
      positivity
    rw [Bool.eq_iff_iff, re.isReduced.isZero_iff, hreValue, decide_eq_true_iff,
      div_eq_zero_iff, or_iff_left h2a', Int.cast_eq_zero, neg_eq_zero]
  refine ⟨re, im, ?_, by rw [hreValue, Int.cast_neg], ?_⟩
  · simp only [exactText, not_lt.mpr hD.le, hD.ne, if_false, hre, Radical.sqrt_eq, him]
    show Except.ok (complexText name re.text re.isZero im.text) = _
    rw [hzero, complexText]
    simp only [decide_eq_true_eq]
  · have hnum : ((D.natAbs : Nat) : ℝ) = -D := by
      rw [Nat.cast_natAbs, abs_of_neg hD, Int.cast_neg]
    have hden : (((2 * a).natAbs : Int) : ℝ) = 2 * |(a : ℝ)| := by
      rw [Int.natCast_natAbs, Int.cast_abs, Int.cast_mul, abs_mul, Int.cast_ofNat, abs_two]
    rw [himValue, hnum, hden, Int.cast_zero, Int.cast_one, zero_add, one_mul]

/-! ## Solutions of the equation -/

theorem discrim_intCast {K : Type*} [Field K] (a b c : Int) :
    discrim (a : K) b c = ((b ^ 2 - 4 * a * c : Int) : K) := by
  rw [discrim]
  push_cast
  rfl

theorem eq_of_exactDiscriminant? (h : exactDiscriminant? a b c = some D) :
    D = b ^ 2 - 4 * a * c := by
  simp only [exactDiscriminant?, Option.ite_none_right_eq_some, Option.some.injEq] at h
  rw [← h.2, sq]

theorem real_solution_iff (ha : a ≠ 0) (hD : D = b ^ 2 - 4 * a * c) (h0 : 0 ≤ D) (x : ℝ) :
    a * x ^ 2 + b * x + c = 0 ↔
      x = (-b + √(D : ℝ)) / (2 * a) ∨ x = (-b - √(D : ℝ)) / (2 * a) := by
  have ha' : (a : ℝ) ≠ 0 := by exact_mod_cast ha
  have hs : discrim (a : ℝ) b c = √(D : ℝ) * √(D : ℝ) := by
    rw [discrim_intCast, ← hD, Real.mul_self_sqrt (by exact_mod_cast h0)]
  rw [sq]
  exact quadratic_eq_zero_iff ha' hs x

theorem complex_solution_iff (ha : a ≠ 0) (hD : D = b ^ 2 - 4 * a * c) (h0 : D < 0) {re im : ℝ}
    (hre : re = -b / (2 * a)) (him : im = √(-D : ℝ) / (2 * |(a : ℝ)|)) (z : ℂ) :
    a * z ^ 2 + b * z + c = 0 ↔ z = re + im * Complex.I ∨ z = re - im * Complex.I := by
  have ha' : (a : ℝ) ≠ 0 := by exact_mod_cast ha
  have haC : (a : ℂ) ≠ 0 := by exact_mod_cast ha
  have hsq : (2 * a * im) ^ 2 = (-D : ℝ) := by
    have hD' : (0 : ℝ) ≤ -D := by exact_mod_cast (neg_pos.mpr h0).le
    rw [him, mul_div_assoc', div_pow, mul_pow, Real.sq_sqrt hD', mul_pow, mul_pow, sq_abs]
    field_simp
  have hs : discrim (a : ℂ) b c = (2 * a * im * Complex.I) * (2 * a * im * Complex.I) := by
    have hsqC : ((2 * a * im : ℂ)) ^ 2 = -D := by exact_mod_cast hsq
    rw [discrim_intCast, ← hD]
    linear_combination hsqC - (2 * a * im : ℂ) ^ 2 * Complex.I_sq
  have hplus : ((-b : ℂ) + 2 * a * im * Complex.I) / (2 * a) = re + im * Complex.I := by
    rw [hre]
    push_cast
    field_simp
  have hminus : ((-b : ℂ) - 2 * a * im * Complex.I) / (2 * a) = re - im * Complex.I := by
    rw [hre]
    push_cast
    field_simp
  rw [sq, quadratic_eq_zero_iff haC hs, hplus, hminus]

/-! ## The text of the solutions -/

/-- **The exact text is made of the solutions.** With whole coefficients and a discriminant in
range there is an answer. It shows the two real solutions, the one with the positive root first, or
the only real solution, or a conjugate pair by its real part, which is left out if `b` is zero, and
its positive imaginary part. -/
theorem rootsText_solutions {q : Quadratic} (places : Nat) (h₂ : asInteger? q.a = some a)
    (h₁ : asInteger? q.b = some b) (h₀ : asInteger? q.c = some c) (ha : a ≠ 0)
    (hD : exactDiscriminant? a b c = some D) :
    D = b ^ 2 - 4 * a * c ∧
    (0 < D → ∃ r₁ r₂ : Radical.Reduced, q.rootsText places =
        .ok (q.name.toString ++ " = " ++ r₁.text ++ ", " ++
          q.name.toString ++ " = " ++ r₂.text) ∧
      r₁.toReal = (-b + √(D : ℝ)) / (2 * a) ∧ r₂.toReal = (-b - √(D : ℝ)) / (2 * a) ∧
      ∀ x : ℝ, a * x ^ 2 + b * x + c = 0 ↔ x = r₁.toReal ∨ x = r₂.toReal) ∧
    (D = 0 → ∃ r : Radical.Reduced,
        q.rootsText places = .ok (q.name.toString ++ " = " ++ r.text) ∧
      r.toReal = -b / (2 * a) ∧
      ∀ x : ℝ, a * x ^ 2 + b * x + c = 0 ↔ x = r.toReal) ∧
    (D < 0 → ∃ re im : Radical.Reduced, q.rootsText places =
        .ok (if b = 0 then q.name.toString ++ " = ±" ++ im.text ++ "i"
          else q.name.toString ++ " = " ++ re.text ++ " ± " ++ im.text ++ "i") ∧
      re.toReal = -b / (2 * a) ∧
      im.toReal = √(-D : ℝ) / (2 * |(a : ℝ)|) ∧ 0 < im.toReal ∧
      ∀ z : ℂ, a * z ^ 2 + b * z + c = 0 ↔
        z = re.toReal + im.toReal * Complex.I ∨ z = re.toReal - im.toReal * Complex.I) := by
  have hdisc := eq_of_exactDiscriminant? hD
  have htext : q.rootsText places = exactText q.name a b D := by
    simp only [rootsText, h₂, h₁, h₀, hD]
  rw [htext]
  refine ⟨hdisc, fun hpos => ?_, fun hzero => ?_, fun hneg => ?_⟩
  · obtain ⟨r₁, r₂, hok, hv₁, hv₂⟩ := exactText_of_pos q.name ha b hpos
    refine ⟨r₁, r₂, ?_, hv₁, hv₂, fun x => ?_⟩
    · simp only [hok, pairText, assignment, String.append_assoc]
    · rw [real_solution_iff ha hdisc hpos.le, hv₁, hv₂]
  · subst hzero
    obtain ⟨r, hok, hv⟩ := exactText_zero q.name ha b
    refine ⟨r, hok, hv, fun x => ?_⟩
    rw [real_solution_iff ha hdisc (le_refl 0), hv, Int.cast_zero, Real.sqrt_zero, add_zero,
      sub_zero, or_self_iff]
  · obtain ⟨re, im, hok, hvre, hvim⟩ := exactText_of_neg q.name ha b hneg
    refine ⟨re, im, ?_, hvre, hvim, ?_, fun z => ?_⟩
    · rw [hok]
      split <;> simp only [assignment, String.append_assoc]
      rfl
    · have hD' : (0 : ℝ) < -D := by exact_mod_cast neg_pos.mpr hneg
      have ha' : (0 : ℝ) < |(a : ℝ)| := abs_pos.mpr (by exact_mod_cast ha)
      rw [hvim]
      positivity
    · exact complex_solution_iff ha hdisc hneg hvre hvim z

set_option maxRecDepth 100000 in
/-- The solutions of `x² - 5 x + 6 = 0`. -/
theorem rootsText_five_six : ∃ r₁ r₂ : Radical.Reduced,
    rootsText 6 ⟨'x', 1, -5, 6⟩ = .ok ("x = " ++ r₁.text ++ ", x = " ++ r₂.text) ∧
      ∀ x : ℝ, x ^ 2 - 5 * x + 6 = 0 ↔ x = r₁.toReal ∨ x = r₂.toReal := by
  have h₂ : asInteger? 1 = some 1 := by decide +kernel
  have h₁ : asInteger? (-5) = some (-5) := by decide +kernel
  have h₀ : asInteger? 6 = some 6 := by decide +kernel
  have hD : exactDiscriminant? 1 (-5) 6 = some 1 := by decide +kernel
  have hspec := rootsText_solutions (q := ⟨'x', 1, -5, 6⟩) 6 h₂ h₁ h₀ (by decide) hD
  obtain ⟨r₁, r₂, hok, -, -, hroots⟩ := hspec.2.1 (by decide)
  refine ⟨r₁, r₂, ?_, fun x => ?_⟩
  · simpa [String.append_assoc] using hok
  rw [← hroots x]
  push_cast
  constructor
  · intro h
    linarith
  · intro h
    linarith

end Quadratic

end OneUnknown
