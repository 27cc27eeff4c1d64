import Mathlib.NumberTheory.Real.Irrational
import Mathlib.Tactic.FieldSimp
import Mathlib.Tactic.LinearCombination
import OneUnknown.Proofs.Radical.Value

/-!
# Reduced forms are canonical

Two radicals in reduced form that stand for the same real number are the same radical. A root of a
square-free number other than one is irrational, so an equation between such roots splits into its
rational part and its irrational part; the common factor and the sign then leave one choice.

* `irrational_sqrt_of_squarefree`: roots of square-free numbers;
* **`eq_of_add_mul_sqrt_eq`**: an equation between roots of square-free numbers splits;
* **`IsReduced.eq_of_toReal_eq`**, `Reduced.eq_of_toReal_eq`: a number has one reduced form;
* `IsReduced.isZero_iff`: zero is recognised;
* **`of_eq_of_iff`**: parts reduce to the same radical just if they describe the same number.
-/

namespace OneUnknown

/-! ## Roots of square-free numbers -/

theorem irrational_sqrt_of_squarefree {m : Nat} (hm : Squarefree m) (h1 : m ≠ 1) :
    Irrational (√(m : ℝ)) := by
  rw [irrational_sqrt_natCast_iff]
  rintro ⟨s, rfl⟩
  have hs : s = 1 := Nat.isUnit_iff.mp (hm s (dvd_refl _))
  exact h1 (by rw [hs])

theorem eq_zero_of_irrational_mul_eq {x : ℝ} (hx : Irrational x) {a b : Int}
    (h : (a : ℝ) * x = b) : a = 0 ∧ b = 0 := by
  have ha : a = 0 := by
    by_contra hne
    have hne' : (a : ℝ) ≠ 0 := by exact_mod_cast hne
    exact hx.ne_rational b a (by rw [eq_div_iff hne', mul_comm, h])
  refine ⟨ha, ?_⟩
  rw [ha, Int.cast_zero, zero_mul] at h
  exact_mod_cast h.symm

theorem eq_and_eq_of_mul_sqrt_eq {x y : Int} {m m' : Nat} (hm : Squarefree m)
    (hm' : Squarefree m') (hx : x ≠ 0) (h : (x : ℝ) * √(m : ℝ) = y * √(m' : ℝ)) :
    x = y ∧ m = m' := by
  have hsq : x.natAbs ^ 2 * m = y.natAbs ^ 2 * m' := by
    zify
    rw [sq_abs, sq_abs]
    have h2 := congrArg (· ^ 2) h
    simp only [mul_pow, Real.sq_sqrt (Nat.cast_nonneg _)] at h2
    exact_mod_cast h2
  obtain ⟨-, rfl⟩ := eq_and_eq_of_sq_mul_eq hm hm' (Int.natAbs_ne_zero.mpr hx) hsq
  have hpos : √(m : ℝ) ≠ 0 := by
    have : 0 < m := Nat.pos_of_ne_zero hm.ne_zero
    positivity
  have hxy : (x : ℝ) = y := mul_right_cancel₀ hpos h
  exact ⟨by exact_mod_cast hxy, rfl⟩

/-- **An equation between roots of square-free numbers splits** into its rational part and its
irrational part. A root is left out by the radicand one and the coefficient zero. -/
theorem eq_of_add_mul_sqrt_eq {a x y : Int} {m m' : Nat} (hm : Squarefree m)
    (hm' : Squarefree m') (hx : x = 0 ↔ m = 1) (hy : y = 0 ↔ m' = 1)
    (h : (a : ℝ) + x * √(m : ℝ) = y * √(m' : ℝ)) : a = 0 ∧ x = y ∧ m = m' := by
  by_cases hx0 : x = 0
  · -- The left side is rational, so there is no root on the right either.
    have hm1 := hx.mp hx0
    rw [hx0, Int.cast_zero, zero_mul, add_zero] at h
    by_cases hy0 : y = 0
    · rw [hy0, Int.cast_zero, zero_mul] at h
      exact ⟨by exact_mod_cast h, by rw [hx0, hy0], by rw [hm1, hy.mp hy0]⟩
    · have hirr := irrational_sqrt_of_squarefree hm' (mt hy.mpr hy0)
      exact absurd (eq_zero_of_irrational_mul_eq hirr h.symm).1 hy0
  · have hirr := irrational_sqrt_of_squarefree hm (mt hx.mpr hx0)
    -- Squaring leaves the root on the left alone.
    have hroot : ((2 * a * x : Int) : ℝ) * √(m : ℝ) =
        ((y ^ 2 * m' - a ^ 2 - x ^ 2 * m : Int) : ℝ) := by
      have h1 : √(m : ℝ) ^ 2 = m := Real.sq_sqrt (Nat.cast_nonneg m)
      have h2 : √(m' : ℝ) ^ 2 = m' := Real.sq_sqrt (Nat.cast_nonneg m')
      push_cast
      linear_combination (a + x * √(m : ℝ) + y * √(m' : ℝ)) * h - (x : ℝ) ^ 2 * h1 +
        (y : ℝ) ^ 2 * h2
    have ha : a = 0 := by
      have := (eq_zero_of_irrational_mul_eq hirr hroot).1
      simpa [hx0] using this
    rw [ha, Int.cast_zero, zero_add] at h
    exact ⟨ha, eq_and_eq_of_mul_sqrt_eq hm hm' hx0 h⟩

/-! ## Reduced forms -/

namespace Radical

variable {r s : Radical}

theorem IsReduced.squarefree (h : r.IsReduced) : Squarefree r.radicand :=
  squarefree_iff_not_dvd.mpr h.squareFree

/-- Numerators without a factor in common with the denominator leave no choice for it. -/
theorem IsReduced.denominator_dvd (h : r.IsReduced) {a b d : Int}
    (hc : d * r.constant = r.denominator * a) (hk : d * r.coefficient = r.denominator * b) :
    r.denominator ∣ d := by
  have hdvd : r.denominator.natAbs ∣ d.natAbs * Nat.gcd (Nat.gcd r.constant.natAbs
      r.coefficient.natAbs) r.denominator.natAbs := by
    rw [← Nat.gcd_mul_left, ← Nat.gcd_mul_left, ← Int.natAbs_mul, ← Int.natAbs_mul, hc, hk,
      Int.natAbs_mul, Int.natAbs_mul]
    exact Nat.dvd_gcd (Nat.dvd_gcd (Nat.dvd_mul_right _ _) (Nat.dvd_mul_right _ _))
      (Nat.dvd_mul_left _ _)
  rw [h.gcd_eq_one, Nat.mul_one] at hdvd
  exact Int.natAbs_dvd_natAbs.mp hdvd

/-- **A number has one reduced form.** -/
theorem IsReduced.eq_of_toReal_eq (hr : r.IsReduced) (hs : s.IsReduced)
    (h : r.toReal = s.toReal) : r = s := by
  have hrd := hr.denominator_pos
  have hsd := hs.denominator_pos
  have hrd' : (r.denominator : ℝ) ≠ 0 := by exact_mod_cast hrd.ne'
  have hsd' : (s.denominator : ℝ) ≠ 0 := by exact_mod_cast hsd.ne'
  have hcross : ((s.denominator * r.constant - r.denominator * s.constant : Int) : ℝ) +
      (s.denominator * r.coefficient : Int) * √(r.radicand : ℝ) =
      (r.denominator * s.coefficient : Int) * √(s.radicand : ℝ) := by
    rw [toReal, toReal, div_eq_div_iff hrd' hsd'] at h
    push_cast
    linear_combination h
  have hx : s.denominator * r.coefficient = 0 ↔ r.radicand = 1 := by
    rw [mul_eq_zero, or_iff_right hsd.ne', hr.coefficient_eq_zero_iff]
  have hy : r.denominator * s.coefficient = 0 ↔ s.radicand = 1 := by
    rw [mul_eq_zero, or_iff_right hrd.ne', hs.coefficient_eq_zero_iff]
  obtain ⟨ha, hk, hm⟩ := eq_of_add_mul_sqrt_eq hr.squarefree hs.squarefree hx hy hcross
  have hc : s.denominator * r.constant = r.denominator * s.constant := sub_eq_zero.mp ha
  have hd : r.denominator = s.denominator :=
    Int.dvd_antisymm hrd.le hsd.le (hr.denominator_dvd hc hk) (hs.denominator_dvd hc.symm hk.symm)
  rw [hd] at hc hk
  have hconstant := mul_left_cancel₀ hsd.ne' hc
  have hcoefficient := mul_left_cancel₀ hsd.ne' hk
  cases r
  cases s
  simp_all

theorem Reduced.eq_of_toReal_eq {r s : Reduced} (h : r.toReal = s.toReal) : r = s :=
  toRadical_injective (r.isReduced.eq_of_toReal_eq s.isReduced h)

theorem isReduced_zero : IsReduced ⟨0, 0, 1, 1⟩ where
  denominator_pos := Int.one_pos
  gcd_eq_one := by decide
  squareFree := squarefree_iff_not_dvd.mp squarefree_one
  coefficient_eq_zero_iff := by decide

theorem IsReduced.isZero_iff (h : r.IsReduced) : r.isZero = true ↔ r.toReal = 0 := by
  constructor
  · intro hz
    simp only [isZero, Bool.and_eq_true, beq_iff_eq] at hz
    simp [toReal, hz.1, hz.2]
  · intro hz
    have hzero : toReal ⟨0, 0, 1, 1⟩ = 0 := by simp [toReal]
    rw [h.eq_of_toReal_eq isReduced_zero (hz.trans hzero.symm)]
    rfl

/-- **The reduced form is canonical.** Two accepted lists of parts are reduced to the same radical
just if they describe the same number. -/
theorem of_eq_of_iff {c k d c' k' d' : Int} {n n' : Nat} {r s : Radical}
    (hr : of c k n d = .ok r) (hs : of c' k' n' d' = .ok s) :
    r = s ↔ ((c : ℝ) + k * √(n : ℝ)) / d = ((c' : ℝ) + k' * √(n' : ℝ)) / d' := by
  rw [← toReal_of hr, ← toReal_of hs]
  constructor
  · intro h
    rw [h]
  · intro h
    exact (isReduced_of hr).eq_of_toReal_eq (isReduced_of hs) h

/-- A quarter of the root of eight, and half of the root of two. -/
theorem of_quarter_sqrt_eight : ∃ r, of 0 1 8 4 = .ok r ∧ of 0 1 2 2 = .ok r := by
  have hr : of 0 1 8 4 = .ok (reduced ⟨0, 1, 8, 4⟩) := of_eq_ok_iff.mpr ⟨by decide, rfl⟩
  have hs : of 0 1 2 2 = .ok (reduced ⟨0, 1, 2, 2⟩) := of_eq_ok_iff.mpr ⟨by decide, rfl⟩
  have height : √((8 : Nat) : ℝ) = 2 * √((2 : Nat) : ℝ) := by
    rw [show ((8 : Nat) : ℝ) = 2 ^ 2 * ((2 : Nat) : ℝ) by norm_num,
      Real.sqrt_mul (sq_nonneg _), Real.sqrt_sq zero_le_two]
  refine ⟨_, hr, ?_⟩
  rw [(of_eq_of_iff hr hs).mpr (by rw [height]; push_cast; ring)]
  exact hs

end Radical

end OneUnknown
