import Mathlib.Analysis.Real.Sqrt
import OneUnknown.Proofs.Integer.SquareFree
import OneUnknown.Radical

/-!
# Reduction keeps the number

A radical stands for a real number, and every stage of its reduction keeps that number. Each stage
establishes one part of the reduced form, and the later stages keep it.

* **`Radical.toReal`**: the number that a radical stands for;
* `toReal_extracted`, `toReal_collapsed`, `toReal_cancelled`, `toReal_normalizedSign`: the stages;
* **`toReal_reduced`**: reduction keeps the number;
* **`isReduced_reduced`**: reduction reaches the reduced form;
* `isReduced_of`, `toReal_of`, `exists_of_eq_ok`: the same for a number made from its parts.
-/

namespace OneUnknown

theorem sqrt_squareFree (n : Nat) : √(n : ℝ) = (squareFree n).1 * √((squareFree n).2 : ℝ) := by
  have hn : (n : ℝ) = ((squareFree n).1 : ℝ) ^ 2 * ((squareFree n).2 : ℝ) := by
    exact_mod_cast (squareFree_sq_mul n).symm
  rw [hn, Real.sqrt_mul (sq_nonneg _), Real.sqrt_sq (Nat.cast_nonneg _)]

namespace Radical

variable {r : Radical}

/-- **The real number that a radical stands for.** -/
noncomputable def toReal (r : Radical) : ℝ :=
  (r.constant + r.coefficient * √(r.radicand : ℝ)) / r.denominator

/-! ## Square factors -/

@[simp] theorem constant_extracted : r.extracted.constant = r.constant := rfl

@[simp] theorem coefficient_extracted :
    r.extracted.coefficient = r.coefficient * (squareFree r.radicand).1 := rfl

@[simp] theorem radicand_extracted : r.extracted.radicand = (squareFree r.radicand).2 := rfl

@[simp] theorem denominator_extracted : r.extracted.denominator = r.denominator := rfl

theorem toReal_extracted : r.extracted.toReal = r.toReal := by
  have h := sqrt_squareFree r.radicand
  simp only [toReal, constant_extracted, coefficient_extracted, radicand_extracted,
    denominator_extracted, Int.cast_mul, Int.cast_natCast]
  rw [h, mul_assoc]

/-! ## Numbers without a root -/

theorem constant_collapsed : r.collapsed.constant =
    if r.radicand = 1 then r.constant + r.coefficient else r.constant := by
  unfold collapsed
  split_ifs <;> rfl

theorem coefficient_collapsed : r.collapsed.coefficient =
    if r.radicand = 1 then 0 else r.coefficient := by
  unfold collapsed
  split_ifs <;> rfl

theorem radicand_collapsed : r.collapsed.radicand =
    if r.coefficient = 0 then 1 else r.radicand := by
  unfold collapsed
  split_ifs with hm
  · exact hm
  · rfl
  · rfl
  · rfl

@[simp] theorem denominator_collapsed : r.collapsed.denominator = r.denominator := by
  unfold collapsed
  split_ifs <;> rfl

theorem toReal_collapsed : r.collapsed.toReal = r.toReal := by
  unfold collapsed toReal
  split_ifs with hm hk
  · simp [hm]
  · simp [hk]
  · rfl

theorem coefficient_collapsed_eq_zero_iff :
    r.collapsed.coefficient = 0 ↔ r.collapsed.radicand = 1 := by
  rw [coefficient_collapsed, radicand_collapsed]
  by_cases hm : r.radicand = 1
  · simp [hm]
  · by_cases hk : r.coefficient = 0
    · simp [hk]
    · simp [hm, hk]

theorem radicand_collapsed_dvd : r.collapsed.radicand ∣ r.radicand := by
  rw [radicand_collapsed]
  split_ifs
  · exact one_dvd _
  · exact dvd_refl _

/-! ## Common factors -/

theorem commonFactor_eq (r : Radical) : r.commonFactor =
    Nat.gcd (Nat.gcd r.constant.natAbs r.coefficient.natAbs) r.denominator.natAbs := by
  rw [commonFactor, euclid_eq_gcd, euclid_eq_gcd]

@[simp] theorem radicand_cancelled : r.cancelled.radicand = r.radicand := rfl

theorem commonFactor_pos (h : r.denominator ≠ 0) : 0 < r.commonFactor := by
  rw [commonFactor_eq]
  exact Nat.gcd_pos_of_pos_right _ (Int.natAbs_pos.mpr h)

theorem commonFactor_dvd_gcd :
    r.commonFactor ∣ Nat.gcd r.constant.natAbs r.coefficient.natAbs := by
  rw [commonFactor_eq]
  exact Nat.gcd_dvd_left _ _

theorem commonFactor_dvd_constant : r.commonFactor ∣ r.constant.natAbs :=
  commonFactor_dvd_gcd.trans (Nat.gcd_dvd_left _ _)

theorem commonFactor_dvd_coefficient : r.commonFactor ∣ r.coefficient.natAbs :=
  commonFactor_dvd_gcd.trans (Nat.gcd_dvd_right _ _)

theorem commonFactor_dvd_denominator : r.commonFactor ∣ r.denominator.natAbs := by
  rw [commonFactor_eq]
  exact Nat.gcd_dvd_right _ _

theorem constant_cancelled_mul : r.cancelled.constant * r.commonFactor = r.constant :=
  Int.tdiv_mul_cancel (Int.natCast_dvd.mpr commonFactor_dvd_constant)

theorem coefficient_cancelled_mul : r.cancelled.coefficient * r.commonFactor = r.coefficient :=
  Int.tdiv_mul_cancel (Int.natCast_dvd.mpr commonFactor_dvd_coefficient)

theorem denominator_cancelled_mul : r.cancelled.denominator * r.commonFactor = r.denominator :=
  Int.tdiv_mul_cancel (Int.natCast_dvd.mpr commonFactor_dvd_denominator)

theorem denominator_cancelled_ne_zero (h : r.denominator ≠ 0) : r.cancelled.denominator ≠ 0 := by
  intro h0
  have hd := r.denominator_cancelled_mul
  rw [h0, zero_mul] at hd
  exact h hd.symm

theorem coefficient_cancelled_eq_zero_iff (h : r.denominator ≠ 0) :
    r.cancelled.coefficient = 0 ↔ r.coefficient = 0 := by
  have hg : (r.commonFactor : Int) ≠ 0 := by
    have := commonFactor_pos h
    omega
  rw [← r.coefficient_cancelled_mul, mul_eq_zero, or_iff_left hg]

theorem toReal_cancelled (h : r.denominator ≠ 0) : r.cancelled.toReal = r.toReal := by
  have hg : (r.commonFactor : ℝ) ≠ 0 := by
    have := commonFactor_pos h
    exact_mod_cast this.ne'
  have hc : (r.constant : ℝ) = r.cancelled.constant * r.commonFactor := by
    exact_mod_cast r.constant_cancelled_mul.symm
  have hk : (r.coefficient : ℝ) = r.cancelled.coefficient * r.commonFactor := by
    exact_mod_cast r.coefficient_cancelled_mul.symm
  have hd : (r.denominator : ℝ) = r.cancelled.denominator * r.commonFactor := by
    exact_mod_cast r.denominator_cancelled_mul.symm
  rw [toReal, toReal, radicand_cancelled, hc, hk, hd, mul_right_comm, ← add_mul,
    mul_div_mul_right _ _ hg]

theorem commonFactor_cancelled (h : r.denominator ≠ 0) : r.cancelled.commonFactor = 1 := by
  have hg := commonFactor_pos h
  have hc : r.cancelled.constant.natAbs = r.constant.natAbs / r.commonFactor :=
    Int.natAbs_tdiv _ _
  have hk : r.cancelled.coefficient.natAbs = r.coefficient.natAbs / r.commonFactor :=
    Int.natAbs_tdiv _ _
  have hd : r.cancelled.denominator.natAbs = r.denominator.natAbs / r.commonFactor :=
    Int.natAbs_tdiv _ _
  rw [commonFactor_eq, hc, hk, hd,
    Nat.gcd_div commonFactor_dvd_constant commonFactor_dvd_coefficient,
    Nat.gcd_div commonFactor_dvd_gcd commonFactor_dvd_denominator, ← commonFactor_eq]
  exact Nat.div_self hg

/-! ## The sign of the denominator -/

@[simp] theorem radicand_normalizedSign : r.normalizedSign.radicand = r.radicand := by
  unfold normalizedSign
  split_ifs <;> rfl

theorem denominator_normalizedSign_pos (h : r.denominator ≠ 0) :
    0 < r.normalizedSign.denominator := by
  unfold normalizedSign
  split_ifs with hd
  · exact neg_pos.mpr hd
  · omega

theorem coefficient_normalizedSign_eq_zero_iff :
    r.normalizedSign.coefficient = 0 ↔ r.coefficient = 0 := by
  unfold normalizedSign
  split_ifs
  · exact neg_eq_zero
  · rfl

theorem commonFactor_normalizedSign : r.normalizedSign.commonFactor = r.commonFactor := by
  unfold normalizedSign commonFactor
  split_ifs
  · simp only [Int.natAbs_neg]
  · rfl

theorem toReal_normalizedSign : r.normalizedSign.toReal = r.toReal := by
  unfold normalizedSign toReal
  split_ifs
  · rw [← neg_div_neg_eq]
    push_cast
    ring
  · rfl

/-! ## The whole reduction -/

/-- **Reduction keeps the number.** -/
theorem toReal_reduced (h : r.denominator ≠ 0) : r.reduced.toReal = r.toReal := by
  have hd : r.extracted.collapsed.denominator ≠ 0 := by
    rwa [denominator_collapsed, denominator_extracted]
  rw [reduced, toReal_normalizedSign, toReal_cancelled hd, toReal_collapsed, toReal_extracted]

/-- **Reduction reaches the reduced form.** -/
theorem isReduced_reduced (h : r.denominator ≠ 0) : r.reduced.IsReduced where
  denominator_pos := by
    apply denominator_normalizedSign_pos
    apply denominator_cancelled_ne_zero
    rwa [denominator_collapsed, denominator_extracted]
  gcd_eq_one := by
    rw [← commonFactor_eq, reduced, commonFactor_normalizedSign]
    apply commonFactor_cancelled
    rwa [denominator_collapsed, denominator_extracted]
  squareFree := by
    intro p hp hdvd
    rw [reduced, radicand_normalizedSign, radicand_cancelled] at hdvd
    exact not_dvd_squareFree r.radicand hp (hdvd.trans radicand_collapsed_dvd)
  coefficient_eq_zero_iff := by
    have hd : r.extracted.collapsed.denominator ≠ 0 := by
      rwa [denominator_collapsed, denominator_extracted]
    rw [reduced, coefficient_normalizedSign_eq_zero_iff, coefficient_cancelled_eq_zero_iff hd,
      coefficient_collapsed_eq_zero_iff, radicand_normalizedSign, radicand_cancelled]

/-! ## Numbers from their parts -/

section Of

variable {c k d : Int} {n : Nat}

theorem of_zero (c k : Int) (n : Nat) : of c k n 0 = .error .divisionByZero := rfl

theorem of_ne_zero (h : d ≠ 0) : of c k n d = .ok (reduced ⟨c, k, n, d⟩) := by
  rw [of, of?, if_neg h, orDivisionByZero]

theorem of_eq_ok_iff : of c k n d = .ok r ↔ d ≠ 0 ∧ reduced ⟨c, k, n, d⟩ = r := by
  by_cases h : d = 0
  · subst h
    simp [of_zero]
  · simp [of_ne_zero h, h]

theorem of_eq_error_iff : of c k n d = .error .divisionByZero ↔ d = 0 := by
  by_cases h : d = 0
  · subst h
    simp [of_zero]
  · simp [of_ne_zero h, h]

theorem isReduced_of (h : of c k n d = .ok r) : r.IsReduced := by
  obtain ⟨hd, rfl⟩ := of_eq_ok_iff.mp h
  exact isReduced_reduced hd

theorem toReal_of (h : of c k n d = .ok r) : r.toReal = (c + k * √(n : ℝ)) / d := by
  obtain ⟨hd, rfl⟩ := of_eq_ok_iff.mp h
  exact toReal_reduced hd

theorem exists_of_eq_ok (h : d ≠ 0) :
    ∃ r : Reduced, of c k n d = .ok r.toRadical ∧ r.toReal = (c + k * √(n : ℝ)) / d := by
  have hr : of c k n d = .ok (reduced ⟨c, k, n, d⟩) := of_eq_ok_iff.mpr ⟨h, rfl⟩
  exact ⟨⟨_, isReduced_of hr⟩, hr, toReal_of hr⟩

end Of

end Radical

end OneUnknown
