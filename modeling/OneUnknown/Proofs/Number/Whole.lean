import OneUnknown.Number.Whole
import OneUnknown.Proofs.Number.Arithmetic

/-!
# Numbers that are taken for zero

A number within a billionth of a whole number stands for it. So a number stands for zero just if
its magnitude is at most a billionth, and it need not be zero for that.

* `ofFloat?_neg`, `truncated_withSign_ofNat`: rounded numbers as integers;
* `exponent_le_of_abs_le`: numbers of small magnitude;
* **`asInteger?_eq_zero_iff`**: the numbers that stand for zero.
-/

namespace OneUnknown

open Float.Model Float.Model.UnpackedFloat

variable {x : Float}

/-! ## The tolerance -/

theorem unpacked_integralTolerance : unpacked integralTolerance =
    .finite .positive 4835703278458517 (-82) (by decide) := by
  have h : integralTolerance = packed (.finite .positive 4835703278458517 (-82) (by decide)) := by
    decide
  rw [h]
  exact unpacked_packed ⟨by decide, by decide, by decide, by decide⟩

theorem unpacked_exactLimit : unpacked exactLimit =
    .finite .positive (2 ^ 52) 1 (by decide) := by
  have h : exactLimit = packed (.finite .positive (2 ^ 52) 1 (by decide)) := by
    decide
  rw [h]
  exact unpacked_packed ⟨by decide, by decide, by decide, by decide⟩

/-! ## Rounded numbers -/

theorem ofFloat?_neg (x : Float) : Dyadic.ofFloat? (-x) =
    (Dyadic.ofFloat? x).map fun d => { d with negative := !d.negative } := by
  rw [ofFloat?_eq, ofFloat?_eq, unpacked_neg]
  rcases unpacked x with s | _ | s | ⟨s, m, e, hm⟩ <;> first | rfl | cases s <;> rfl

theorem truncated_withSign_ofNat (negative : Bool) {n : Nat} (h : n < 2 ^ 53) :
    truncated (withSign negative (Float.ofNat n)) = if negative then -(n : Int) else n := by
  obtain ⟨d, hd, hsign, hn⟩ := exists_ofFloat?_ofNat h
  have hdiv : (d.numerator : Int) / d.denominator = n := by
    rw [hn, Int.natCast_mul, Int.mul_ediv_cancel _ (by have := d.denominator_pos; omega)]
  cases negative with
  | false => simp [truncated, withSign, hd, hsign, hdiv]
  | true =>
    simp only [truncated, withSign, if_true, ofFloat?_neg, hd, hsign, Option.map_some,
      Bool.not_false]
    exact congrArg Neg.neg hdiv

theorem halfUp_lt {m k : Nat} (hm : m < 2 ^ 53) (hk : 0 < k) : halfUp m (2 ^ k) < 2 ^ 53 := by
  have hpow : 2 ≤ 2 ^ k := by simpa using Nat.pow_le_pow_right (n := 2) (by decide) hk
  refine Nat.div_lt_of_lt_mul ?_
  omega

theorem roundFloat_of_exponent_neg {d : Dyadic} (h : Dyadic.ofFloat? x = some d)
    (he : d.exponent < 0) : roundFloat x =
      withSign d.negative (Float.ofNat (halfUp d.significand (2 ^ (-d.exponent).toNat))) := by
  have hnum : d.numerator = d.significand := by
    have : d.exponent.toNat = 0 := by omega
    simp [Dyadic.numerator, this]
  simp only [roundFloat, h, if_neg (not_le.mpr he), hnum, Dyadic.denominator, Nat.pow_eq]

theorem withSign_zero_beq (negative : Bool) : (withSign negative (Float.ofNat 0) == 0) = true := by
  cases negative <;> decide

/-! ## Zero -/

theorem exists_ofFloat?_of_isFinite (h : x.isFinite) :
    ∃ d, Dyadic.ofFloat? x = some d ∧ d.significand < 2 ^ 53 ∧
      (0 ≤ d.exponent → 0 < d.significand) := by
  have hr := representable_unpacked x
  rcases isFinite_iff.mp h with ⟨s, hx⟩ | ⟨s, m, e, hm, hx⟩
  · refine ⟨⟨s == .negative, 0, -1074⟩, by rw [ofFloat?_eq, hx]; rfl, Nat.two_pow_pos 53, ?_⟩
    exact fun h => absurd h (by simp)
  · rw [hx] at hr
    exact ⟨_, by rw [ofFloat?_eq, hx]; rfl, hr.lt, fun _ => hm⟩

theorem abs_sub_zero_le_iff {z : Float} (hz : (z == 0) = true) :
    (x - z).abs ≤ integralTolerance ↔ x.abs ≤ integralTolerance := by
  rcases h₀ : x == 0
  · rw [float_sub_zero hz h₀]
  · have small : ∀ y : Float, (y == 0) = true → y.abs ≤ integralTolerance := by
      intro y hy
      obtain ⟨s, hs⟩ := exists_unpacked_of_beq_zero hy
      rw [le_iff, unpacked_abs, hs, unpacked_integralTolerance]
      exact .inl rfl
    exact iff_of_true (small _ (float_zero_sub_zero h₀ hz)) (small _ h₀)

theorem exponent_le_of_abs_le (h : x.abs ≤ integralTolerance) :
    x.isFinite = true ∧ x.abs ≤ exactLimit ∧
      ∀ d, Dyadic.ofFloat? x = some d → d.exponent ≤ -82 := by
  rw [le_iff, unpacked_abs, unpacked_integralTolerance] at h
  rw [le_iff, unpacked_abs, unpacked_exactLimit]
  simp only [ofFloat?_eq]
  rcases hx : unpacked x with s | _ | s | ⟨s, m, e, hm⟩ <;> rw [hx] at h
  · simp [UnpackedFloat.abs, UnpackedFloat.compare] at h
  · simp [UnpackedFloat.abs, UnpackedFloat.compare] at h
  · refine ⟨isFinite_iff.mpr (.inl ⟨s, hx⟩), .inl rfl, ?_⟩
    rintro d hd
    obtain rfl := Option.some.inj hd
    show (-1074 : Int) ≤ -82
    omega
  · have he : e ≤ -82 := by
      by_contra hlt
      have hgt : compare e (-82) = .gt := by
        rw [Int.compare_eq_gt]
        omega
      simp [UnpackedFloat.abs, UnpackedFloat.compare, hgt] at h
    refine ⟨isFinite_iff.mpr (.inr ⟨s, m, e, hm, hx⟩), .inl ?_, ?_⟩
    · have : compare e 1 = .lt := by
        rw [Int.compare_eq_lt]
        omega
      simp [UnpackedFloat.abs, UnpackedFloat.compare, this]
    · rintro d hd
      obtain rfl := Option.some.inj hd
      exact he

/-- **The numbers that stand for zero** are those of magnitude a billionth at most. -/
theorem asInteger?_eq_zero_iff : asInteger? x = some 0 ↔ x.abs ≤ integralTolerance := by
  have key : ∀ d, Dyadic.ofFloat? x = some d → d.exponent < 0 →
      halfUp d.significand (2 ^ (-d.exponent).toNat) = 0 →
      (roundFloat x == 0) = true := by
    intro d hd he hn
    rw [roundFloat_of_exponent_neg hd he, hn]
    exact withSign_zero_beq _
  constructor
  · intro h
    simp only [asInteger?, Option.ite_none_right_eq_some, Option.some.injEq, Bool.and_eq_true,
      isIntegral, decide_eq_true_eq] at h
    obtain ⟨⟨⟨hfinite, hdist⟩, -⟩, hzero⟩ := h
    obtain ⟨d, hd, hlt, hpos⟩ := exists_ofFloat?_of_isFinite hfinite
    by_cases he : 0 ≤ d.exponent
    · -- A number without a fraction would have to be zero itself.
      have hnum : d.numerator = 0 := by
        have hden : d.denominator = 1 := by
          have : (-d.exponent).toNat = 0 := by omega
          simp [Dyadic.denominator, this]
        simp only [truncated, roundFloat, hd, if_pos he, hden] at hzero
        split at hzero <;> omega
      have := Nat.mul_pos (hpos he) (Nat.two_pow_pos d.exponent.toNat)
      simp only [Dyadic.numerator, Nat.pow_eq] at hnum
      omega
    · have he' : d.exponent < 0 := not_le.mp he
      rw [roundFloat_of_exponent_neg hd he',
        truncated_withSign_ofNat _ (halfUp_lt hlt (by omega))] at hzero
      have hn : halfUp d.significand (2 ^ (-d.exponent).toNat) = 0 := by
        split at hzero <;> omega
      exact (abs_sub_zero_le_iff (key d hd he' hn)).mp hdist
  · intro h
    obtain ⟨hfinite, hlimit, hexp⟩ := exponent_le_of_abs_le h
    obtain ⟨d, hd, hlt, -⟩ := exists_ofFloat?_of_isFinite hfinite
    have he := hexp d hd
    have hn : halfUp d.significand (2 ^ (-d.exponent).toNat) = 0 := by
      have hpow : 2 ^ 82 ≤ 2 ^ (-d.exponent).toNat :=
        Nat.pow_le_pow_right (by decide) (by omega)
      refine Nat.div_eq_of_lt ?_
      omega
    have hround := roundFloat_of_exponent_neg hd (by omega)
    have hdist := (abs_sub_zero_le_iff (key d hd (by omega) hn)).mpr h
    rw [hn] at hround
    simp only [asInteger?, isIntegral, hfinite, hdist, hlimit]
    rw [hround, truncated_withSign_ofNat _ (by decide)]
    simp

end OneUnknown
