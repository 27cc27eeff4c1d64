import OneUnknown.Proofs.Number.RoundingError

/-!
# Exact values

Comparisons, signs and whole numbers are free of rounding errors, as far as the whole numbers have
no more than 53 bits.

* `compare_eq_compare_valueOf`: finite values are compared as rational numbers;
* **`lt_iff_exactValue`**, **`le_iff_exactValue`**: comparisons;
* `exactValue_neg`, `exactValue_abs`: signs;
* **`near_ofNat`**, `exactValue_ofNat`: natural numbers;
* **`asInteger?_of_exactValue`**: whole numbers stand for themselves.
-/

namespace OneUnknown

open Float.Model Float.Model.UnpackedFloat
open Float.Model.Format (binary64)

/-! ## Comparisons -/

section Comparisons

variable {m n : Nat} {e d : Int}

theorem IsCanonical.lt_of_exponent_lt (hm : IsCanonical m e) (hn : IsCanonical n d) (h : e < d) :
    (m : ℚ) * 2 ^ e < n * 2 ^ d := by
  have hfull : (2 : ℚ) ^ 52 ≤ n := by
    have : 2 ^ 52 ≤ n := hn.full.resolve_right (by have := hm.least_le; omega)
    exact_mod_cast this
  have hshort : (m : ℚ) < 2 ^ 53 := by exact_mod_cast hm.lt
  calc (m : ℚ) * 2 ^ e < 2 ^ 53 * 2 ^ e := by gcongr
    _ = 2 ^ 52 * 2 ^ (e + 1) := by rw [zpow_add_one₀ two_ne_zero]; ring
    _ ≤ 2 ^ 52 * 2 ^ d := by
      have := zpow_le_zpow_right₀ (one_le_two (α := ℚ)) (show e + 1 ≤ d by omega)
      gcongr
    _ ≤ n * 2 ^ d := by gcongr

theorem IsCanonical.compare_eq (hm : IsCanonical m e) (hn : IsCanonical n d) :
    (compare e d).then (compare m n) = compare ((m : ℚ) * 2 ^ e) (n * 2 ^ d) := by
  have hpow : (0 : ℚ) < 2 ^ e := by positivity
  rcases lt_trichotomy e d with h | rfl | h
  · rw [compare_lt_iff_lt.mpr h, compare_lt_iff_lt.mpr (hm.lt_of_exponent_lt hn h)]
    rfl
  · rw [compare_eq_iff_eq.mpr rfl]
    rcases lt_trichotomy m n with h | rfl | h
    · have : (m : ℚ) < n := by exact_mod_cast h
      rw [compare_lt_iff_lt.mpr h, compare_lt_iff_lt.mpr (by gcongr)]
      rfl
    · rw [compare_eq_iff_eq.mpr rfl, compare_eq_iff_eq.mpr rfl]
      rfl
    · have : (n : ℚ) < m := by exact_mod_cast h
      rw [compare_gt_iff_gt.mpr h, compare_gt_iff_gt.mpr (by gcongr)]
      rfl
  · rw [compare_gt_iff_gt.mpr h, compare_gt_iff_gt.mpr (hn.lt_of_exponent_lt hm h)]
    rfl

theorem compare_neg_neg (a b : ℚ) : compare (-a) (-b) = (compare a b).swap := by
  rcases lt_trichotomy a b with h | rfl | h
  · rw [compare_lt_iff_lt.mpr h, compare_gt_iff_gt.mpr (neg_lt_neg h)]
    rfl
  · rw [compare_eq_iff_eq.mpr rfl, compare_eq_iff_eq.mpr rfl]
    rfl
  · rw [compare_gt_iff_gt.mpr h, compare_lt_iff_lt.mpr (neg_lt_neg h)]
    rfl

theorem zero_or_finite {f : UnpackedFloat} (h : f.isFinite = true) :
    (∃ s, f = .zero s) ∨ ∃ s m e hm, f = .finite s m e hm := by
  rcases f with s | _ | s | ⟨s, m, e, hm⟩
  · simp [UnpackedFloat.isFinite] at h
  · simp [UnpackedFloat.isFinite] at h
  · exact .inl ⟨s, rfl⟩
  · exact .inr ⟨s, m, e, hm, rfl⟩

/-- **Finite values are compared as the rational numbers that they are.** -/
theorem compare_eq_compare_valueOf {f g : UnpackedFloat} (hf : Representable f)
    (hg : Representable g) (hff : f.isFinite = true) (hgf : g.isFinite = true) :
    f.compare g = some (compare (valueOf f) (valueOf g)) := by
  have hpos : ∀ {m : Nat} {e : Int}, 0 < m → (0 : ℚ) < m * 2 ^ e := by
    intro m e hm
    have : (0 : ℚ) < m := by exact_mod_cast hm
    positivity
  have hpositive : ∀ (m : Nat) (e : Int) (hm : 0 < m),
      valueOf (.finite .positive m e hm) = m * 2 ^ e := by
    intro m e hm
    simp [valueOf, signedValue, Sign.apply]
  have hnegative : ∀ (m : Nat) (e : Int) (hm : 0 < m),
      valueOf (.finite .negative m e hm) = -(m * 2 ^ e) := by
    intro m e hm
    simp [valueOf, signedValue, Sign.apply]
  have hzero : ∀ s, valueOf (.zero s) = 0 := fun _ => rfl
  obtain ⟨s, rfl⟩ | ⟨_ | _, m, e, hm, rfl⟩ := zero_or_finite hff <;>
    obtain ⟨t, rfl⟩ | ⟨_ | _, n, d, hn, rfl⟩ := zero_or_finite hgf <;>
    simp only [hpositive, hnegative, hzero]
  · rw [compare_eq_iff_eq.mpr rfl]
    rfl
  · rw [compare_gt_iff_gt.mpr (neg_lt_zero.mpr (hpos hn))]
    rfl
  · rw [compare_lt_iff_lt.mpr (hpos hn)]
    rfl
  · rw [compare_lt_iff_lt.mpr (neg_lt_zero.mpr (hpos hm))]
    rfl
  · rw [compare_neg_neg, ← IsCanonical.compare_eq hf hg]
    rfl
  · rw [compare_lt_iff_lt.mpr ((neg_lt_zero.mpr (hpos hm)).trans (hpos hn))]
    rfl
  · rw [compare_gt_iff_gt.mpr (hpos hm)]
    rfl
  · rw [compare_gt_iff_gt.mpr ((neg_lt_zero.mpr (hpos hn)).trans (hpos hm))]
    rfl
  · rw [← IsCanonical.compare_eq hf hg]
    rfl

variable {x y : Float}

theorem compare_unpacked (hx : x.isFinite) (hy : y.isFinite) :
    (unpacked x).compare (unpacked y) = some (compare (exactValue x) (exactValue y)) := by
  rw [exactValue_eq, exactValue_eq]
  exact compare_eq_compare_valueOf (representable_unpacked x) (representable_unpacked y) hx hy

theorem lt_iff_exactValue (hx : x.isFinite) (hy : y.isFinite) :
    x < y ↔ exactValue x < exactValue y := by
  rw [lt_iff, compare_unpacked hx hy, Option.some.injEq, compare_lt_iff_lt]

theorem le_iff_exactValue (hx : x.isFinite) (hy : y.isFinite) :
    x ≤ y ↔ exactValue x ≤ exactValue y := by
  rw [le_iff, compare_unpacked hx hy, Option.some.injEq, Option.some.injEq, compare_lt_iff_lt,
    compare_eq_iff_eq, le_iff_lt_or_eq]

end Comparisons

/-! ## Signs and whole numbers -/

section Whole

variable {x y : Float} {v : ℚ}

@[simp]
theorem exactValue_zero : exactValue 0 = 0 := by
  rw [exactValue_eq, unpacked_zero]
  rfl

theorem exactValue_neg (x : Float) : exactValue (-x) = -exactValue x := by
  rw [exactValue_eq, exactValue_eq, unpacked_neg]
  rcases unpacked x with s | _ | s | ⟨s, m, e, hm⟩
  · simp [UnpackedFloat.neg, valueOf]
  · simp [UnpackedFloat.neg, valueOf]
  · simp [UnpackedFloat.neg, valueOf]
  · cases s <;> simp [UnpackedFloat.neg, valueOf, signedValue, Sign.apply]

theorem exactValue_abs (x : Float) : exactValue x.abs = |exactValue x| := by
  rw [exactValue_eq, exactValue_eq, unpacked_abs]
  rcases unpacked x with s | _ | s | ⟨s, m, e, hm⟩
  · simp [UnpackedFloat.abs, valueOf]
  · simp [UnpackedFloat.abs, valueOf]
  · simp [UnpackedFloat.abs, valueOf]
  · have h := abs_signedValue s m e
    simp only [UnpackedFloat.abs, valueOf, h]
    simp [signedValue, Sign.apply]

theorem ofNat_eq_packed_of_le {n : Nat} (h : 2 ^ 53 ≤ n) : Float.ofNat n =
    packed (roundWithAccuracy binary64 .positive (n * 2 ^ 53) (-53) .exact) := by
  have hscientific : UnpackedFloat.ofScientific binary64 n 0 =
      roundWithAccuracy binary64 .positive (n * 2 ^ 53) (-53) .exact := by
    have hn : n ≠ 0 := by
      rintro rfl
      simp at h
    have hlow : ¬ (0 : Int) < -((2 ^ binary64.exponentBits : Int) + n.log2) := by
      have : (0 : Int) ≤ 2 ^ binary64.exponentBits := by positivity
      omega
    simp only [UnpackedFloat.ofScientific]
    rw [dif_neg hn, if_neg (by decide), if_neg hlow, if_pos (le_refl 0)]
    simp only [UnpackedFloat.mul, Nat.shiftLeft_eq]
    rw [mantissaBits_binary64, Int.toNat_zero, pow_zero, mul_one]
    rfl
  change Float.ofScientific n false 0 = _
  unfold Float.ofScientific
  rw [dif_neg (by omega)]
  exact congrArg packed hscientific

/-- **A natural number** as a floating-point number. -/
theorem near_ofNat {n : Nat} (h : (n : ℚ) < 2 ^ (1023 : Int)) : Near (Float.ofNat n) n := by
  by_cases hn : n < 2 ^ 53
  · rw [ofNat_eq_packed hn]
    have hnear := isNear_normalize (e := 0) (n : Int) (by decide) (by simpa using h)
    simpa using hnear.near
  · have hpos : 0 < n := by omega
    have hvalue : signedValue .positive (n * 2 ^ 53) (-53) = n := by
      simpa [signedValue, Sign.apply] using signedValue_mul_two_pow .positive n 53 0
    rw [ofNat_eq_packed_of_le (Nat.le_of_not_lt hn), ← hvalue]
    refine (isNear_roundWithAccuracy (Nat.mul_pos hpos (by decide)) ?_ ?_ (.inl (by decide))).near
    · rw [log2_mul_two_pow hpos]
      omega
    · refine log2_add_le (s := .positive) (Nat.mul_pos hpos (by decide)) ?_
      rw [hvalue, abs_of_nonneg (Nat.cast_nonneg n)]
      exact h

/-- **A natural number of at most 53 bits is exact.** -/
theorem exactValue_ofNat {n : Nat} (h : n < 2 ^ 53) : exactValue (Float.ofNat n) = n := by
  obtain ⟨d, hd, hsign, hn⟩ := exists_ofFloat?_ofNat h
  have := (Grammar.exactValue_eq_intCast_iff hd n).mpr (by simp [hsign, hn])
  simpa using this

theorem halfUp_mul_self (w : Nat) {q : Nat} (hq : 0 < q) : halfUp (w * q) q = w := by
  refine Nat.div_eq_of_lt_le ?_ ?_ <;> nlinarith

theorem exactValue_withSign (negative : Bool) (x : Float) :
    exactValue (withSign negative x) = if negative then -exactValue x else exactValue x := by
  cases negative
  · rfl
  · exact exactValue_neg x

theorem withSign_isFinite (negative : Bool) (x : Float) :
    (withSign negative x).isFinite = x.isFinite := by
  cases negative
  · rfl
  · exact neg_isFinite x

theorem factor_of_signed {negative : Bool} {m k : Nat} {z : Int} (hk : 0 < k)
    (h : (if negative then -(m : Int) else m) = z * k) :
    m = z.natAbs * k ∧ (if negative then -(z.natAbs : Int) else z.natAbs) = z := by
  have hk' : (0 : Int) < k := by exact_mod_cast hk
  have hm : m = z.natAbs * k := by
    have hnatAbs := congrArg Int.natAbs h
    rw [Int.natAbs_mul, Int.natAbs_natCast] at hnatAbs
    cases negative <;> simpa using hnatAbs
  refine ⟨hm, ?_⟩
  have hz : (if negative then -(z.natAbs : Int) else z.natAbs) * k = z * k := by
    rw [← h, hm]
    cases negative <;> simp
  exact Int.eq_of_mul_eq_mul_right hk'.ne' hz

theorem exactValue_roundFloat {z : Int} (hx : x.isFinite) (h : exactValue x = z) :
    (roundFloat x).isFinite = true ∧ exactValue (roundFloat x) = z := by
  obtain ⟨d, hd, hlt, -⟩ := exists_ofFloat?_of_isFinite hx
  by_cases he : 0 ≤ d.exponent
  · have hround : roundFloat x = x := by simp only [roundFloat, hd, if_pos he]
    rw [hround]
    exact ⟨hx, h⟩
  · have hpos := d.denominator_pos
    have hnum : d.numerator = d.significand := by
      have : d.exponent.toNat = 0 := by omega
      simp [Dyadic.numerator, this]
    obtain ⟨hsignificand, hsign⟩ :=
      factor_of_signed hpos ((Grammar.exactValue_eq_intCast_iff hd z).mp h)
    rw [hnum] at hsignificand
    have hbits : z.natAbs < 2 ^ 53 :=
      Nat.lt_of_le_of_lt (Nat.le_mul_of_pos_right _ hpos) (hsignificand ▸ hlt)
    have hround : roundFloat x = withSign d.negative (Float.ofNat z.natAbs) := by
      rw [roundFloat_of_exponent_neg hd (not_le.mp he), hsignificand]
      exact congrArg (fun n => withSign d.negative (Float.ofNat n)) (halfUp_mul_self _ hpos)
    rw [hround, withSign_isFinite, exactValue_withSign, exactValue_ofNat hbits]
    refine ⟨(near_ofNat ?_).1, ?_⟩
    · have : (z.natAbs : ℚ) < 2 ^ 53 := by exact_mod_cast hbits
      exact this.trans (two_pow_lt_range (by decide))
    · rw [← hsign]
      cases d.negative <;> simp

theorem truncated_of_exactValue {z : Int} (hx : x.isFinite) (h : exactValue x = z) :
    truncated x = z := by
  obtain ⟨d, hd, -⟩ := exists_ofFloat?_of_isFinite hx
  have hvalue := (Grammar.exactValue_eq_intCast_iff hd z).mp h
  have hpos : (d.denominator : Int) ≠ 0 := by have := d.denominator_pos; omega
  simp only [truncated, hd]
  split at hvalue
  · rename_i hnegative
    rw [if_pos hnegative, show (d.numerator : Int) = -z * d.denominator by linarith,
      Int.mul_ediv_cancel _ hpos, neg_neg]
  · rename_i hnegative
    rw [if_neg hnegative, hvalue, Int.mul_ediv_cancel _ hpos]

theorem exactValue_integralTolerance_nonneg : 0 ≤ exactValue integralTolerance := by
  rw [exactValue_eq, unpacked_integralTolerance]
  norm_num [valueOf, signedValue, Sign.apply]

theorem exactValue_exactLimit : exactValue exactLimit = 2 ^ 53 := by
  rw [exactValue_eq, unpacked_exactLimit]
  norm_num [valueOf, signedValue, Sign.apply]

/-- **A whole number of at most 53 bits stands for itself.** -/
theorem asInteger?_of_exactValue {z : Int} (hx : x.isFinite) (h : exactValue x = z)
    (hz : |z| ≤ 2 ^ 53) : asInteger? x = some z := by
  obtain ⟨hfinite, hround⟩ := exactValue_roundFloat hx h
  have hzero : exactValue x - exactValue (roundFloat x) = 0 := by rw [h, hround, sub_self]
  obtain ⟨hdiff, herror⟩ := near_sub hx hfinite (by rw [hzero]; norm_num)
  have hdistance : (x - roundFloat x).abs ≤ integralTolerance := by
    rw [le_iff_exactValue (by rwa [abs_isFinite]) (by decide), exactValue_abs]
    rw [hzero, abs_zero, zero_div, sub_zero] at herror
    exact herror.trans exactValue_integralTolerance_nonneg
  have hlimit : x.abs ≤ exactLimit := by
    rw [le_iff_exactValue (by rwa [abs_isFinite]) (by decide), exactValue_abs, h,
      exactValue_exactLimit]
    exact_mod_cast hz
  simp only [asInteger?, isIntegral, hx, hdistance, hlimit, truncated_of_exactValue hfinite hround]
  simp

end Whole

end OneUnknown
