import OneUnknown.Proofs.Grammar.Derivation
import OneUnknown.Proofs.Number.Whole

/-!
# Rounding errors

Floating-point arithmetic computes the exact result and rounds it to the nearest number. Unless the
result leaves the range of magnitudes from two to the -1022 to two to the 1023, it is off by at most
one part in two to the 53.

* `valueOf`, `exactValue_eq`: the rational number that an unpacked value is;
* `Stands`: a significand with its two residual bits stands for a rational number;
* **`Near`**: a finite number that is a given rational number up to the rounding error;
* `exists_shiftToTargetExponent`: the significand before rounding;
* `isNear_roundWithAccuracy`: rounding of a significand and an exponent;
* **`near_mul`**, **`near_sub`**: what arithmetic computes.
-/

namespace OneUnknown

open Float.Model Float.Model.UnpackedFloat
open Float.Model.Format (binary64)

/-! ## Values -/

/-- The rational number of a sign, a significand and an exponent. -/
def signedValue (s : Sign) (m : Nat) (e : Int) : ℚ := (s.apply m : Int) * 2 ^ e

/-- The rational number that a finite value is; zero stands in for the others. -/
def valueOf : UnpackedFloat → ℚ
  | .finite s m e _ => signedValue s m e
  | _ => 0

theorem abs_signedValue (s : Sign) (m : Nat) (e : Int) : |signedValue s m e| = m * 2 ^ e := by
  have hpow : (0 : ℚ) < 2 ^ e := by positivity
  cases s <;> simp [signedValue, Sign.apply, abs_mul, abs_of_pos hpow]

theorem exactValue_eq (x : Float) : exactValue x = valueOf (unpacked x) := by
  have hpow : ∀ e : Int, (2 : ℚ) ^ e.toNat / 2 ^ (-e).toNat = 2 ^ e := by
    intro e
    rcases le_total 0 e with he | he
    · obtain ⟨n, rfl⟩ := Int.eq_ofNat_of_zero_le he
      simp
    · obtain ⟨n, hn⟩ := Int.eq_ofNat_of_zero_le (Int.neg_nonneg.mpr he)
      obtain rfl : e = -n := by omega
      simp
  unfold exactValue
  rw [ofFloat?_eq]
  rcases unpacked x with s | _ | s | ⟨s, m, e, hm⟩
  · rfl
  · rfl
  · cases s <;> simp [dyadicOf?, Dyadic.numerator, valueOf]
  · simp only [dyadicOf?, valueOf, signedValue, Rat.mkRat_eq_div, Dyadic.numerator,
      Dyadic.denominator, Nat.pow_eq]
    rw [← hpow e]
    cases s <;> simp [Sign.apply, mul_div_assoc, neg_div]

/-! ## Residual bits -/

/-- **A significand with its residual bits stands for a number** that is less than one above it:
the first bit tells whether the rest is a half at least, the second whether something is left
besides. -/
def Stands (em : ExtendedMantissa) (x : ℚ) : Prop :=
  match em.roundBit, em.stickyBit with
  | false, false => x = em.mantissa
  | false, true => em.mantissa < x ∧ x < em.mantissa + 1 / 2
  | true, false => x = em.mantissa + 1 / 2
  | true, true => em.mantissa + 1 / 2 < x ∧ x < em.mantissa + 1

namespace Stands

variable {em : ExtendedMantissa} {x : ℚ}

theorem exact (m : Nat) : Stands (.ofMantissaAndAccuracy m .exact) m := rfl

theorem shiftRightOne (h : Stands em x) : Stands em.shiftRightOne (x / 2) := by
  obtain ⟨m, roundBit, stickyBit⟩ := em
  have hdiv : (m : ℚ) = 2 * (m / 2 : Nat) + (m % 2 : Nat) := by
    exact_mod_cast (Nat.div_add_mod m 2).symm
  rcases Nat.mod_two_eq_zero_or_one m with hmod | hmod <;> rw [hmod] at hdiv <;>
    cases roundBit <;> cases stickyBit <;>
    simp [Stands, ExtendedMantissa.shiftRightOne, hmod] at h ⊢ <;> push_cast at * <;>
    first | linarith | (constructor <;> linarith)

theorem shiftRight (h : Stands em x) (k : Nat) : Stands (em >>> k) (x / 2 ^ k) := by
  change Stands (k.repeat ExtendedMantissa.shiftRightOne em) _
  induction k with
  | zero => simpa [Nat.repeat] using h
  | succ k ih =>
    rw [Nat.repeat, pow_succ, ← div_div]
    exact ih.shiftRightOne

/-- **Rounding to the nearest whole number** is off by half a unit at most. -/
theorem abs_roundedMantissa_sub_le (h : Stands em x) : |(em.roundedMantissa : ℚ) - x| ≤ 1 / 2 := by
  obtain ⟨m, roundBit, stickyBit⟩ := em
  rw [abs_le]
  cases roundBit <;> cases stickyBit <;>
    simp only [Stands, ExtendedMantissa.roundedMantissa, ExtendedMantissa.accuracy,
      Accuracy.roundToNearestEven] at h ⊢
  · constructor <;> linarith
  · constructor <;> linarith
  · rcases Nat.mod_two_eq_zero_or_one m with hmod | hmod <;> rw [hmod] <;> push_cast <;>
      constructor <;> linarith
  · push_cast
    constructor <;> linarith

theorem roundedMantissa_le {n : Nat} (h : Stands em x) (hx : x ≤ n) : em.roundedMantissa ≤ n := by
  have := (abs_le.mp h.abs_roundedMantissa_sub_le).2
  have hlt : (em.roundedMantissa : ℚ) < n + 1 := by linarith
  exact Nat.lt_succ_iff.mp (by exact_mod_cast hlt)

theorem le_roundedMantissa {n : Nat} (h : Stands em x) (hx : n ≤ x) : n ≤ em.roundedMantissa := by
  have := (abs_le.mp h.abs_roundedMantissa_sub_le).1
  have hlt : (n : ℚ) < em.roundedMantissa + 1 := by linarith
  exact Nat.lt_succ_iff.mp (by exact_mod_cast hlt)

theorem mantissa_le (h : Stands em x) : (em.mantissa : ℚ) ≤ x := by
  obtain ⟨m, roundBit, stickyBit⟩ := em
  cases roundBit <;> cases stickyBit <;> simp only [Stands] at h <;> linarith

theorem lt_mantissa_add_one (h : Stands em x) : x < em.mantissa + 1 := by
  obtain ⟨m, roundBit, stickyBit⟩ := em
  cases roundBit <;> cases stickyBit <;> simp only [Stands] at h <;> linarith

end Stands

/-! ## Rounding -/

section Rounding

variable {s : Sign} {m n : Nat} {e t : Int}

theorem targetExponent_eq (m : Nat) (e : Int) :
    binary64.targetExponent (totalExponent m e) = max ((m.log2 : Int) + e - 52) (-1074) := by
  have hmin : binary64.minExponent = -1074 := rfl
  have hbits : binary64.mantissaBits = 53 := rfl
  unfold Float.Model.Format.targetExponent totalExponent
  omega

theorem shiftToTargetExponent_zero (t : Int) :
    (shiftToTargetExponent binary64 0 t .exact).1.mantissa = 0 := by
  have h := shiftRight_exact 0 (binary64.targetExponent (totalExponent 0 t) - t).toNat
  rw [Nat.zero_mul] at h
  exact congrArg ExtendedMantissa.mantissa h

/-- **The second shift** takes back the bit by which rounding may have lengthened a significand. -/
theorem shiftToTargetExponent_rounded (hpos : 0 < n) (hn : n ≤ 2 ^ 53) (hlow : -1074 ≤ t)
    (hhigh : t ≤ 970 ∨ t = 971 ∧ n < 2 ^ 53) (hfull : 2 ^ 52 ≤ n ∨ t = -1074) :
    ∃ n' t', IsCanonical n' t' ∧ 0 < n' ∧ (n' : ℚ) * 2 ^ t' = n * 2 ^ t ∧
      shiftToTargetExponent binary64 n t .exact = (.ofMantissaAndAccuracy n' .exact, t') := by
  rcases hn.lt_or_eq with hlt | rfl
  · have hc : IsCanonical n (t + (0 : Nat)) := ⟨hlt, by omega, by omega, by simpa using hfull⟩
    refine ⟨n, t, by simpa using hc, hpos, rfl, ?_⟩
    simpa using hc.shiftToTargetExponent hpos
  · have hc : IsCanonical (2 ^ 52) (t + (1 : Nat)) :=
      ⟨by decide, by omega, by omega, .inl (Nat.le_refl _)⟩
    refine ⟨2 ^ 52, t + 1, hc, by decide, ?_, hc.shiftToTargetExponent (by decide)⟩
    rw [zpow_add_one₀ two_ne_zero]
    push_cast
    ring

/-- **What rounding answers** once the significand has been rounded to `n`. -/
theorem roundWithAccuracy_of_rounded {em : ExtendedMantissa} {accuracy : Accuracy}
    (h : shiftToTargetExponent binary64 m e accuracy = (em, t)) (hn : em.roundedMantissa = n)
    (hle : n ≤ 2 ^ 53) (hlow : -1074 ≤ t) (hhigh : t ≤ 970 ∨ t = 971 ∧ n < 2 ^ 53)
    (hfull : 2 ^ 52 ≤ n ∨ t = -1074) :
    let f := roundWithAccuracy binary64 s m e accuracy
    Representable f ∧ f.isFinite = true ∧ valueOf f = signedValue s n t := by
  intro f
  rcases Nat.eq_zero_or_pos n with rfl | hpos
  · have hf : f = .zero s := by
      simp only [f, roundWithAccuracy, h, hn, shiftToTargetExponent_zero, dite_true]
    rw [hf]
    refine ⟨trivial, rfl, ?_⟩
    cases s <;> simp [valueOf, signedValue, Sign.apply]
  · obtain ⟨n', t', hc, hpos', hvalue, hshift⟩ :=
      shiftToTargetExponent_rounded hpos hle hlow hhigh hfull
    have hf : f = .finite s n' t' hpos' := by
      simp only [f, roundWithAccuracy, h, hn, hshift]
      rw [dif_neg (by exact hpos'.ne')]
      rfl
    rw [hf]
    refine ⟨hc, rfl, ?_⟩
    cases s <;> simp [valueOf, signedValue, Sign.apply, hvalue]

end Rounding

/-! ## Numbers up to the rounding error -/

/-- The value is that of a bit pattern and equal to a rational number up to the rounding error. -/
def IsNear (f : UnpackedFloat) (v : ℚ) : Prop :=
  Representable f ∧ f.isFinite = true ∧ |valueOf f - v| ≤ |v| / 2 ^ 53

/-- **The number is finite and equal to a rational number up to the rounding error.** -/
def Near (x : Float) (v : ℚ) : Prop := x.isFinite = true ∧ |exactValue x - v| ≤ |v| / 2 ^ 53

theorem abs_le_of_abs_sub_le {w v : ℚ} (h : |w - v| ≤ |v| / 2 ^ 53) :
    |w| ≤ (1 + 1 / 2 ^ 53) * |v| := by
  have := abs_sub_abs_le_abs_sub w v
  linarith

theorem le_abs_of_abs_sub_le {w v : ℚ} (h : |w - v| ≤ |v| / 2 ^ 53) :
    (1 - 1 / 2 ^ 53) * |v| ≤ |w| := by
  have := abs_sub_abs_le_abs_sub v w
  rw [abs_sub_comm v w] at this
  linarith

theorem IsNear.near {f : UnpackedFloat} {v : ℚ} (h : IsNear f v) : Near (packed f) v := by
  obtain ⟨hr, hfinite, hv⟩ := h
  refine ⟨?_, by rwa [exactValue_eq, unpacked_packed hr]⟩
  change (unpacked (packed f)).isFinite = true
  rwa [unpacked_packed hr]

theorem isNear_self {f : UnpackedFloat} (hr : Representable f) (h : f.isFinite = true) :
    IsNear f (valueOf f) := by
  refine ⟨hr, h, ?_⟩
  rw [sub_self, abs_zero]
  positivity

theorem isNear_zero (s : Sign) : IsNear (.zero s) 0 :=
  isNear_self (f := .zero s) trivial rfl

section Rounding

variable {s : Sign} {m : Nat} {e : Int}

theorem cast_lt_two_zpow_log2 (m : Nat) : (m : ℚ) < 2 ^ ((m.log2 : Int) + 1) := by
  exact_mod_cast Nat.lt_log2_self (n := m)

theorem two_zpow_log2_le (hm : 0 < m) : (2 : ℚ) ^ (m.log2 : Int) ≤ m := by
  exact_mod_cast Nat.log2_self_le hm.ne'

theorem le_shifted {k : Nat} (hm : 0 < m) (h : 52 + k = m.log2) : (2 : ℚ) ^ 52 ≤ m / 2 ^ k := by
  rw [le_div_iff₀ (by positivity)]
  calc (2 : ℚ) ^ 52 * 2 ^ k = 2 ^ ((52 + k : Nat) : Int) := by rw [zpow_natCast, pow_add]
    _ = 2 ^ (m.log2 : Int) := by rw [h]
    _ ≤ m := two_zpow_log2_le hm

/-- What is rounded, in units of the last place of the result. -/
theorem shifted_mul (x : ℚ) (e : Int) (k : Nat) : x / 2 ^ k * 2 ^ (e + k) = x * 2 ^ e := by
  rw [zpow_add₀ two_ne_zero, zpow_natCast]
  field_simp

/-- **The first shift** brings what is rounded to 53 bits, or else to the least exponent. -/
theorem exists_shiftToTargetExponent {accuracy : Accuracy} {x : ℚ}
    (hstands : Stands (.ofMantissaAndAccuracy m accuracy) x)
    (he : e ≤ max ((m.log2 : Int) + e - 52) (-1074)) :
    ∃ (em : ExtendedMantissa) (k : Nat), e + k = max ((m.log2 : Int) + e - 52) (-1074) ∧
      shiftToTargetExponent binary64 m e accuracy = (em, e + k) ∧ Stands em (x / 2 ^ k) ∧
      x / 2 ^ k < 2 ^ 53 ∧ (e + k ≠ -1074 → 2 ^ 52 ≤ x / 2 ^ k) := by
  obtain ⟨k, hk⟩ := Int.eq_ofNat_of_zero_le (sub_nonneg.mpr he)
  have ht : max ((m.log2 : Int) + e - 52) (-1074) = e + k := by omega
  have hshift : shiftToTargetExponent binary64 m e accuracy =
      (ExtendedMantissa.ofMantissaAndAccuracy m accuracy >>> k, e + k) := by
    have hkt : (e + (k : Int) - e).toNat = k := by omega
    simp only [UnpackedFloat.shiftToTargetExponent, shiftToExponent, targetExponent_eq, ht, hkt]
  have hmantissa : (ExtendedMantissa.ofMantissaAndAccuracy m accuracy).mantissa = m := by
    rcases accuracy with _ | (_ | _ | _) <;> rfl
  refine ⟨_, k, ht.symm, hshift, hstands.shiftRight k, ?_, fun hleast => ?_⟩
  · rw [div_lt_iff₀ (by positivity)]
    have hx := hstands.lt_mantissa_add_one
    rw [hmantissa] at hx
    have hm : (m : ℚ) + 1 ≤ 2 ^ 53 * 2 ^ k := by
      have hlog : m < 2 ^ (53 + k) := by
        refine Nat.lt_of_lt_of_le Nat.lt_log2_self (Nat.pow_le_pow_right (by decide) ?_)
        omega
      rw [← pow_add]
      exact_mod_cast hlog
    linarith
  · have hpos : 0 < m := by
      rcases Nat.eq_zero_or_pos m with rfl | hpos
      · simp at ht
        omega
      · exact hpos
    refine (le_shifted hpos (show 52 + k = m.log2 by omega)).trans ?_
    have := hmantissa ▸ hstands.mantissa_le
    gcongr

/-- The distance of two numbers of one sign, in units of the greater exponent. -/
theorem abs_signedValue_sub (s : Sign) (n m : Nat) (e : Int) (k : Nat) :
    |signedValue s n (e + k) - signedValue s m e| = |(n : ℚ) - m / 2 ^ k| * 2 ^ (e + k) := by
  have hpow : (2 : ℚ) ^ (e + (k : Int)) = 2 ^ e * 2 ^ k := by
    rw [zpow_add₀ two_ne_zero, zpow_natCast]
  have hsplit : signedValue s n (e + k) - signedValue s m e =
      s.apply 1 * ((n : ℚ) - m / 2 ^ k) * 2 ^ (e + k) := by
    cases s <;> simp only [signedValue, Sign.apply, hpow] <;> push_cast <;> field_simp; ring
  have hsign : |((s.apply 1 : Int) : ℚ)| = 1 := by cases s <;> simp [Sign.apply]
  have hunit : (0 : ℚ) < 2 ^ (e + (k : Int)) := by positivity
  rw [hsplit, abs_mul, abs_mul, hsign, one_mul, abs_of_pos hunit]

/-- **Rounding a significand** whose exponent is low enough is off by half a unit in the last place
of the result. -/
theorem isNear_roundWithAccuracy (hm : 0 < m) (he : e ≤ max ((m.log2 : Int) + e - 52) (-1074))
    (hhigh : (m.log2 : Int) + e ≤ 1022) (hlow : -1074 ≤ e ∨ -1022 ≤ (m.log2 : Int) + e) :
    IsNear (roundWithAccuracy binary64 s m e .exact) (signedValue s m e) := by
  obtain ⟨em, k, ht, hshift, hstands, hlt, hlarge⟩ :=
    exists_shiftToTargetExponent (Stands.exact m) he
  have hle : em.roundedMantissa ≤ 2 ^ 53 := hstands.roundedMantissa_le (by exact_mod_cast hlt.le)
  have hfull : 2 ^ 52 ≤ em.roundedMantissa ∨ e + k = -1074 :=
    or_iff_not_imp_right.mpr fun hleast =>
      hstands.le_roundedMantissa (by exact_mod_cast hlarge hleast)
  obtain ⟨hr, hfinite, hvalue⟩ :=
    roundWithAccuracy_of_rounded (s := s) hshift rfl hle (by omega) (by omega) hfull
  refine ⟨hr, hfinite, ?_⟩
  rw [hvalue, abs_signedValue_sub, abs_signedValue]
  by_cases hnormal : e + k = (m.log2 : Int) + e - 52
  · have hround := hstands.abs_roundedMantissa_sub_le
    calc |(em.roundedMantissa : ℚ) - m / 2 ^ k| * 2 ^ (e + k) ≤ 1 / 2 * 2 ^ (e + k) := by gcongr
      _ = 2 ^ (m.log2 : Int) * 2 ^ e / 2 ^ 53 := by
        rw [hnormal, zpow_sub₀ two_ne_zero, zpow_add₀ two_ne_zero]
        norm_num
        ring
      _ ≤ m * 2 ^ e / 2 ^ 53 := by
        have := two_zpow_log2_le hm
        gcongr
  · -- The exponent is the least one already, so nothing is shifted out.
    obtain rfl : k = 0 := by omega
    rw [pow_zero, div_one] at hstands ⊢
    have hexact : em.roundedMantissa = m :=
      Nat.le_antisymm (hstands.roundedMantissa_le le_rfl) (hstands.le_roundedMantissa le_rfl)
    rw [hexact, sub_self, abs_zero, zero_mul]
    positivity

/-! ## Ranges -/

theorem two_pow_lt_range {k : Nat} (hk : k < 1023) : (2 : ℚ) ^ k < 2 ^ (1023 : Int) := by
  rw [← zpow_natCast]
  exact zpow_lt_zpow_right₀ one_lt_two (by omega)

theorem log2_add_le (hm : 0 < m) (h : |signedValue s m e| < 2 ^ (1023 : Int)) :
    (m.log2 : Int) + e ≤ 1022 := by
  rw [abs_signedValue] at h
  have hlt : (2 : ℚ) ^ ((m.log2 : Int) + e) < 2 ^ (1023 : Int) := by
    rw [zpow_add₀ two_ne_zero]
    refine lt_of_le_of_lt ?_ h
    have := two_zpow_log2_le hm
    gcongr
  have := (zpow_lt_zpow_iff_right₀ (one_lt_two (α := ℚ))).mp hlt
  omega

theorem le_log2_add (h : 2 ^ (-1022 : Int) ≤ |signedValue s m e|) :
    -1022 ≤ (m.log2 : Int) + e := by
  rw [abs_signedValue] at h
  have hlt : (2 : ℚ) ^ (-1022 : Int) < 2 ^ ((m.log2 : Int) + 1 + e) := by
    rw [zpow_add₀ two_ne_zero]
    refine lt_of_le_of_lt h ?_
    have := cast_lt_two_zpow_log2 m
    gcongr
  have := (zpow_lt_zpow_iff_right₀ (one_lt_two (α := ℚ))).mp hlt
  omega

/-! ## Sums -/

theorem signedValue_mul_two_pow (s : Sign) (m k : Nat) (e : Int) :
    signedValue s (m * 2 ^ k) (e - k) = signedValue s m e := by
  have hpow : (2 : ℚ) ^ e = 2 ^ k * 2 ^ (e - k) := by
    rw [← zpow_natCast, ← zpow_add₀ two_ne_zero]
    congr 1
    omega
  cases s <;> simp only [signedValue, Sign.apply, hpow] <;> push_cast <;> ring

/-- A significand whose exponent may be too high is lengthened before it is rounded. -/
theorem isNear_round (hm : 0 < m) (hlow : -1074 ≤ e)
    (hhigh : |signedValue s m e| < 2 ^ (1023 : Int)) :
    IsNear (UnpackedFloat.round binary64 s m e) (signedValue s m e) := by
  obtain ⟨k, hk⟩ : ∃ k, (e - max ((m.log2 : Int) + e - 52) (-1074)).toNat = k := ⟨_, rfl⟩
  have hsum := log2_add_le hm hhigh
  simp only [UnpackedFloat.round, targetExponent_eq, decreaseExponent, Nat.shiftLeft_eq, hk]
  rw [← signedValue_mul_two_pow s m k e]
  refine isNear_roundWithAccuracy (Nat.mul_pos hm (Nat.two_pow_pos k)) ?_ ?_ (.inl ?_)
  · rw [log2_mul_two_pow hm]
    omega
  · rw [log2_mul_two_pow hm]
    omega
  · omega

theorem isNear_normalize (z : Int) (hlow : -1074 ≤ e)
    (hhigh : |(z : ℚ) * 2 ^ e| < 2 ^ (1023 : Int)) :
    IsNear (UnpackedFloat.normalize binary64 z e .positive) (z * 2 ^ e) := by
  rcases lt_trichotomy z 0 with hz | rfl | hz
  · have hc : compare z 0 = .lt := Int.compare_eq_lt.mpr hz
    have hvalue : signedValue .negative (-z).toNat e = z * 2 ^ e := by
      simp [signedValue, Sign.apply, max_eq_left (show 0 ≤ -z by omega)]
    simp only [UnpackedFloat.normalize, hc]
    rw [← hvalue] at hhigh ⊢
    exact isNear_round (by omega) hlow hhigh
  · simpa [UnpackedFloat.normalize] using isNear_zero .positive
  · have hc : compare z 0 = .gt := Int.compare_eq_gt.mpr hz
    have hvalue : signedValue .positive z.toNat e = z * 2 ^ e := by
      simp [signedValue, Sign.apply, max_eq_left hz.le]
    simp only [UnpackedFloat.normalize, hc]
    rw [← hvalue] at hhigh ⊢
    exact isNear_round (by omega) hlow hhigh

end Rounding

/-! ## Operations -/

section Operations

variable {x y : Float}

theorem signedValue_mul (s t : Sign) (m n : Nat) (e d : Int) :
    signedValue s m e * signedValue t n d = signedValue (s * t) (m * n) (e + d) := by
  rw [signedValue, signedValue, signedValue, zpow_add₀ two_ne_zero]
  cases s <;> cases t <;> simp only [Sign.apply] <;> push_cast <;> ring

theorem IsCanonical.mul_exponent_le {m n : Nat} {e d : Int} (hm : IsCanonical m e)
    (hn : IsCanonical n d) (hpos : 0 < m) (hpos' : 0 < n) :
    e + d ≤ max (((m * n).log2 : Int) + (e + d) - 52) (-1074) := by
  by_cases h : e = -1074 ∧ d = -1074
  · omega
  · have hfull : 2 ^ 52 ≤ m * n := by
      rcases hm.full with hfull | he
      · exact Nat.le_trans hfull (Nat.le_mul_of_pos_right m hpos')
      · rcases hn.full with hfull | hd
        · exact Nat.le_trans hfull (Nat.le_mul_of_pos_left n hpos)
        · exact absurd ⟨he, hd⟩ h
    have := (Nat.le_log2 (Nat.mul_pos hpos hpos').ne').mpr hfull
    omega

/-- **A product.** -/
theorem near_mul (hx : x.isFinite) (hy : y.isFinite)
    (hhigh : |exactValue x * exactValue y| < 2 ^ (1023 : Int))
    (hlow : exactValue x * exactValue y = 0 ∨
      2 ^ (-1022 : Int) ≤ |exactValue x * exactValue y|) :
    Near (x * y) (exactValue x * exactValue y) := by
  have hrx := representable_unpacked x
  have hry := representable_unpacked y
  rw [mul_eq]
  refine IsNear.near ?_
  rw [exactValue_eq, exactValue_eq] at hhigh hlow ⊢
  rcases isFinite_iff.mp hx with ⟨s, hs⟩ | ⟨s, m, e, hm, hs⟩ <;>
    rcases isFinite_iff.mp hy with ⟨t, ht⟩ | ⟨t, n, d, hn, ht⟩ <;>
    rw [hs, ht] at hhigh hlow ⊢
  · exact (mul_zero (0 : ℚ)).symm ▸ isNear_zero (s * t)
  · exact (zero_mul (signedValue t n d)).symm ▸ isNear_zero (s * t)
  · exact (mul_zero (signedValue s m e)).symm ▸ isNear_zero (s * t)
  · rw [hs] at hrx
    rw [ht] at hry
    simp only [valueOf, signedValue_mul] at hhigh hlow ⊢
    have hpos := Nat.mul_pos hm hn
    have hne : signedValue (s * t) (m * n) (e + d) ≠ 0 := by
      rw [← abs_pos, abs_signedValue]
      have : (0 : ℚ) < (m * n : Nat) := by exact_mod_cast hpos
      positivity
    exact isNear_roundWithAccuracy hpos (hrx.mul_exponent_le hry hm hn) (log2_add_le hpos hhigh)
      (.inr (le_log2_add (hlow.resolve_left hne)))

theorem near_mul_of_le {v : ℚ} (hx : x.isFinite) (hy : y.isFinite)
    (hv : exactValue x * exactValue y = v) (hlow : v = 0 ∨ 1 / 2 ^ 100 ≤ |v|)
    (hhigh : |v| ≤ 2 ^ 200) : Near (x * y) v := by
  subst hv
  refine near_mul hx hy (hhigh.trans_lt (two_pow_lt_range (by decide))) (hlow.imp_right fun h => ?_)
  refine le_trans ?_ h
  rw [one_div, ← zpow_natCast, ← zpow_neg]
  exact zpow_le_zpow_right₀ one_le_two (by decide)

theorem signedValue_decreaseExponent (s : Sign) (m : Nat) {e d : Int} (h : d ≤ e) :
    signedValue s (decreaseExponent m e d).1 d = signedValue s m e := by
  obtain ⟨k, hk⟩ := Int.eq_ofNat_of_zero_le (show 0 ≤ e - d by omega)
  have hkt : (e - d).toNat = k := by omega
  have hd : d = e - k := by omega
  rw [decreaseExponent, hkt, Nat.shiftLeft_eq, hd, signedValue_mul_two_pow]

/-- **A difference.** -/
theorem near_sub (hx : x.isFinite) (hy : y.isFinite)
    (hhigh : |exactValue x - exactValue y| < 2 ^ (1023 : Int)) :
    Near (x - y) (exactValue x - exactValue y) := by
  have hrx := representable_unpacked x
  have hry := representable_unpacked y
  rw [sub_eq]
  refine IsNear.near ?_
  rw [exactValue_eq, exactValue_eq] at hhigh ⊢
  rcases isFinite_iff.mp hx with ⟨s, hs⟩ | ⟨s, m, e, hm, hs⟩ <;>
    rcases isFinite_iff.mp hy with ⟨t, ht⟩ | ⟨t, n, d, hn, ht⟩ <;>
    rw [hs, ht] at hhigh ⊢
  · refine (sub_zero (0 : ℚ)).symm ▸ ?_
    simp only [UnpackedFloat.sub]
    split <;> exact isNear_zero _
  · rw [ht] at hry
    have hneg : valueOf (.zero s) - valueOf (.finite t n d hn) = valueOf (.finite (-t) n d hn) := by
      cases t <;> simp [valueOf, signedValue, Sign.apply]
    rw [hneg]
    exact isNear_self hry rfl
  · rw [hs] at hrx
    exact (sub_zero (signedValue s m e)).symm ▸ isNear_self (f := .finite s m e hm) hrx rfl
  · rw [hs] at hrx
    rw [ht] at hry
    have hsub : (valueOf (.finite s m e hm) - valueOf (.finite t n d hn)) =
        ((s.apply (decreaseExponent m e (min e d)).1 - t.apply (decreaseExponent n d (min e d)).1 :
          Int) : ℚ) * 2 ^ min e d := by
      rw [valueOf, valueOf, ← signedValue_decreaseExponent s m (min_le_left e d),
        ← signedValue_decreaseExponent t n (min_le_right e d), signedValue, signedValue]
      push_cast
      ring
    rw [hsub] at hhigh ⊢
    exact isNear_normalize _ (le_min hrx.least_le hry.least_le) hhigh

end Operations

end OneUnknown
