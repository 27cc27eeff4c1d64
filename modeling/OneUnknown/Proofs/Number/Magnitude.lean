import OneUnknown.Proofs.Number.Overflow

/-!
# Bounds on magnitudes

Rounding does not lead past a power of two, so bounds by powers of two carry over from the operands
of an operation to its result. A number that stands for a whole number is of moderate size, and it
is not close to zero unless it stands for zero.

* **`Bounded`**: a finite number with a magnitude of at most a power of two;
* `IsRounding.bounded`: rounding keeps such a bound;
* **`Bounded.mul`**, `Bounded.div`, `Bounded.sub`, `Bounded.add`, `Bounded.sqrt`: the operations;
* `bounded_of_asInteger?`, **`le_abs_of_asInteger?`**: numbers that stand for whole numbers.
-/

namespace OneUnknown

open Float.Model Float.Model.UnpackedFloat
open Float.Model.Format (binary64)

variable {x y : Float} {k l : Nat}

/-! ## Rounding -/

/-- **The number is finite, and its magnitude is at most a power of two.** -/
def Bounded (k : Nat) (x : Float) : Prop := x.isFinite = true ∧ |exactValue x| ≤ 2 ^ k

theorem Bounded.mono (h : Bounded k x) (hkl : k ≤ l) : Bounded l x :=
  ⟨h.1, h.2.trans (pow_le_pow_right₀ one_le_two hkl)⟩

/-- **Rounding does not lead past a power of two.** -/
theorem IsRounding.bounded {f : UnpackedFloat} {v : ℚ} (h : IsRounding f v) (hk : k ≤ 1023)
    (hv : v ≤ 2 ^ k) : Bounded k (packed f) := by
  obtain ⟨s, m, e, accuracy, x, rfl, hstands, he, rfl⟩ := h
  obtain ⟨em, i, ht, hshift, hshifted, hlt, hfull⟩ := exists_shiftToTargetExponent hstands he
  have hlow : -1074 ≤ e + i := by omega
  rw [← shifted_mul x e i] at hv
  generalize x / 2 ^ i = y at hshifted hlt hfull hv
  generalize e + (i : Int) = t at hshift hfull hlow hv
  have hpow : (0 : ℚ) < 2 ^ t := by positivity
  have ht : t ≠ -1074 → 52 + t ≤ k := by
    intro hleast
    have hle : (2 : ℚ) ^ (52 + t) ≤ 2 ^ (k : Int) := by
      rw [zpow_add₀ two_ne_zero, zpow_natCast]
      refine le_trans ?_ hv
      have := hfull hleast
      gcongr
      exact_mod_cast this
    exact (zpow_le_zpow_iff_right₀ one_lt_two).mp hle
  obtain ⟨j, hj⟩ := Int.eq_ofNat_of_zero_le (show 0 ≤ k - t by omega)
  have hsplit : (2 : ℚ) ^ k = 2 ^ j * 2 ^ t := by
    rw [← zpow_natCast, ← zpow_natCast, ← zpow_add₀ two_ne_zero]
    exact congrArg _ (by omega)
  have hn : em.roundedMantissa ≤ 2 ^ j := by
    refine hshifted.roundedMantissa_le ?_
    rw [hsplit] at hv
    exact_mod_cast le_of_mul_le_mul_right hv hpow
  have hle : em.roundedMantissa ≤ 2 ^ 53 := hshifted.roundedMantissa_le (by exact_mod_cast hlt.le)
  have hhigh : t ≤ 970 ∨ t = 971 ∧ em.roundedMantissa < 2 ^ 53 := by
    by_cases htop : t = 971
    · obtain rfl : j = 52 := by omega
      exact .inr ⟨htop, by omega⟩
    · exact .inl (by omega)
  obtain ⟨hr, hfinite, hvalue⟩ := roundWithAccuracy_of_rounded (s := s) hshift rfl hle hlow hhigh
    (or_iff_not_imp_right.mpr fun hleast =>
      hshifted.le_roundedMantissa (by exact_mod_cast hfull hleast))
  refine ⟨(isFinite_packed_iff hr).trans hfinite, ?_⟩
  rw [exactValue_eq, unpacked_packed hr, hvalue, abs_signedValue, hsplit]
  gcongr
  exact_mod_cast hn

theorem Near.bounded {v : ℚ} (h : Near x v) (hv : |v| ≤ 2 ^ k) : Bounded (k + 1) x := by
  refine ⟨h.1, ?_⟩
  calc |exactValue x| ≤ (1 + 1 / 2 ^ 53) * |v| := abs_le_of_abs_sub_le h.2
    _ ≤ 2 * 2 ^ k := by gcongr; norm_num
    _ = 2 ^ (k + 1) := (pow_succ' 2 k).symm

/-! ## Operations -/

namespace Bounded

theorem neg (h : Bounded k x) : Bounded k (-x) := by
  refine ⟨by rw [neg_isFinite, h.1], ?_⟩
  rw [exactValue_neg, abs_neg]
  exact h.2

theorem mul (hx : Bounded k x) (hy : Bounded l y) (h : k + l ≤ 1023) : Bounded (k + l) (x * y) := by
  refine (isRounding_mul hx.1 hy.1).bounded h ?_
  rw [abs_mul, pow_add]
  have := hx.2
  have := hy.2
  gcongr

theorem div (hx : Bounded k x) (hy : y.isFinite) (hy₁ : 1 ≤ |exactValue y| * 2 ^ l)
    (h : k + l ≤ 1023) : Bounded (k + l) (x / y) := by
  have hpos : 0 < |exactValue y| := by
    by_contra hneg
    have : |exactValue y| = 0 := le_antisymm (not_lt.mp hneg) (abs_nonneg _)
    rw [this] at hy₁
    norm_num at hy₁
  refine (isRounding_div hx.1 hy (beq_zero_eq_false hpos)).bounded h ?_
  rw [abs_div, div_le_iff₀ hpos, pow_add]
  calc |exactValue x| ≤ 2 ^ k * 1 := by rw [mul_one]; exact hx.2
    _ ≤ 2 ^ k * (|exactValue y| * 2 ^ l) := by gcongr
    _ = 2 ^ k * 2 ^ l * |exactValue y| := by ring

theorem sub (hx : Bounded k x) (hy : Bounded k y) (h : k ≤ 1000) : Bounded (k + 2) (x - y) := by
  have hle : |exactValue x - exactValue y| ≤ 2 ^ (k + 1) := by
    refine (abs_sub _ _).trans ?_
    rw [pow_succ]
    linarith [hx.2, hy.2]
  exact (near_sub hx.1 hy.1 (hle.trans_lt (two_pow_lt_range (by omega)))).bounded hle

theorem add (hx : Bounded k x) (hy : Bounded k y) (h : k ≤ 1000) : Bounded (k + 2) (x + y) := by
  rw [← float_sub_neg]
  exact hx.sub hy.neg h

end Bounded

/-! ## Square roots -/

/-- A significand and the accuracy of its remainder stand for some number. -/
theorem exists_stands (m : Nat) (accuracy : Accuracy) :
    ∃ x, Stands (.ofMantissaAndAccuracy m accuracy) x ∧ x ≤ m + 1 := by
  rcases accuracy with _ | _ | _ | _
  · exact ⟨m, rfl, by linarith⟩
  · refine ⟨m + 1 / 4, ?_, by linarith⟩
    show (m : ℚ) < m + 1 / 4 ∧ (m : ℚ) + 1 / 4 < m + 1 / 2
    exact ⟨by linarith, by linarith⟩
  · exact ⟨m + 1 / 2, rfl, by linarith⟩
  · refine ⟨m + 3 / 4, ?_, by linarith⟩
    show (m : ℚ) + 1 / 2 < m + 3 / 4 ∧ (m : ℚ) + 3 / 4 < m + 1
    exact ⟨by linarith, by linarith⟩

/-- The radicand is lengthened until the root has 53 bits, or the least exponent is reached. -/
theorem exists_sqrtCore_eq {m : Nat} (hm : 0 < m) (e : Int) :
    ∃ root target accuracy, sqrtCore binary64 m e = (root, target, accuracy) ∧
      target ≤ max ((root.log2 : Int) + target - 52) (-1074) ∧ 2 * target ≤ e ∧
      ((root : ℚ) * 2 ^ target) ^ 2 ≤ m * 2 ^ e := by
  have hdiv : ∀ z : Int, z.ediv 2 = z / 2 := fun _ => rfl
  obtain ⟨target, htarget⟩ : ∃ target, min (e / 2)
    (binary64.targetExponent ((totalExponent m e + 1) / 2)) = target := ⟨_, rfl⟩
  obtain ⟨j, hj⟩ := Int.eq_ofNat_of_zero_le (show 0 ≤ e - 2 * target by omega)
  obtain ⟨root, hroot⟩ : ∃ root, (m * 2 ^ j).sqrt = root := ⟨_, rfl⟩
  obtain ⟨accuracy, hcore⟩ : ∃ accuracy, sqrtCore binary64 m e = (root, target, accuracy) := by
    have hjt : (e - 2 * target).toNat = j := by omega
    simp only [sqrtCore, hdiv, htarget, hjt, Nat.shiftLeft_eq, hroot]
    exact ⟨_, rfl⟩
  refine ⟨root, target, accuracy, hcore, ?_, by omega, ?_⟩
  · by_cases hleast : target ≤ -1074
    · omega
    · have hlong : 104 ≤ m.log2 + j := by
        have hmin : binary64.minExponent = -1074 := rfl
        have hbits : binary64.mantissaBits = 53 := rfl
        unfold Float.Model.Format.targetExponent totalExponent at htarget
        omega
      have hroot' : 2 ^ 52 ≤ root := by
        rw [← hroot, Nat.le_sqrt]
        calc 2 ^ 52 * 2 ^ 52 = 2 ^ 104 := (Nat.pow_add 2 52 52).symm
          _ ≤ 2 ^ (m.log2 + j) := Nat.pow_le_pow_right (by decide) hlong
          _ = 2 ^ m.log2 * 2 ^ j := Nat.pow_add 2 _ _
          _ ≤ m * 2 ^ j := Nat.mul_le_mul_right _ (Nat.log2_self_le hm.ne')
      have := (Nat.le_log2 (show root ≠ 0 by omega)).mpr hroot'
      omega
  · have hsq : (root : ℚ) * root ≤ m * 2 ^ j := by exact_mod_cast hroot ▸ Nat.sqrt_le (m * 2 ^ j)
    have hexponent : e = j + (target + target) := by omega
    calc ((root : ℚ) * 2 ^ target) ^ 2 = root * root * (2 ^ target * 2 ^ target) := by ring
      _ ≤ m * 2 ^ j * (2 ^ target * 2 ^ target) := by gcongr
      _ = m * 2 ^ e := by
        rw [hexponent, zpow_add₀ two_ne_zero, zpow_add₀ two_ne_zero, zpow_natCast, mul_assoc]

theorem sqrt_eq (x : Float) : x.sqrt = packed (.sqrt binary64 (unpacked x)) := rfl

theorem isRounding_sqrt {m : Nat} {e : Int} (hm : 0 < m) (h : (m : ℚ) * 2 ^ e ≤ 2 ^ (2 * k)) :
    ∃ v, IsRounding (.sqrt binary64 (.finite .positive m e hm)) v ∧ v ≤ 2 ^ (k + 1) := by
  obtain ⟨root, target, accuracy, hcore, hfull, htarget, hsq⟩ := exists_sqrtCore_eq hm e
  obtain ⟨y, hstands, hy⟩ := exists_stands root accuracy
  refine ⟨y * 2 ^ target, ⟨.positive, root, target, accuracy, y, by
    simp only [UnpackedFloat.sqrt, hcore], hstands, hfull, rfl⟩, ?_⟩
  have hunit : (2 : ℚ) ^ target ≤ 2 ^ k := by
    have hone : (1 : ℚ) ≤ m := by exact_mod_cast hm
    have he : (2 : ℚ) ^ e ≤ 2 ^ ((2 * k : Nat) : Int) := by
      rw [zpow_natCast]
      exact (le_mul_of_one_le_left (by positivity) hone).trans h
    have := (zpow_le_zpow_iff_right₀ one_lt_two).mp he
    rw [← zpow_natCast]
    exact zpow_le_zpow_right₀ one_le_two (by omega)
  have hvalue : (root : ℚ) * 2 ^ target ≤ 2 ^ k := by
    rw [← sq_le_sq₀ (by positivity) (by positivity), ← pow_mul, mul_comm k 2]
    exact hsq.trans h
  calc y * 2 ^ target ≤ (root + 1) * 2 ^ target := by gcongr
    _ = root * 2 ^ target + 2 ^ target := by ring
    _ ≤ 2 ^ k + 2 ^ k := add_le_add hvalue hunit
    _ = 2 ^ (k + 1) := by rw [pow_succ]; ring

/-- **The root of a number that is not negative.** -/
theorem Bounded.sqrt (hx : Bounded (2 * k) x) (hx₀ : 0 ≤ exactValue x) (hk : k ≤ 1022) :
    Bounded (k + 1) x.sqrt := by
  rw [sqrt_eq]
  rcases isFinite_iff.mp hx.1 with ⟨s, hs⟩ | ⟨s, m, e, hm, hs⟩
  · rw [hs]
    exact (isRounding_zero s rfl).bounded (by omega) (by positivity)
  · have hle := hx.2
    rw [exactValue_eq, hs] at hx₀ hle
    rw [valueOf, abs_signedValue] at hle
    obtain rfl : s = .positive := by
      rcases s with _ | _
      · have hpos : (0 : ℚ) < m * 2 ^ e := by
          have : (0 : ℚ) < m := by exact_mod_cast hm
          positivity
        simp only [valueOf, signedValue, Sign.apply, Int.cast_neg, Int.cast_natCast] at hx₀
        linarith
      · rfl
    obtain ⟨v, hrounding, hv⟩ := isRounding_sqrt hm hle
    rw [hs]
    exact hrounding.bounded (by omega) hv

/-! ## Numbers that stand for whole numbers -/

section Whole

variable {n : Int}

theorem bounded_of_asInteger? (h : asInteger? x = some n) : Bounded 53 x := by
  simp only [asInteger?, Option.ite_none_right_eq_some, Bool.and_eq_true, isIntegral,
    decide_eq_true_eq] at h
  obtain ⟨⟨⟨hfinite, -⟩, hle⟩, -⟩ := h
  rw [le_iff_exactValue (by rwa [abs_isFinite]) (by decide), exactValue_abs,
    exactValue_exactLimit] at hle
  exact ⟨hfinite, hle⟩

/-- **A number that stands for a whole number other than zero** is not close to zero. -/
theorem le_abs_of_asInteger? (h : asInteger? x = some n) (hn : n ≠ 0) :
    1 ≤ |exactValue x| * 2 ^ 30 := by
  have hlarge : ¬ x.abs ≤ integralTolerance := by
    rw [← asInteger?_eq_zero_iff, h]
    exact fun hzero => hn (Option.some.inj hzero)
  rw [le_iff_exactValue (by rw [abs_isFinite]; exact (bounded_of_asInteger? h).1) (by decide),
    exactValue_abs, not_le] at hlarge
  have htolerance : 1 ≤ exactValue integralTolerance * 2 ^ 30 := by
    rw [exactValue_eq, unpacked_integralTolerance]
    norm_num [valueOf, signedValue, Sign.apply]
  linarith

end Whole

end OneUnknown
