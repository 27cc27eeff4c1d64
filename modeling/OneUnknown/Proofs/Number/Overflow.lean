import OneUnknown.Proofs.Number.ExactValue

/-!
# Overflow

A result is rounded to infinity if its magnitude is at least the one halfway between the greatest
finite number and the next power of two. Products overflow just if the exact product is as great as
that, and a quotient does not overflow if its divisor is one at least.

* `Stands.roundedMantissa_lt_iff`: when rounding stays below an even number;
* **`overflowBound`**, `isFinite_packed_roundWithAccuracy`: when rounding stays finite;
* `IsRounding`, `isRounding_mul`, `isRounding_div`: results that are roundings of exact ones;
* **`isFinite_mul_iff`**, **`isFinite_div_iff`**: products and quotients.
-/

namespace OneUnknown

open Float.Model Float.Model.UnpackedFloat
open Float.Model.Format (binary64)

/-! ## Residual bits -/

namespace Stands

variable {em : ExtendedMantissa} {x : ℚ}

/-- **Rounding stays below an even number** up to half a unit before it: a tie goes to it. -/
theorem roundedMantissa_lt_iff {n : Nat} (h : Stands em x) (hn : n % 2 = 0) :
    em.roundedMantissa < n ↔ x < n - 1 / 2 := by
  obtain ⟨m, roundBit, stickyBit⟩ := em
  have hcast : ∀ {a b : Nat}, a + 1 ≤ b → (a : ℚ) + 1 ≤ b := fun hab => by exact_mod_cast hab
  cases roundBit <;> cases stickyBit <;>
    simp only [Stands, ExtendedMantissa.roundedMantissa, ExtendedMantissa.accuracy,
      Accuracy.roundToNearestEven] at h ⊢
  · constructor
    · intro hlt
      linarith [hcast hlt]
    · intro hlt
      exact_mod_cast (show (m : ℚ) < n by linarith)
  · constructor
    · intro hlt
      linarith [hcast hlt]
    · intro hlt
      exact_mod_cast (show (m : ℚ) < n by linarith)
  · constructor
    · intro hlt
      have := hcast (show m + 1 + 1 ≤ n by omega)
      push_cast at this
      linarith
    · intro hlt
      have : m + 1 < n := by exact_mod_cast (show (m : ℚ) + 1 < n by linarith)
      omega
  · constructor
    · intro hlt
      have := hcast (show m + 1 + 1 ≤ n by omega)
      push_cast at this
      linarith
    · intro hlt
      have : m < n - 1 := by
        have : m + 1 < n + 1 := by exact_mod_cast (show (m : ℚ) + 1 < n + 1 by linarith)
        by_contra hle
        have : (n : ℚ) ≤ m + 1 := by exact_mod_cast (show n ≤ m + 1 by omega)
        linarith
      omega

end Stands

/-! ## Rounding -/

/-- **From this magnitude on numbers are rounded to infinity.** -/
def overflowBound : ℚ := 2 ^ 1024 - 2 ^ 970

theorem overflowBound_eq : overflowBound = (2 ^ 53 - 1 / 2) * 2 ^ (971 : Int) := by
  have h₁ : (2 : ℚ) ^ 1024 = 2 ^ 53 * 2 ^ 971 := by rw [← pow_add]
  have h₂ : (2 : ℚ) ^ 971 = 2 * 2 ^ 970 := by rw [← pow_succ']
  have h₃ : (2 : ℚ) ^ (971 : Int) = 2 ^ 971 := zpow_natCast 2 971
  rw [overflowBound, h₁, h₃, h₂]
  generalize (2 : ℚ) ^ 970 = u
  ring

theorem two_pow_lt_overflowBound {k : Nat} (hk : k ≤ 1023) : (2 : ℚ) ^ k < overflowBound := by
  have hpow : (2 : ℚ) ^ k ≤ 2 ^ (52 + 971) := pow_le_pow_right₀ one_le_two (by omega)
  rw [pow_add] at hpow
  have hunit : (0 : ℚ) < 2 ^ 971 := by positivity
  have hzpow : (2 : ℚ) ^ (971 : Int) = 2 ^ 971 := zpow_natCast 2 971
  rw [overflowBound_eq, hzpow]
  refine hpow.trans_lt ?_
  gcongr
  norm_num

section Rounding

variable {s : Sign} {m n : Nat} {e t : Int} {accuracy : Accuracy} {x : ℚ}

theorem isFinite_packed_iff {f : UnpackedFloat} (h : Representable f) :
    (packed f).isFinite = f.isFinite := by
  change (unpacked (packed f)).isFinite = f.isFinite
  rw [unpacked_packed h]

theorem isFinite_packed_of_high (hm : 0 < m) (he : 972 ≤ e) :
    (packed (.finite s m e hm)).isFinite = false := by
  have hpack : UnpackedFloat.pack binary64 (.finite s m e hm) =
      packComponents binary64 s (-1#11) 0#52 := by
    have hsum : e + ((1023 : Nat) : Int) + ((52 : Nat) : Int) = e + 1075 := by omega
    simp only [UnpackedFloat.pack, exponentBias_binary64, hsum]
    rw [if_pos (show 2 ^ 11 ≤ (e + 1075).toNat + 1 by omega)]
    rfl
  have hunpacked : unpacked (packed (.finite s m e hm)) = .infinity s := by
    change UnpackedFloat.unpack binary64 (UnpackedFloat.pack binary64 _) = _
    rw [hpack, unpack_infinity]
  change (unpacked (packed _)).isFinite = false
  rw [hunpacked]
  rfl

/-- **The second shift** keeps an exponent or raises it by one. -/
theorem shiftToTargetExponent_full (hlow : 2 ^ 52 ≤ n) (hn : n ≤ 2 ^ 53) (ht : -1074 ≤ t) :
    ∃ n' t', 0 < n' ∧ t' = (if n = 2 ^ 53 then t + 1 else t) ∧
      shiftToTargetExponent binary64 n t .exact = (.ofMantissaAndAccuracy n' .exact, t') := by
  have hlog : n.log2 = if n = 2 ^ 53 then 53 else 52 := by
    have h₁ := Nat.log2_lt (n := n) (k := 53) (by omega)
    have h₂ := Nat.le_log2 (n := n) (k := 52) (by omega)
    split
    · rename_i heq
      rw [heq, Nat.log2_two_pow]
    · omega
  have hshift : ∀ k : Nat, binary64.targetExponent (totalExponent n t) = t + k →
      shiftToTargetExponent binary64 n t .exact =
        (ExtendedMantissa.ofMantissaAndAccuracy n .exact >>> k, t + k) := by
    intro k hk
    have hkt : (t + (k : Int) - t).toNat = k := by omega
    simp only [UnpackedFloat.shiftToTargetExponent, shiftToExponent, hk, hkt]
  by_cases heq : n = 2 ^ 53
  · rw [if_pos heq] at hlog ⊢
    refine ⟨2 ^ 52, t + 1, by decide, rfl, ?_⟩
    rw [hshift 1 (by rw [targetExponent_eq, hlog]; omega), heq]
    exact congrArg (·, t + 1) (shiftRight_exact (2 ^ 52) 1)
  · rw [if_neg heq] at hlog ⊢
    refine ⟨n, t, by omega, rfl, ?_⟩
    rw [hshift 0 (by rw [targetExponent_eq, hlog]; omega)]
    have hzero := shiftRight_exact n 0
    rw [Nat.pow_zero, Nat.mul_one] at hzero
    rw [hzero, Nat.cast_zero, Int.add_zero]

theorem isFinite_packed_of_rounded {em : ExtendedMantissa}
    (h : shiftToTargetExponent binary64 m e accuracy = (em, t)) (hn : em.roundedMantissa = n)
    (hlow : 2 ^ 52 ≤ n) (hle : n ≤ 2 ^ 53) (hhigh : 972 ≤ t ∨ t = 971 ∧ n = 2 ^ 53) :
    (packed (roundWithAccuracy binary64 s m e accuracy)).isFinite = false := by
  obtain ⟨n', t', hpos, ht', hshift⟩ :=
    shiftToTargetExponent_full hlow hle (show -1074 ≤ t by omega)
  have hf : roundWithAccuracy binary64 s m e accuracy = .finite s n' t' hpos := by
    simp only [roundWithAccuracy, h, hn, hshift]
    rw [dif_neg (by exact hpos.ne')]
    rfl
  rw [hf]
  refine isFinite_packed_of_high hpos ?_
  split at ht' <;> omega

/-- **Rounding stays finite** just if what is rounded is below the bound. -/
theorem isFinite_packed_roundWithAccuracy
    (hstands : Stands (.ofMantissaAndAccuracy m accuracy) x)
    (he : e ≤ max ((m.log2 : Int) + e - 52) (-1074)) :
    (packed (roundWithAccuracy binary64 s m e accuracy)).isFinite = true ↔
      x * 2 ^ e < overflowBound := by
  obtain ⟨em, k, ht, hshift, hshifted, hlt, hfull⟩ := exists_shiftToTargetExponent hstands he
  have hlow : -1074 ≤ e + k := by omega
  rw [← shifted_mul x e k, overflowBound_eq]
  generalize x / 2 ^ k = y at hshifted hlt hfull ⊢
  generalize e + (k : Int) = t at hshift hfull hlow ⊢
  have hpow : (0 : ℚ) < 2 ^ t := by positivity
  have hle : em.roundedMantissa ≤ 2 ^ 53 :=
    hshifted.roundedMantissa_le (by exact_mod_cast hlt.le)
  have hrounded : t ≠ -1074 → 2 ^ 52 ≤ em.roundedMantissa := fun hleast =>
    hshifted.le_roundedMantissa (by exact_mod_cast hfull hleast)
  rcases lt_trichotomy t 971 with hbelow | rfl | habove
  · refine iff_of_true ?_ ?_
    · obtain ⟨hr, hfinite, -⟩ := roundWithAccuracy_of_rounded (s := s) hshift rfl hle hlow
        (.inl (by omega)) (by omega)
      exact (isFinite_packed_iff hr).trans hfinite
    · have hbound : (2 : ℚ) ^ t ≤ 2 ^ (970 : Int) := zpow_le_zpow_right₀ one_le_two (by omega)
      calc y * 2 ^ t < 2 ^ 53 * 2 ^ t := by gcongr
        _ ≤ 2 ^ 53 * 2 ^ (970 : Int) := by gcongr
        _ = 2 ^ 52 * 2 ^ (971 : Int) := by
          rw [show (971 : Int) = 970 + 1 from rfl, zpow_add_one₀ two_ne_zero]
          ring
        _ ≤ (2 ^ 53 - 1 / 2) * 2 ^ (971 : Int) := by
          gcongr
          norm_num
  · rw [mul_lt_mul_iff_of_pos_right (by positivity)]
    have hiff := hshifted.roundedMantissa_lt_iff (show 2 ^ 53 % 2 = 0 by decide)
    rw [Nat.cast_pow, Nat.cast_ofNat] at hiff
    rw [← hiff]
    constructor
    · intro hfinite
      by_contra hnot
      have hfalse := isFinite_packed_of_rounded (s := s) hshift rfl (hrounded (by omega)) hle
        (.inr ⟨rfl, by omega⟩)
      rw [hfinite] at hfalse
      exact Bool.noConfusion hfalse
    · intro hrounded'
      obtain ⟨hr, hfinite, -⟩ := roundWithAccuracy_of_rounded (s := s) hshift rfl hle (by omega)
        (.inr ⟨rfl, hrounded'⟩) (.inl (hrounded (by omega)))
      exact (isFinite_packed_iff hr).trans hfinite
  · refine iff_of_false ?_ ?_
    · rw [isFinite_packed_of_rounded (s := s) hshift rfl (hrounded (by omega)) hle
        (.inl (by omega))]
      decide
    · have hbound : (2 : ℚ) ^ (972 : Int) ≤ 2 ^ t := zpow_le_zpow_right₀ one_le_two (by omega)
      have hfull' := hfull (by omega)
      rw [not_lt]
      calc (2 ^ 53 - 1 / 2) * 2 ^ (971 : Int) ≤ (2 : ℚ) ^ 53 * 2 ^ (971 : Int) := by
            gcongr
            norm_num
        _ = 2 ^ 52 * 2 ^ (972 : Int) := by
          rw [show (972 : Int) = 971 + 1 from rfl, zpow_add_one₀ two_ne_zero]
          ring
        _ ≤ y * 2 ^ t := by gcongr

/-- **The value is the rounding of a number** of the given magnitude. -/
def IsRounding (f : UnpackedFloat) (v : ℚ) : Prop :=
  ∃ s m e accuracy x, f = roundWithAccuracy binary64 s m e accuracy ∧
    Stands (.ofMantissaAndAccuracy m accuracy) x ∧
    e ≤ max ((m.log2 : Int) + e - 52) (-1074) ∧ x * 2 ^ e = v

theorem IsRounding.isFinite_packed {f : UnpackedFloat} {v : ℚ} (h : IsRounding f v) :
    (packed f).isFinite = true ↔ v < overflowBound := by
  obtain ⟨s, m, e, accuracy, x, rfl, hstands, he, rfl⟩ := h
  exact isFinite_packed_roundWithAccuracy hstands he

theorem isRounding_zero (s : Sign) {v : ℚ} (hv : v = 0) : IsRounding (.zero s) v :=
  ⟨s, 0, -1074, .exact, 0, by cases s <;> rfl, by simpa using Stands.exact 0, by decide,
    by rw [hv, zero_mul]⟩

end Rounding

/-! ## Operations -/

section Operations

variable {x y : Float}

theorem overflowBound_pos : 0 < overflowBound :=
  (pow_pos two_pos 0).trans (two_pow_lt_overflowBound (by decide))

theorem isRounding_mul (hx : x.isFinite) (hy : y.isFinite) :
    IsRounding (.mul binary64 (unpacked x) (unpacked y)) |exactValue x * exactValue y| := by
  have hrx := representable_unpacked x
  have hry := representable_unpacked y
  rw [exactValue_eq, exactValue_eq]
  rcases isFinite_iff.mp hx with ⟨s, hs⟩ | ⟨s, m, e, hm, hs⟩ <;>
    rcases isFinite_iff.mp hy with ⟨t, ht⟩ | ⟨t, n, d, hn, ht⟩ <;> rw [hs, ht]
  · exact isRounding_zero (s * t) (by simp [valueOf])
  · exact isRounding_zero (s * t) (by simp [valueOf])
  · exact isRounding_zero (s * t) (by simp [valueOf])
  · rw [hs] at hrx
    rw [ht] at hry
    refine ⟨s * t, m * n, e + d, .exact, (m * n : Nat), rfl, Stands.exact _,
      hrx.mul_exponent_le hry hm hn, ?_⟩
    rw [valueOf, valueOf, signedValue_mul, abs_signedValue]

/-- **A product of finite numbers is finite** just if the exact product is below the bound. -/
theorem isFinite_mul_iff (hx : x.isFinite) (hy : y.isFinite) :
    (x * y).isFinite = true ↔ |exactValue x * exactValue y| < overflowBound :=
  (isRounding_mul hx hy).isFinite_packed

theorem stands_quotient (n : Nat) {d : Nat} (hd : 0 < d) :
    Stands (.ofMantissaAndAccuracy (n / d) (accuracyOfFraction (n % d) d)) (n / d) := by
  have hpos : (0 : ℚ) < d := by exact_mod_cast hd
  have hquotient : (n : ℚ) / d = (n / d : Nat) + (n % d : Nat) / d := by
    have hsplit : (n : ℚ) = d * (n / d : Nat) + (n % d : Nat) := by
      exact_mod_cast (Nat.div_add_mod n d).symm
    rw [div_eq_iff hpos.ne', add_mul, div_mul_cancel₀ _ hpos.ne', mul_comm]
    exact hsplit
  have hlt : ((n % d : Nat) : ℚ) < d := by exact_mod_cast Nat.mod_lt n hd
  rw [hquotient]
  generalize n / d = q
  generalize n % d = r at hlt
  have hone : (r : ℚ) / d < 1 := (div_lt_one hpos).mpr hlt
  rcases Nat.eq_zero_or_pos r with rfl | hr
  · simp [accuracyOfFraction, ExtendedMantissa.ofMantissaAndAccuracy, Stands]
  · have hrpos : (0 : ℚ) < r / d := div_pos (by exact_mod_cast hr) hpos
    rw [accuracyOfFraction, if_neg hr.ne']
    rcases lt_trichotomy (2 * r) d with hcompare | hcompare | hcompare
    · have hhalf : (r : ℚ) / d < 1 / 2 := by
        rw [div_lt_div_iff₀ hpos two_pos]
        exact_mod_cast (show r * 2 < 1 * d by omega)
      rw [compare_lt_iff_lt.mpr hcompare]
      show (q : ℚ) < q + r / d ∧ (q : ℚ) + r / d < q + 1 / 2
      exact ⟨by linarith, by linarith⟩
    · have hhalf : (r : ℚ) / d = 1 / 2 := by
        rw [div_eq_div_iff hpos.ne' two_ne_zero]
        exact_mod_cast (show r * 2 = 1 * d by omega)
      rw [compare_eq_iff_eq.mpr hcompare]
      show (q : ℚ) + r / d = q + 1 / 2
      rw [hhalf]
    · have hhalf : 1 / 2 < (r : ℚ) / d := by
        rw [div_lt_div_iff₀ two_pos hpos]
        exact_mod_cast (show 1 * d < r * 2 by omega)
      rw [compare_gt_iff_gt.mpr hcompare]
      show (q : ℚ) + 1 / 2 < q + r / d ∧ (q : ℚ) + r / d < q + 1
      exact ⟨by linarith, by linarith⟩

theorem div_eq (x y : Float) : x / y = packed (.div binary64 (unpacked x) (unpacked y)) := rfl

theorem isRounding_div (hx : x.isFinite) (hy : y.isFinite) (hy₀ : (y == 0) = false) :
    IsRounding (.div binary64 (unpacked x) (unpacked y)) |exactValue x / exactValue y| := by
  obtain ⟨t, n, d, hn, ht⟩ := exists_unpacked_of_ne_zero hy hy₀
  rw [exactValue_eq, exactValue_eq, ht]
  rcases isFinite_iff.mp hx with ⟨s, hs⟩ | ⟨s, m, e, hm, hs⟩ <;> rw [hs]
  · exact isRounding_zero (s / t) (by simp [valueOf])
  · -- The dividend is lengthened until the quotient has 53 bits, or the least exponent is reached.
    obtain ⟨target, htarget⟩ : ∃ target, min (e - d)
      (binary64.targetExponent (totalExponent m e - totalExponent n d)) = target := ⟨_, rfl⟩
    obtain ⟨k, hk⟩ := Int.eq_ofNat_of_zero_le (show 0 ≤ e - d - target by omega)
    have hcore : divCore binary64 m e n d = (m * 2 ^ k / n, target,
        accuracyOfFraction (m * 2 ^ k % n) n) := by
      have hkt : (e - d - target).toNat = k := by omega
      simp only [divCore, htarget, hkt, Nat.shiftLeft_eq]
    have hfull : target ≤ max (((m * 2 ^ k / n).log2 : Int) + target - 52) (-1074) := by
      by_cases hleast : target ≤ -1074
      · omega
      · have hexponent : target + n.log2 + d + 53 ≤ m.log2 + e := by
          have hmin : binary64.minExponent = -1074 := rfl
          have hbits : binary64.mantissaBits = 53 := rfl
          unfold Float.Model.Format.targetExponent totalExponent at htarget
          omega
        have hlong : 2 ^ 52 ≤ m * 2 ^ k / n := by
          rw [Nat.le_div_iff_mul_le hn]
          calc 2 ^ 52 * n ≤ 2 ^ 52 * 2 ^ (n.log2 + 1) :=
                Nat.mul_le_mul_left _ Nat.lt_log2_self.le
            _ = 2 ^ (52 + (n.log2 + 1)) := (Nat.pow_add 2 52 _).symm
            _ ≤ 2 ^ (m.log2 + k) := Nat.pow_le_pow_right (by decide) (by omega)
            _ = 2 ^ m.log2 * 2 ^ k := Nat.pow_add 2 _ _
            _ ≤ m * 2 ^ k := Nat.mul_le_mul_right _ (Nat.log2_self_le hm.ne')
        have := (Nat.le_log2 (show m * 2 ^ k / n ≠ 0 by omega)).mpr hlong
        omega
    refine ⟨s / t, m * 2 ^ k / n, target, _, ((m * 2 ^ k : Nat) : ℚ) / n, ?_,
      stands_quotient (m * 2 ^ k) hn, hfull, ?_⟩
    · simp only [UnpackedFloat.div, hcore]
    · have hexponent : e = target + k + d := by omega
      have hpos : (0 : ℚ) < n := by exact_mod_cast hn
      rw [valueOf, valueOf, abs_div, abs_signedValue, abs_signedValue, hexponent,
        zpow_add₀ two_ne_zero, zpow_add₀ two_ne_zero, zpow_natCast]
      push_cast
      field_simp

/-- **A quotient of finite numbers is finite** just if the exact quotient is below the bound. -/
theorem isFinite_div_iff (hx : x.isFinite) (hy : y.isFinite) (hy₀ : (y == 0) = false) :
    (x / y).isFinite = true ↔ |exactValue x / exactValue y| < overflowBound :=
  (isRounding_div hx hy hy₀).isFinite_packed

theorem abs_exactValue_lt (x : Float) : |exactValue x| < overflowBound := by
  have hr := representable_unpacked x
  rw [exactValue_eq]
  rcases hx : unpacked x with s | _ | s | ⟨s, m, e, hm⟩
  · simpa [valueOf] using overflowBound_pos
  · simpa [valueOf] using overflowBound_pos
  · simpa [valueOf] using overflowBound_pos
  · have hcanonical : IsCanonical m e := by rwa [hx] at hr
    have hlt : (m : ℚ) + 1 ≤ 2 ^ 53 := by exact_mod_cast hcanonical.lt
    have hpow := zpow_le_zpow_right₀ (one_le_two (α := ℚ)) hcanonical.le_greatest
    rw [valueOf, abs_signedValue, overflowBound_eq]
    calc (m : ℚ) * 2 ^ e ≤ m * 2 ^ (971 : Int) := by gcongr
      _ < (2 ^ 53 - 1 / 2) * 2 ^ (971 : Int) := by
        gcongr
        linarith

theorem beq_zero_eq_false (h : 0 < |exactValue y|) : (y == 0) = false := by
  by_contra hne
  obtain ⟨s, hs⟩ := exists_unpacked_of_beq_zero (Bool.not_eq_false _ ▸ hne)
  rw [exactValue_eq, hs] at h
  simp [valueOf] at h

theorem isFinite_div (hx : x.isFinite) (hy : y.isFinite) (hy₁ : 1 ≤ |exactValue y|) :
    (x / y).isFinite = true := by
  rw [isFinite_div_iff hx hy (beq_zero_eq_false (one_pos.trans_le hy₁)), abs_div]
  exact (div_le_self (abs_nonneg _) hy₁).trans_lt (abs_exactValue_lt x)

end Operations

end OneUnknown
