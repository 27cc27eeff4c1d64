import Mathlib
import OneUnknown.Number.Dyadic

/-!
# Binary64 numbers

A floating-point number is a bit pattern of a sign, a biased exponent and a fraction. Unpacked, a
finite one is zero or has a sign, a significand and an exponent in canonical form: the significand
has 53 bits, or the exponent is the least one. Packing and unpacking are inverse to each other on
these, and rounding changes none of them.

* `toNat_packComponents`: the fields of a bit pattern;
* `IsCanonical`, `Representable`: canonical forms;
* `representable_unpack`, `unpack_pack`: packing and unpacking;
* **`roundWithAccuracy_exact`**: rounding a number that can be represented;
* `packed`, `unpacked`: numbers and their values;
* **`ofFloat?_eq`**: the exact value of a number in its unpacked form.
-/

namespace OneUnknown

open Float.Model Float.Model.UnpackedFloat
open Float.Model.Format (binary64)

/-! ## The fields of a bit pattern -/

section Fields

variable (b : BitVec binary64.numBits)

theorem toNat_unpackSign : (unpackSign b).toNat = b.toNat / 2 ^ 63 := by
  have h : b.toNat < 2 ^ 64 := b.isLt
  simp only [unpackSign, BitVec.extractLsb, BitVec.toNat_cast, BitVec.extractLsb'_toNat,
    Nat.shiftRight_eq_div_pow]
  omega

theorem toNat_packComponents (s : Sign) (e : BitVec 11) (m : BitVec 52) :
    (packComponents binary64 s e m).toNat =
      s.toBitVec.toNat * 2 ^ 63 + e.toNat * 2 ^ 52 + m.toNat := by
  simp only [packComponents]
  rw [BitVec.toNat_append, ← Nat.shiftLeft_add_eq_or_of_lt m.isLt, BitVec.toNat_append,
    ← Nat.shiftLeft_add_eq_or_of_lt e.isLt]
  simp only [Nat.shiftLeft_eq]
  ring

theorem toNat_implicit (m : BitVec 52) : (1#1 ++ m).toNat = 2 ^ 52 + m.toNat := by
  rw [BitVec.toNat_append, ← Nat.shiftLeft_add_eq_or_of_lt m.isLt]
  rfl

end Fields

/-! ## Canonical forms -/

/-- **The significand and the exponent of a finite number**: all 53 bits are used, unless the
exponent is the least one. -/
structure IsCanonical (m : Nat) (e : Int) : Prop where
  lt : m < 2 ^ 53
  least_le : -1074 ≤ e
  le_greatest : e ≤ 971
  full : 2 ^ 52 ≤ m ∨ e = -1074

/-- The value is that of a bit pattern. -/
def Representable : UnpackedFloat → Prop
  | .finite _ m e _ => IsCanonical m e
  | _ => True

@[simp] theorem exponentBias_binary64 : binary64.exponentBias = 1023 := rfl

@[simp] theorem mantissaBits_binary64 : binary64.mantissaBits = 53 := rfl

theorem log2_add_one_eq_iff {m : Nat} (hm : 0 < m) (h : m < 2 ^ 53) :
    m.log2 + 1 = 53 ↔ 2 ^ 52 ≤ m := by
  have h₁ := Nat.log2_lt (n := m) (k := 53) (by omega)
  have h₂ := Nat.le_log2 (n := m) (k := 52) (by omega)
  omega

/-! ## Packing and unpacking -/

section Components

variable {s : Sign} {m : Nat} {e : Int}

theorem pack_normal (hm : 0 < m) (hlo : 2 ^ 52 ≤ m) (hhi : m < 2 ^ 53) (he : e ≤ 971) :
    UnpackedFloat.pack binary64 (.finite s m e hm) =
      packComponents binary64 s (BitVec.ofNat 11 (e + 1075).toNat) (BitVec.ofNat 52 m) := by
  have hsum : e + ((1023 : Nat) : Int) + ((52 : Nat) : Int) = e + 1075 := by omega
  simp only [UnpackedFloat.pack, exponentBias_binary64, mantissaBits_binary64, hsum]
  rw [if_neg (by omega), if_pos ((log2_add_one_eq_iff hm hhi).mpr hlo)]

theorem pack_subnormal (hm : 0 < m) (hhi : m < 2 ^ 52) :
    UnpackedFloat.pack binary64 (.finite s m (-1074) hm) =
      packComponents binary64 s 0#11 (BitVec.ofNat 52 m) := by
  have hlog := log2_add_one_eq_iff hm (by omega)
  have hone : ((-1074 : Int) + ((1023 : Nat) : Int) + ((52 : Nat) : Int)).toNat = 1 := rfl
  simp only [UnpackedFloat.pack, exponentBias_binary64, mantissaBits_binary64, hone]
  rw [if_neg (by omega), if_neg (by omega)]

theorem unpack_normal {E : BitVec 11} {F : BitVec 52}
    (h₀ : E.toNat ≠ 0) (h₁ : E.toNat ≠ 2047) :
    UnpackedFloat.unpack binary64 (packComponents binary64 s E F) =
      .finite s (2 ^ 52 + F.toNat) ((E.toNat : Int) - 1075) (by omega) := by
  have hE₀ : E ≠ 0#11 := fun h => h₀ (by rw [h]; rfl)
  have hE₁ : E ≠ -1#11 := fun h => h₁ (by rw [h]; rfl)
  simp only [UnpackedFloat.unpack, unpackExponent_packComponents, unpackMantissa_packComponents,
    unpackSign_packComponents, Sign.ofBitVec_toBitVec]
  rw [if_neg hE₁, if_neg hE₀]
  simp only [toNat_implicit, exponentBias_binary64]
  rfl

theorem unpack_subnormal {F : BitVec 52} (h₀ : F.toNat ≠ 0) :
    UnpackedFloat.unpack binary64 (packComponents binary64 s 0#11 F) =
      .finite s F.toNat (-1074) (by omega) := by
  have hF : F ≠ 0#52 := fun h => h₀ (by rw [h]; rfl)
  simp only [UnpackedFloat.unpack, unpackExponent_packComponents, unpackMantissa_packComponents,
    unpackSign_packComponents, Sign.ofBitVec_toBitVec]
  rw [if_neg (by decide), if_pos trivial, dif_neg hF]
  rfl

theorem unpack_zero : UnpackedFloat.unpack binary64 (packComponents binary64 s 0#11 0#52) =
    .zero s := by
  simp [UnpackedFloat.unpack]

theorem unpack_infinity : UnpackedFloat.unpack binary64 (packComponents binary64 s (-1#11) 0#52) =
    .infinity s := by
  simp [UnpackedFloat.unpack]

theorem unpack_notANumber {F : BitVec 52} (h : F ≠ 0#52) :
    UnpackedFloat.unpack binary64 (packComponents binary64 s (-1#11) F) = .notANumber := by
  simp [UnpackedFloat.unpack, h]

end Components

theorem representable_unpack (b : BitVec binary64.numBits) :
    Representable (UnpackedFloat.unpack binary64 b) := by
  rw [← packComponents_unpackSign_unpackExponent_unpackMantissa b]
  generalize Sign.ofBitVec (unpackSign b) = s
  generalize hE : unpackExponent b = E
  generalize hF : unpackMantissa b = F
  have hElt : E.toNat < 2 ^ 11 := E.isLt
  have hFlt : F.toNat < 2 ^ 52 := F.isLt
  by_cases h₁ : E = -1#11
  · subst h₁
    by_cases h₂ : F = 0#52
    · subst h₂
      rw [unpack_infinity]
      trivial
    · rw [unpack_notANumber h₂]
      trivial
  by_cases h₀ : E = 0#11
  · subst h₀
    by_cases h₂ : F = 0#52
    · subst h₂
      rw [unpack_zero]
      trivial
    · have hF₀ : F.toNat ≠ 0 := fun h => h₂ (BitVec.eq_of_toNat_eq h)
      rw [unpack_subnormal hF₀]
      exact ⟨by omega, by omega, by omega, .inr rfl⟩
  · have hE₀ : E.toNat ≠ 0 := fun h => h₀ (BitVec.eq_of_toNat_eq h)
    have hE₁ : E.toNat ≠ 2047 := fun h => h₁ (BitVec.eq_of_toNat_eq h)
    rw [unpack_normal hE₀ hE₁]
    exact ⟨by omega, by omega, by omega, .inl (by omega)⟩

theorem unpack_pack {f : UnpackedFloat} (h : Representable f) :
    UnpackedFloat.unpack binary64 (UnpackedFloat.pack binary64 f) = f := by
  rcases f with s | _ | s | ⟨s, m, e, hm⟩
  · exact unpack_infinity
  · rfl
  · exact unpack_zero
  · obtain ⟨hlt, hlo, hhi, hfull⟩ := h
    by_cases hn : 2 ^ 52 ≤ m
    · have hE : (BitVec.ofNat 11 (e + 1075).toNat).toNat = (e + 1075).toNat := by
        rw [BitVec.toNat_ofNat, Nat.mod_eq_of_lt (by omega)]
      rw [pack_normal hm hn hlt hhi, unpack_normal (by omega) (by omega)]
      simp only [hE, BitVec.toNat_ofNat]
      congr 1 <;> omega
    · obtain rfl : e = -1074 := by omega
      have hF : (BitVec.ofNat 52 m).toNat = m := by
        rw [BitVec.toNat_ofNat, Nat.mod_eq_of_lt (by omega)]
      rw [pack_subnormal hm (by omega), unpack_subnormal (by omega)]
      simp only [hF]

/-! ## Exact rounding -/

section Rounding

theorem shiftRight_exact (m k : Nat) :
    ExtendedMantissa.ofMantissaAndAccuracy (m * 2 ^ k) .exact >>> k =
      ExtendedMantissa.ofMantissaAndAccuracy m .exact := by
  change k.repeat ExtendedMantissa.shiftRightOne _ = _
  induction k generalizing m with
  | zero => simp [Nat.repeat]
  | succ k ih =>
    rw [Nat.repeat, Nat.pow_succ', ← Nat.mul_assoc, ih]
    simp [ExtendedMantissa.shiftRightOne, ExtendedMantissa.ofMantissaAndAccuracy]

theorem log2_mul_two_pow {m : Nat} (hm : 0 < m) (k : Nat) : (m * 2 ^ k).log2 = m.log2 + k := by
  induction k with
  | zero => simp
  | succ k ih =>
    have hpos : m * 2 ^ k ≠ 0 := by
      have := Nat.two_pow_pos k
      exact Nat.mul_ne_zero hm.ne' this.ne'
    rw [Nat.pow_succ', Nat.mul_left_comm, Nat.log2_two_mul hpos, ih]
    omega

variable {m : Nat} {e : Int}

theorem IsCanonical.targetExponent (h : IsCanonical m e) (hm : 0 < m) :
    binary64.targetExponent (totalExponent m e) = e := by
  have hlt := (Nat.log2_lt (n := m) (k := 53) (by omega)).mpr h.lt
  have hle := Nat.le_log2 (n := m) (k := 52) (by omega)
  have hmin : binary64.minExponent = -1074 := rfl
  have hbits : binary64.mantissaBits = 53 := rfl
  obtain ⟨-, hlo, -, hfull⟩ := h
  unfold Float.Model.Format.targetExponent totalExponent
  omega

theorem IsCanonical.shiftToTargetExponent {k : Nat} (h : IsCanonical m (e + k)) (hm : 0 < m) :
    shiftToTargetExponent binary64 (m * 2 ^ k) e .exact =
      (ExtendedMantissa.ofMantissaAndAccuracy m .exact, e + k) := by
  have ht : binary64.targetExponent (totalExponent (m * 2 ^ k) e) = e + k := by
    rw [← h.targetExponent hm]
    unfold totalExponent
    rw [log2_mul_two_pow hm]
    congr 1
    omega
  have hk : (e + k - e).toNat = k := by omega
  simp only [UnpackedFloat.shiftToTargetExponent, shiftToExponent, ht, hk, shiftRight_exact]

/-- **Rounding does not change a number that can be represented.** -/
theorem roundWithAccuracy_exact {s : Sign} {k : Nat} (h : IsCanonical m (e + k)) (hm : 0 < m) :
    roundWithAccuracy binary64 s (m * 2 ^ k) e .exact = .finite s m (e + k) hm := by
  -- The rounded significand is in canonical form already, so the second shift is one by zero.
  have h₀ : IsCanonical m (e + k + (0 : Nat)) := by simpa using h
  have h₂ := h₀.shiftToTargetExponent hm
  simp only [Nat.pow_zero, Nat.mul_one, Nat.cast_zero, add_zero] at h₂
  have hr : (ExtendedMantissa.ofMantissaAndAccuracy m .exact).roundedMantissa = m := rfl
  simp only [roundWithAccuracy, h.shiftToTargetExponent hm, hr, h₂]
  rw [dif_neg (by exact hm.ne')]
  rfl

end Rounding

/-! ## Numbers -/

/-- The number that a value is packed into. -/
def packed (f : UnpackedFloat) : Float := .ofModel (.pack f)

/-- The value of a number. -/
def unpacked (x : Float) : UnpackedFloat := x.toModel.unpack

theorem packed_unpacked (x : Float) : packed (unpacked x) = x := by
  obtain ⟨⟨bits, hv⟩⟩ := x
  simp only [packed, unpacked, Float.Model.pack, Float.Model.unpack, pack_unpack_of_valid hv]

theorem representable_unpacked (x : Float) : Representable (unpacked x) :=
  representable_unpack _

theorem unpacked_packed {f : UnpackedFloat} (h : Representable f) : unpacked (packed f) = f :=
  unpack_pack h

theorem unpacked_injective {x y : Float} (h : unpacked x = unpacked y) : x = y := by
  rw [← packed_unpacked x, h, packed_unpacked]

/-- The exact value, if it is finite. -/
def dyadicOf? : UnpackedFloat → Option Dyadic
  | .zero s => some ⟨s == .negative, 0, -1074⟩
  | .finite s m e _ => some ⟨s == .negative, m, e⟩
  | _ => none

theorem ofFloat?_of_toBits {x : Float} {s : Sign} {E F : Nat} (hE : E < 2 ^ 11) (hF : F < 2 ^ 52)
    (h : x.toBits.toNat = s.toBitVec.toNat * 2 ^ 63 + E * 2 ^ 52 + F) : Dyadic.ofFloat? x =
      if E = 2047 then none
      else if E = 0 then some ⟨s == .negative, F, -1074⟩
      else some ⟨s == .negative, 2 ^ 52 + F, (E : Int) - 1075⟩ := by
  have hsign : (x.toBits.toNat / 2 ^ 63 == 1) = (s == .negative) := by
    cases s with
    | negative =>
      have : x.toBits.toNat / 2 ^ 63 = 1 := by simp [Sign.toBitVec] at h; omega
      rw [this]
      rfl
    | positive =>
      have : x.toBits.toNat / 2 ^ 63 = 0 := by simp [Sign.toBitVec] at h; omega
      rw [this]
      rfl
  have hbiased : x.toBits.toNat / 2 ^ 52 % 2 ^ 11 = E := by omega
  have hfraction : x.toBits.toNat % 2 ^ 52 = F := by omega
  simp only [Dyadic.ofFloat?, Nat.pow_eq, hsign, hbiased, hfraction]

theorem ofFloat?_packed {f : UnpackedFloat} (h : Representable f) :
    Dyadic.ofFloat? (packed f) = dyadicOf? f := by
  have hbits : ∀ {s : Sign} {E : BitVec 11} {F : BitVec 52},
      UnpackedFloat.pack binary64 f = packComponents binary64 s E F →
      (packed f).toBits.toNat = s.toBitVec.toNat * 2 ^ 63 + E.toNat * 2 ^ 52 + F.toNat :=
    fun hp => (congrArg BitVec.toNat hp).trans (toNat_packComponents _ _ _)
  rcases f with s | _ | s | ⟨s, m, e, hm⟩
  · exact ofFloat?_of_toBits (BitVec.isLt _) (BitVec.isLt _) (hbits rfl)
  · exact ofFloat?_of_toBits (BitVec.isLt _) (BitVec.isLt _) (hbits rfl)
  · exact ofFloat?_of_toBits (BitVec.isLt _) (BitVec.isLt _) (hbits rfl)
  · obtain ⟨hlt, hlo, hhi, hfull⟩ := h
    by_cases hn : 2 ^ 52 ≤ m
    · rw [ofFloat?_of_toBits (BitVec.isLt _) (BitVec.isLt _) (hbits (pack_normal hm hn hlt hhi))]
      simp only [BitVec.toNat_ofNat]
      rw [if_neg (by omega), if_neg (by omega)]
      simp only [dyadicOf?]
      congr 2 <;> omega
    · obtain rfl : e = -1074 := by omega
      rw [ofFloat?_of_toBits (BitVec.isLt _) (BitVec.isLt _)
        (hbits (pack_subnormal hm (by omega)))]
      have hF : (BitVec.ofNat 52 m).toNat = m := by
        rw [BitVec.toNat_ofNat, Nat.mod_eq_of_lt (by omega)]
      rw [hF]
      rfl

/-- **The exact value of a number in its unpacked form.** -/
theorem ofFloat?_eq (x : Float) : Dyadic.ofFloat? x = dyadicOf? (unpacked x) := by
  rw [← ofFloat?_packed (representable_unpacked x), packed_unpacked]

end OneUnknown
