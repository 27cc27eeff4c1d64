import OneUnknown.Proofs.Number.Arithmetic

/-!
# The total order of floating-point numbers

The comparison `<` does not tell the two zeros apart and leaves out what is no number. The total
order puts these in places of their own. It is computed from the bits of a number, which count up
with its magnitude: a greater exponent outweighs all significands.

* `rankOf`, `totalKey_eq`: the rank of a value in its unpacked form;
* `IsCanonical.compare_eq_lt_iff`: of two finite numbers the one of lower rank is less;
* `InTotalOrder`, **`totalKey_le_iff`**: ascending ranks are ascending numbers.
-/

namespace OneUnknown

open Float.Model Float.Model.UnpackedFloat
open Float.Model.Format (binary64)

/-! ## Ranks -/

/-- The rank of a number with the given sign, its magnitude having the given rank. -/
def signedRank : Sign → Int → Int
  | .positive, rank => rank
  | .negative, rank => -rank - 1

/-- The rank of the magnitude of a finite number. -/
def finiteRank (m : Nat) (e : Int) : Int := (e + 1074) * 2 ^ 52 + m

/-- **The rank of a value in its unpacked form.** -/
def rankOf : UnpackedFloat → Int
  | .zero s => signedRank s 0
  | .finite s m e _ => signedRank s (finiteRank m e)
  | .infinity s => signedRank s (2047 * 2 ^ 52)
  | .notANumber => 2047 * 2 ^ 52 + 2 ^ 51

theorem totalKey_of_toBits {x : Float} {s : Sign} {E F : Nat} (hE : E < 2 ^ 11) (hF : F < 2 ^ 52)
    (h : x.toBits.toNat = s.toBitVec.toNat * 2 ^ 63 + E * 2 ^ 52 + F) :
    totalKey x = signedRank s (E * 2 ^ 52 + F) := by
  cases s with
  | negative =>
    simp only [Sign.toBitVec, BitVec.toNat_ofNat] at h
    simp only [totalKey, Nat.pow_eq, h, signedRank]
    rw [if_neg (by omega)]
    omega
  | positive =>
    simp only [Sign.toBitVec, BitVec.toNat_ofNat] at h
    simp only [totalKey, Nat.pow_eq, h, signedRank]
    rw [if_pos (by omega)]
    omega

theorem totalKey_packed {f : UnpackedFloat} (h : Representable f) :
    totalKey (packed f) = rankOf f := by
  have hbits : ∀ {s : Sign} {E : BitVec 11} {F : BitVec 52},
      UnpackedFloat.pack binary64 f = packComponents binary64 s E F →
      totalKey (packed f) = signedRank s (E.toNat * 2 ^ 52 + F.toNat) := fun hp =>
    totalKey_of_toBits (BitVec.isLt _) (BitVec.isLt _)
      ((congrArg BitVec.toNat hp).trans (toNat_packComponents _ _ _))
  rcases f with s | _ | s | ⟨s, m, e, hm⟩
  · exact (hbits rfl).trans (congrArg (signedRank s) (by decide))
  · exact (hbits rfl).trans (by decide)
  · exact (hbits rfl).trans (congrArg (signedRank s) (by decide))
  · obtain ⟨hlt, hlo, hhi, hfull⟩ := h
    by_cases hn : 2 ^ 52 ≤ m
    · rw [hbits (pack_normal hm hn hlt hhi), rankOf, finiteRank]
      congr 1
      simp only [BitVec.toNat_ofNat]
      omega
    · obtain rfl : e = -1074 := by omega
      rw [hbits (pack_subnormal hm (by omega)), rankOf, finiteRank]
      congr 1
      simp only [BitVec.toNat_ofNat]
      omega

theorem totalKey_eq (x : Float) : totalKey x = rankOf (unpacked x) := by
  rw [← totalKey_packed (representable_unpacked x), packed_unpacked]

/-! ## Comparisons -/

section Comparisons

variable {m n : Nat} {e d : Int}

theorem IsCanonical.finiteRank_bounds (h : IsCanonical m e) (hm : 0 < m) :
    0 < finiteRank m e ∧ finiteRank m e < 2047 * 2 ^ 52 := by
  obtain ⟨hlt, hlo, hhi, -⟩ := h
  unfold finiteRank
  omega

theorem IsCanonical.finiteRank_inj (hm : IsCanonical m e) (hn : IsCanonical n d) :
    finiteRank m e = finiteRank n d ↔ m = n ∧ e = d := by
  obtain ⟨hmlt, hmlo, -, hmfull⟩ := hm
  obtain ⟨hnlt, hnlo, -, hnfull⟩ := hn
  unfold finiteRank
  omega

/-- **Of two magnitudes the one of lower rank is less.** -/
theorem IsCanonical.compare_eq_lt_iff (hm : IsCanonical m e) (hn : IsCanonical n d) :
    (compare e d).then (compare m n) = .lt ↔ finiteRank m e < finiteRank n d := by
  obtain ⟨hmlt, hmlo, -, hmfull⟩ := hm
  obtain ⟨hnlt, hnlo, -, hnfull⟩ := hn
  rw [Ordering.then_eq_lt, Int.compare_eq_lt, compare_eq_iff_eq, Nat.compare_eq_lt]
  unfold finiteRank
  omega

theorem IsCanonical.finiteRank_le_iff (hm : IsCanonical m e) (hn : IsCanonical n d) :
    finiteRank m e ≤ finiteRank n d ↔
      (compare e d).then (compare m n) = .lt ∨ (m = n ∧ e = d) := by
  rw [hm.compare_eq_lt_iff hn, ← hm.finiteRank_inj hn]
  omega

theorem rankOf_finite_le_iff {s t : Sign} {hm₀ : 0 < m} {hn₀ : 0 < n} (hm : IsCanonical m e)
    (hn : IsCanonical n d) : rankOf (.finite s m e hm₀) ≤ rankOf (.finite t n d hn₀) ↔
      (UnpackedFloat.finite s m e hm₀).compare (.finite t n d hn₀) = some .lt ∨
        UnpackedFloat.finite s m e hm₀ = .finite t n d hn₀ := by
  have hmpos := (hm.finiteRank_bounds hm₀).1
  have hnpos := (hn.finiteRank_bounds hn₀).1
  rcases s with _ | _ <;> rcases t with _ | _ <;>
    simp only [rankOf, signedRank, UnpackedFloat.compare]
  case negative.negative =>
    have hswap : ((compare e d).then (compare m n)).swap = (compare d e).then (compare n m) := by
      rw [Ordering.swap_then, Int.compare_swap, Nat.compare_swap]
    have hle := hn.finiteRank_le_iff hm
    rw [hswap]
    simp only [Option.some.injEq, UnpackedFloat.finite.injEq, true_and]
    rw [eq_comm (a := m), eq_comm (a := e), ← hle]
    omega
  case negative.positive => exact iff_of_true (by omega) (.inl trivial)
  case positive.negative => exact iff_of_false (by omega) (by simp)
  case positive.positive =>
    simpa using hm.finiteRank_le_iff hn

end Comparisons

/-- **The values in ascending order**, told by their ranks. -/
theorem rankOf_le_iff {f g : UnpackedFloat} (hf : Representable f) (hg : Representable g) :
    rankOf f ≤ rankOf g ↔ f.compare g = some .lt ∨ f = g ∨
      (f = .zero .negative ∧ g = .zero .positive) ∨ g = .notANumber := by
  have hsigns : compare Sign.negative Sign.positive = .lt := rfl
  rcases f with (_ | _) | _ | (_ | _) | ⟨s, m, e, hm⟩
  case finite =>
    obtain ⟨hpos, hlt⟩ := IsCanonical.finiteRank_bounds hf hm
    rcases g with (_ | _) | _ | (_ | _) | ⟨t, n, d, hn⟩
    case finite =>
      rw [rankOf_finite_le_iff hf hg]
      simp
    all_goals cases s <;> simp [rankOf, signedRank, UnpackedFloat.compare] <;> omega
  all_goals
    rcases g with (_ | _) | _ | (_ | _) | ⟨t, n, d, hn⟩
    case finite =>
      obtain ⟨hpos, hlt⟩ := IsCanonical.finiteRank_bounds hg hn
      cases t <;> simp [rankOf, signedRank, UnpackedFloat.compare] <;> omega
    all_goals simp [rankOf, signedRank, UnpackedFloat.compare, hsigns]

/-! ## Numbers -/

/-- **The total order of numbers**: by value, `-0` before `0`, and what is no number behind all
numbers. -/
def InTotalOrder (x y : Float) : Prop :=
  x < y ∨ x = y ∨ (x = -0 ∧ y = 0) ∨ y.isNaN = true

/-- **Ascending ranks are ascending numbers.** -/
theorem totalKey_le_iff {x y : Float} : totalKey x ≤ totalKey y ↔ InTotalOrder x y := by
  have hzero : ∀ {x : Float}, unpacked x = .zero .positive ↔ x = 0 := by
    intro x
    rw [← unpacked_zero]
    exact ⟨unpacked_injective, congrArg unpacked⟩
  have hneg : unpacked x = .zero .negative ↔ x = -0 := by
    rw [show UnpackedFloat.zero .negative = unpacked (-0) by rw [unpacked_neg, unpacked_zero]; rfl]
    exact ⟨unpacked_injective, congrArg unpacked⟩
  have hnan : y.isNaN = true ↔ unpacked y = .notANumber := by
    change (unpacked y).isNaN = true ↔ _
    cases unpacked y <;> simp [UnpackedFloat.isNaN]
  rw [totalKey_eq, totalKey_eq, rankOf_le_iff (representable_unpacked x) (representable_unpacked y),
    InTotalOrder, lt_iff, hzero, hneg, hnan]
  have heq : unpacked x = unpacked y ↔ x = y := ⟨unpacked_injective, congrArg unpacked⟩
  rw [heq]

end OneUnknown
