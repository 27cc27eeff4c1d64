import OneUnknown.Proofs.Number.ExactValue
import OneUnknown.Quadratic

/-!
# The computed discriminant

The discriminant of an equation with whole coefficients is in the exact range, or it is computed in
floating-point arithmetic, with an error of a few roundings of the greater of its two terms. So is
the threshold below which it counts as zero.

* **`exactDiscriminant?_eq`**: the exact range;
* `IsExactly`: a number that is exactly a whole number;
* `discriminantSize`: the greater term;
* `TermErrors`, `termErrors`: the terms as they are computed;
* **`TermErrors.discriminant_error`**: the discriminant as it is computed;
* **`TermErrors.threshold_error`**: the threshold.
-/

namespace OneUnknown

/-! ## The exact range -/

/-- **A natural number is in the exact range** up to one more than two to the 53, which is rounded
to it. -/
theorem ofNat_le_exactLimit_iff {n : Nat} (h : (n : ℚ) < 2 ^ (1023 : Int)) :
    Float.ofNat n ≤ exactLimit ↔ n ≤ 2 ^ 53 + 1 := by
  obtain ⟨hfinite, herror⟩ := near_ofNat h
  have hvalue : Float.ofNat n ≤ exactLimit ↔ exactValue (Float.ofNat n) ≤ 2 ^ 53 := by
    rw [le_iff_exactValue hfinite (by decide), exactValue_exactLimit]
  rcases Nat.lt_or_ge n (2 ^ 53) with hlt | hge
  · rw [hvalue, exactValue_ofNat hlt]
    have : (n : ℚ) ≤ 2 ^ 53 := by exact_mod_cast hlt.le
    exact iff_of_true this (by omega)
  obtain rfl | rfl | hgt : n = 2 ^ 53 ∨ n = 2 ^ 53 + 1 ∨ 2 ^ 53 + 2 ≤ n := by omega
  · exact iff_of_true (by decide) (by decide)
  · exact iff_of_true (by decide) (by decide)
  · have hlarge : (2 ^ 53 + 2 : ℚ) ≤ n := by exact_mod_cast hgt
    have hlow := (abs_le.mp herror).1
    rw [Nat.abs_cast] at hlow
    have hlt : (2 : ℚ) ^ 53 < exactValue (Float.ofNat n) := by linarith
    exact iff_of_false (hvalue.not.mpr hlt.not_ge) (by omega)

theorem exactDiscriminant?_eq {a b c : Int}
    (h : |((b * b - 4 * a * c : Int) : ℚ)| < 2 ^ (1023 : Int)) : exactDiscriminant? a b c =
      if |b * b - 4 * a * c| ≤ 2 ^ 53 + 1 then some (b * b - 4 * a * c) else none := by
  have hcast : (((b * b - 4 * a * c).natAbs : Nat) : ℚ) = |((b * b - 4 * a * c : Int) : ℚ)| := by
    rw [Nat.cast_natAbs, Int.cast_abs]
  have hiff := ofNat_le_exactLimit_iff (hcast ▸ h)
  have habs : (b * b - 4 * a * c).natAbs ≤ 2 ^ 53 + 1 ↔ |b * b - 4 * a * c| ≤ 2 ^ 53 + 1 := by
    rw [Int.abs_eq_natAbs]
    omega
  simp only [exactDiscriminant?, hiff, habs]

/-! ## The computed discriminant -/

/-- **The number is exactly a whole number.** -/
def IsExactly (x : Float) (z : Int) : Prop := x.isFinite = true ∧ exactValue x = z

theorem IsExactly.asInteger? {x : Float} {z : Int} (h : IsExactly x z) (hz : |z| ≤ 2 ^ 53) :
    asInteger? x = some z :=
  asInteger?_of_exactValue h.1 h.2 hz

theorem IsExactly.neg {x : Float} {z : Int} (h : IsExactly x z) : IsExactly (-x) (-z) := by
  refine ⟨by rw [neg_isFinite, h.1], ?_⟩
  rw [exactValue_neg, h.2, Int.cast_neg]

theorem isExactly_ofNat {n : Nat} (h : n < 2 ^ 53) : IsExactly (Float.ofNat n) n := by
  refine ⟨(near_ofNat ?_).1, by rw [exactValue_ofNat h, Int.cast_natCast]⟩
  refine lt_trans ?_ (two_pow_lt_range (k := 53) (by decide))
  exact_mod_cast h

section Discriminant

variable {x y z : Float} {a b c : Int} (hx : IsExactly x a) (hy : IsExactly y b)
  (hz : IsExactly z c) (ha : |a| ≤ 2 ^ 53) (hb : |b| ≤ 2 ^ 53) (hc : |c| ≤ 2 ^ 53)

/-- The greater of the two terms that the discriminant is the difference of. -/
def discriminantSize (a b c : Int) : Int := max (b * b) |4 * a * c|

theorem cast_abs_le {z : Int} (h : |z| ≤ 2 ^ 53) : |(z : ℚ)| ≤ 2 ^ 53 := by
  exact_mod_cast h

theorem eq_zero_or_one_le (z : Int) : (z : ℚ) = 0 ∨ 1 ≤ |(z : ℚ)| := by
  rcases eq_or_ne z 0 with rfl | hne
  · exact .inl Int.cast_zero
  · exact .inr (by exact_mod_cast Int.one_le_abs hne)

include hy hb in
theorem near_square : Near (y * y) (b * b : Int) := by
  have hb' := cast_abs_le hb
  refine near_mul_of_le hy.1 hy.1 (by rw [hy.2]; push_cast; rfl) ?_ ?_
  · refine (eq_zero_or_one_le (b * b)).imp_right fun h => le_trans ?_ h
    norm_num
  · push_cast
    rw [abs_mul]
    nlinarith [abs_nonneg (b : ℚ)]

include hx ha in
theorem near_four : Near (4 * x) (4 * a : Int) := by
  have hfour : exactValue 4 = 4 := exactValue_ofNat (n := 4) (by decide)
  have ha' := cast_abs_le ha
  refine near_mul_of_le (by decide) hx.1 (by rw [hfour, hx.2]; push_cast; rfl) ?_ ?_
  · refine (eq_zero_or_one_le (4 * a)).imp_right fun h => le_trans ?_ h
    norm_num
  · push_cast
    rw [abs_mul, abs_of_pos (show (0 : ℚ) < 4 by norm_num)]
    norm_num at ha' ⊢
    linarith

include hx hz ha hc in
theorem product_error : (4 * x * z).isFinite = true ∧
    |exactValue (4 * x * z) - (4 * a * c : Int)| ≤ 3 / 2 ^ 53 * |((4 * a * c : Int) : ℚ)| := by
  obtain ⟨hfinite, hfour⟩ := near_four hx ha
  have hc' := cast_abs_le hc
  have ha' : |((4 * a : Int) : ℚ)| ≤ 2 ^ 55 := by
    have := cast_abs_le ha
    push_cast
    rw [abs_mul, abs_of_pos (show (0 : ℚ) < 4 by norm_num)]
    norm_num at this ⊢
    linarith
  obtain ⟨F, hF⟩ : ∃ F, exactValue (4 * x) = F := ⟨_, rfl⟩
  rw [hF] at hfour
  have hcast : ((4 * a * c : Int) : ℚ) = (4 * a : Int) * c := by push_cast; ring
  have hfirst : |F * c - (4 * a : Int) * c| ≤ |((4 * a : Int) : ℚ)| * |(c : ℚ)| / 2 ^ 53 := by
    rw [← sub_mul, abs_mul, mul_div_right_comm]
    gcongr
  have hterm : |F * c| ≤ (1 + 1 / 2 ^ 53) * (|((4 * a : Int) : ℚ)| * |(c : ℚ)|) := by
    rw [abs_mul, ← mul_assoc]
    have := abs_le_of_abs_sub_le hfour
    gcongr
  have hproduct : Near (4 * x * z) (F * c) := by
    refine near_mul_of_le hfinite hz.1 (by rw [hF, hz.2]) ?_ ?_
    · rcases eq_zero_or_one_le (4 * a) with hzero | hone
      · rw [hzero, abs_zero, zero_div, sub_zero] at hfour
        exact .inl (by rw [abs_nonpos_iff.mp hfour, zero_mul])
      · refine (eq_zero_or_one_le c).imp (fun h => by rw [h, mul_zero]) fun hone' => ?_
        have hF' := le_abs_of_abs_sub_le hfour
        rw [abs_mul]
        norm_num at hF' hone hone' ⊢
        nlinarith
    · norm_num at hterm ha' hc' ⊢
      nlinarith [abs_nonneg (c : ℚ), abs_nonneg (a : ℚ)]
  refine ⟨hproduct.1, ?_⟩
  rw [hcast, abs_mul]
  have htriangle := abs_sub_le (exactValue (4 * x * z)) (F * c) ((4 * a : Int) * c)
  have hnonneg : 0 ≤ |((4 * a : Int) : ℚ)| * |(c : ℚ)| := by positivity
  have hlast := hproduct.2
  norm_num at hterm hlast hfirst htriangle hnonneg ⊢
  linarith

theorem abs_discriminant_le (a b c : Int) :
    |b * b - 4 * a * c| ≤ 2 * discriminantSize a b c := by
  have h₁ : |b * b| ≤ discriminantSize a b c := by
    rw [abs_of_nonneg (mul_self_nonneg b)]
    exact le_max_left _ _
  have h₂ : |4 * a * c| ≤ discriminantSize a b c := le_max_right _ _
  have h₃ := abs_sub (b * b) (4 * a * c)
  omega

/-- What the terms of the discriminant come to when they are computed. -/
structure TermErrors (s p : Float) (a b c : Int) : Prop where
  square : s.isFinite = true
  product : p.isFinite = true
  square_error : |exactValue s - (b * b : Int)| ≤ 1 / 2 ^ 53 * discriminantSize a b c
  product_error : |exactValue p - (4 * a * c : Int)| ≤ 3 / 2 ^ 53 * discriminantSize a b c

theorem abs_square_le (a b c : Int) : |((b * b : Int) : ℚ)| ≤ discriminantSize a b c := by
  rw [abs_of_nonneg (by exact_mod_cast mul_self_nonneg b)]
  exact_mod_cast le_max_left (b * b) |4 * a * c|

theorem abs_product_le (a b c : Int) : |((4 * a * c : Int) : ℚ)| ≤ discriminantSize a b c := by
  exact_mod_cast le_max_right (b * b) |4 * a * c|

include ha hb hc in
theorem discriminantSize_le : (discriminantSize a b c : ℚ) ≤ 2 ^ 108 := by
  have hsq : b * b ≤ 2 ^ 108 := by
    rw [← abs_mul_abs_self b]
    nlinarith [abs_nonneg b]
  have hprod : |4 * a * c| ≤ 2 ^ 108 := by
    rw [abs_mul, abs_mul, abs_of_pos (show (0 : Int) < 4 by decide)]
    nlinarith [abs_nonneg a, abs_nonneg c]
  exact_mod_cast max_le hsq hprod

include hx hy hz ha hb hc in
theorem termErrors : TermErrors (y * y) (4 * x * z) a b c := by
  obtain ⟨hfinite, hsquare⟩ := near_square hy hb
  obtain ⟨hfinite', hproduct⟩ := product_error hx hz ha hc
  have h₁ := abs_square_le a b c
  have h₂ := abs_product_le a b c
  refine ⟨hfinite, hfinite', ?_, ?_⟩
  · have := abs_nonneg ((b * b : Int) : ℚ)
    norm_num at hsquare h₁ this ⊢
    linarith
  · refine hproduct.trans ?_
    gcongr

end Discriminant

section Comparison

variable {s p : Float} {a b c : Int}

theorem difference_error {S P X Y M Δ : ℚ} (hX : |X| ≤ M) (hY : |Y| ≤ M)
    (hS : |S - X| ≤ 1 / 2 ^ 53 * M) (hP : |P - Y| ≤ 3 / 2 ^ 53 * M) :
    |S - P| ≤ 3 * M ∧ (|Δ - (S - P)| ≤ |S - P| / 2 ^ 53 → |Δ - (X - Y)| ≤ 7 / 2 ^ 53 * M) := by
  have hsplit : S - P = (S - X) - (P - Y) + (X - Y) := by ring
  have hterms : |S - P| ≤ 3 * M := by
    have h₁ := abs_add_le ((S - X) - (P - Y)) (X - Y)
    have h₂ := abs_sub (S - X) (P - Y)
    have h₃ := abs_sub X Y
    have hM := (abs_nonneg X).trans hX
    rw [← hsplit] at h₁
    norm_num at hS hP ⊢
    linarith
  refine ⟨hterms, fun hΔ => ?_⟩
  have hsplit' : Δ - (X - Y) = (Δ - (S - P)) + ((S - X) - (P - Y)) := by ring
  have h₁ := abs_add_le (Δ - (S - P)) ((S - X) - (P - Y))
  have h₂ := abs_sub (S - X) (P - Y)
  rw [hsplit']
  norm_num at hS hP hΔ ⊢
  linarith

/-- **The computed discriminant** is off by a few roundings of the greater term. -/
theorem TermErrors.discriminant_error (h : TermErrors s p a b c)
    (hsize : (discriminantSize a b c : ℚ) ≤ 2 ^ 108) : (s - p).isFinite = true ∧
    |exactValue (s - p) - (b * b - 4 * a * c : Int)| ≤ 7 / 2 ^ 53 * discriminantSize a b c := by
  obtain ⟨hs, hp, hsquare, hproduct⟩ := h
  obtain ⟨hbound, herror⟩ := difference_error (Δ := exactValue (s - p)) (abs_square_le a b c)
    (abs_product_le a b c) hsquare hproduct
  have hrange : |exactValue s - exactValue p| < 2 ^ (1023 : Int) := by
    refine lt_of_le_of_lt (hbound.trans ?_) (two_pow_lt_range (k := 110) (by decide))
    norm_num at hsize ⊢
    linarith
  obtain ⟨hfinite, hnear⟩ := near_sub hs hp hrange
  refine ⟨hfinite, ?_⟩
  push_cast at herror ⊢
  exact herror hnear

/-! ## The threshold -/

theorem exactValue_greater {x y : Float} (hx : x.isFinite) (hy : y.isFinite) :
    (greater x y).isFinite = true ∧
      exactValue (greater x y) = max (exactValue x) (exactValue y) := by
  have hnan : ∀ {x : Float}, x.isFinite → x.isNaN = false := by
    intro x hx
    change (unpacked x).isNaN = false
    rcases isFinite_iff.mp hx with ⟨s, h⟩ | ⟨s, m, e, hm, h⟩ <;> rw [h] <;> rfl
  simp only [greater, hnan hx, hnan hy, Bool.false_eq_true, if_false]
  by_cases h : x < y
  · rw [if_pos h]
    exact ⟨hy, (max_eq_right ((lt_iff_exactValue hx hy).mp h).le).symm⟩
  · rw [if_neg h]
    exact ⟨hx, (max_eq_left (not_lt.mp ((lt_iff_exactValue hx hy).not.mp h))).symm⟩

theorem exactValue_discriminantTolerance :
    |exactValue discriminantTolerance - 1 / 10 ^ 12| ≤ 1 / 10 ^ 12 / 2 ^ 53 := by
  have hc : Representable (.finite .positive 4951760157141521 (-92) (by decide)) :=
    ⟨by decide, by decide, by decide, by decide⟩
  have h : discriminantTolerance =
      packed (.finite .positive 4951760157141521 (-92) (by decide)) := by decide
  rw [h, exactValue_eq, unpacked_packed hc, abs_le]
  constructor <;> norm_num [valueOf, signedValue, Float.Model.UnpackedFloat.Sign.apply]

theorem scaled_error {τ ε Z M T : ℚ} (hε : 0 ≤ ε) (hM : 0 ≤ M) (hτ : |τ - ε| ≤ ε / 2 ^ 53)
    (hZ : |Z - M| ≤ 3 / 2 ^ 53 * M) (hT : |T - τ * Z| ≤ |τ * Z| / 2 ^ 53) :
    |T - ε * M| ≤ 6 / 2 ^ 53 * (ε * M) := by
  have hZ' : |Z| ≤ (1 + 3 / 2 ^ 53) * M := by
    have := abs_sub_abs_le_abs_sub Z M
    rw [abs_of_nonneg hM] at this
    linarith
  have hτ' : |τ| ≤ (1 + 1 / 2 ^ 53) * ε := by
    have := abs_sub_abs_le_abs_sub τ ε
    rw [abs_of_nonneg hε] at this
    linarith
  have hproduct : |τ * Z| ≤ (1 + 1 / 2 ^ 53) * (1 + 3 / 2 ^ 53) * (ε * M) := by
    calc |τ * Z| = |τ| * |Z| := abs_mul τ Z
      _ ≤ (1 + 1 / 2 ^ 53) * ε * ((1 + 3 / 2 ^ 53) * M) := by gcongr
      _ = (1 + 1 / 2 ^ 53) * (1 + 3 / 2 ^ 53) * (ε * M) := by ring
  have hfirst : |(τ - ε) * Z| ≤ (1 + 3 / 2 ^ 53) / 2 ^ 53 * (ε * M) := by
    calc |(τ - ε) * Z| = |τ - ε| * |Z| := abs_mul _ Z
      _ ≤ ε / 2 ^ 53 * ((1 + 3 / 2 ^ 53) * M) := by gcongr
      _ = (1 + 3 / 2 ^ 53) / 2 ^ 53 * (ε * M) := by ring
  have hsecond : |ε * (Z - M)| ≤ 3 / 2 ^ 53 * (ε * M) := by
    calc |ε * (Z - M)| = ε * |Z - M| := by rw [abs_mul, abs_of_nonneg hε]
      _ ≤ ε * (3 / 2 ^ 53 * M) := by gcongr
      _ = 3 / 2 ^ 53 * (ε * M) := by ring
  have hpos : 0 ≤ ε * M := mul_nonneg hε hM
  calc |T - ε * M| = |(T - τ * Z) + ((τ - ε) * Z + ε * (Z - M))| := by ring_nf
    _ ≤ |T - τ * Z| + (|(τ - ε) * Z| + |ε * (Z - M)|) :=
      (abs_add_le _ _).trans (add_le_add_right (abs_add_le _ _) _)
    _ ≤ 6 / 2 ^ 53 * (ε * M) := by linarith

theorem discriminantTolerance_bounds :
    1 / 10 ^ 13 ≤ exactValue discriminantTolerance ∧ exactValue discriminantTolerance ≤ 1 := by
  have h := abs_le.mp exactValue_discriminantTolerance
  norm_num at h ⊢
  constructor <;> linarith

theorem TermErrors.greater_error (h : TermErrors s p a b c) :
    (greater s p.abs).isFinite = true ∧
    |exactValue (greater s p.abs) - discriminantSize a b c| ≤
      3 / 2 ^ 53 * (discriminantSize a b c : ℚ) := by
  obtain ⟨hs, hp, hsquare, hproduct⟩ := h
  obtain ⟨hfinite, hgreater⟩ :=
    exactValue_greater hs (show p.abs.isFinite = true by rwa [abs_isFinite])
  have hsize : (discriminantSize a b c : ℚ) =
      max ((b * b : Int) : ℚ) |((4 * a * c : Int) : ℚ)| := by
    rw [discriminantSize]
    push_cast
    rfl
  refine ⟨hfinite, ?_⟩
  rw [hgreater, exactValue_abs]
  conv_lhs => rw [hsize]
  refine (abs_max_sub_max_le_max _ _ _ _).trans (max_le ?_ ?_)
  · have hnonneg := (abs_nonneg _).trans (abs_square_le a b c)
    refine hsquare.trans ?_
    gcongr
    norm_num
  · exact (abs_abs_sub_abs_le_abs_sub _ _).trans hproduct

/-- **The threshold** below which a discriminant counts as zero. -/
theorem TermErrors.threshold_error (h : TermErrors s p a b c)
    (hsize : (discriminantSize a b c : ℚ) ≤ 2 ^ 108) (hpos : 1 ≤ discriminantSize a b c) :
    (discriminantTolerance * greater s p.abs).isFinite = true ∧
    |exactValue (discriminantTolerance * greater s p.abs) -
        1 / 10 ^ 12 * (discriminantSize a b c : ℚ)| ≤
      6 / 2 ^ 53 * (1 / 10 ^ 12 * (discriminantSize a b c : ℚ)) := by
  obtain ⟨hfinite, hZ⟩ := h.greater_error
  have hone : (1 : ℚ) ≤ discriminantSize a b c := by exact_mod_cast hpos
  have hτ := exactValue_discriminantTolerance
  obtain ⟨hτ₁, hτ₂⟩ := discriminantTolerance_bounds
  generalize hzdef : exactValue (greater s p.abs) = Z at hZ
  generalize htdef : exactValue discriminantTolerance = τ at hτ hτ₁ hτ₂
  generalize (discriminantSize a b c : ℚ) = M at *
  obtain ⟨hZ₁, hZ₂⟩ : 1 / 2 ≤ Z ∧ Z ≤ 2 ^ 109 := by
    rw [abs_le] at hZ
    norm_num at hZ hone hsize ⊢
    constructor <;> linarith
  have hpositive : |τ * Z| = τ * Z := abs_of_nonneg (mul_nonneg (by linarith) (by linarith))
  have hlow : 1 / 2 ^ 100 ≤ |τ * Z| := by
    rw [hpositive]
    calc (1 : ℚ) / 2 ^ 100 ≤ 1 / 10 ^ 13 * (1 / 2) := by norm_num
      _ ≤ τ * Z := by gcongr
  have hhigh : |τ * Z| ≤ 2 ^ 200 := by
    rw [hpositive]
    calc τ * Z ≤ 1 * 2 ^ 109 := by gcongr
      _ ≤ 2 ^ 200 := by norm_num
  obtain ⟨hfinite', hT⟩ := near_mul_of_le (x := discriminantTolerance) (by decide) hfinite
    (by rw [htdef, hzdef]) (.inr hlow) hhigh
  exact ⟨hfinite', scaled_error (by norm_num) (by linarith) hτ hZ hT⟩

end Comparison

end OneUnknown
