import OneUnknown.Proofs.Quadratic.Discriminant
import OneUnknown.Proofs.Quadratic.Layouts

/-!
# The kind of answer and the sign of the discriminant

With whole coefficients an answer goes by the sign of the discriminant, as long as the discriminant
is in the exact range or not too small beside the terms that it is the difference of. Outside of the
exact range less than about 10⁻¹² of the greater term counts as zero.

* `Quadratic.sign_of_estimates`: what the comparison with the threshold tells;
* **`Quadratic.kind_roots_of_isExactly`**: the kind of the computed solutions;
* `Quadratic.IsExact`: coefficients that are whole numbers of at most 53 bits;
* **`Quadratic.rootsText_kind`**: the kind of answer;
* `Quadratic.positive_discriminant_one_root`: a discriminant that counts as zero.
-/

namespace OneUnknown

namespace Quadratic

theorem kind_roots (x y z : Float) : (roots x y z).kind =
    if (y * y - 4 * x * z).abs ≤ discriminantTolerance * greater (y * y) (4 * x * z).abs then .one
    else if 0 < y * y - 4 * x * z then .two else .conjugate := by
  simp only [roots]
  split
  · rfl
  · split <;> rfl

theorem kindOfSign_iff (D : Int) : (kindOfSign D = .two ↔ 0 < D) ∧ (kindOfSign D = .one ↔ D = 0) ∧
    (kindOfSign D = .conjugate ↔ D < 0) := by
  unfold kindOfSign
  rcases lt_trichotomy D 0 with hneg | rfl | hpos
  · rw [if_neg hneg.not_gt, if_neg hneg.ne]
    exact ⟨by simpa using hneg.le, by simpa using hneg.ne, by simpa using hneg⟩
  · decide
  · rw [if_pos hpos]
    exact ⟨by simpa using hpos, by simpa using hpos.ne', by simpa using hpos.le⟩

/-- What can be told of a discriminant that is known up to an error, when it is compared with a
threshold that is also known up to an error. -/
theorem sign_of_estimates {D M Δ T : ℚ} (hM : 1 ≤ M) (hΔ : |Δ - D| ≤ 7 / 2 ^ 53 * M)
    (hT : |T - 1 / 10 ^ 12 * M| ≤ 6 / 2 ^ 53 * (1 / 10 ^ 12 * M)) :
    (T < |Δ| → (0 < Δ ↔ 0 < D) ∧ D ≠ 0) ∧ (1001 * M < 10 ^ 15 * |D| → T < |Δ|) ∧
      (10 ^ 15 * |D| ≤ 999 * M → |Δ| ≤ T) := by
  have hdistance := abs_abs_sub_abs_le_abs_sub Δ D
  rw [abs_le] at hT
  norm_num at hΔ hT
  refine ⟨fun hlt => ?_, fun hlarge => ?_, fun hsmall => ?_⟩
  · rw [abs_le] at hΔ
    rcases lt_abs.mp hlt with hpos | hneg
    · have hD : 0 < D := by linarith
      exact ⟨iff_of_true (by linarith) hD, hD.ne'⟩
    · have hD : D < 0 := by linarith
      exact ⟨iff_of_false (by linarith) hD.not_gt, hD.ne⟩
  · have := (abs_le.mp (hdistance.trans hΔ)).1
    linarith
  · have := (abs_le.mp (hdistance.trans hΔ)).2
    linarith

/-- **The kind of the computed solutions**, for coefficients that are whole numbers. -/
theorem kind_roots_of_isExactly {x y z : Float} {a b c : Int} (hx : IsExactly x a)
    (hy : IsExactly y b) (hz : IsExactly z c) (ha : |a| ≤ 2 ^ 53) (hb : |b| ≤ 2 ^ 53)
    (hc : |c| ≤ 2 ^ 53) (hpos : 1 ≤ discriminantSize a b c) :
    let D := b * b - 4 * a * c
    ((roots x y z).kind = .one ∨ D ≠ 0 ∧ (roots x y z).kind = kindOfSign D) ∧
      (1001 * discriminantSize a b c < 10 ^ 15 * |D| → (roots x y z).kind = kindOfSign D) ∧
      (10 ^ 15 * |D| ≤ 999 * discriminantSize a b c → (roots x y z).kind = .one) := by
  intro D
  have hterms := termErrors hx hy hz ha hb hc
  have hsize := discriminantSize_le ha hb hc
  obtain ⟨hfinite, hΔ⟩ := hterms.discriminant_error hsize
  obtain ⟨hfinite', hT⟩ := hterms.threshold_error hsize hpos
  have hM : (1 : ℚ) ≤ discriminantSize a b c := by exact_mod_cast hpos
  obtain ⟨hsign, hlarge, hsmall⟩ := sign_of_estimates hM hΔ hT
  have hcompare := le_iff_exactValue (x := (y * y - 4 * x * z).abs) (by rwa [abs_isFinite]) hfinite'
  rw [exactValue_abs] at hcompare
  have hpositive := lt_iff_exactValue (x := 0) (by decide) hfinite
  rw [exactValue_zero] at hpositive
  have hcast : |((b * b - 4 * a * c : Int) : ℚ)| = (|D| : Int) := (Int.cast_abs).symm
  rw [kind_roots]
  by_cases hone : (y * y - 4 * x * z).abs ≤ discriminantTolerance * greater (y * y) (4 * x * z).abs
  · rw [if_pos hone]
    refine ⟨.inl rfl, fun h => ?_, fun _ => rfl⟩
    refine absurd (hcompare.mp hone) (hlarge ?_).not_ge
    rw [hcast]
    exact_mod_cast h
  · rw [if_neg hone]
    obtain ⟨hiff, hne⟩ := hsign (not_le.mp (hcompare.not.mp hone))
    have hD : D ≠ 0 := by exact_mod_cast hne
    have hkind : (if 0 < y * y - 4 * x * z then RootKind.two else .conjugate) = kindOfSign D := by
      have hiff' : 0 < y * y - 4 * x * z ↔ 0 < D :=
        hpositive.trans (hiff.trans (by exact_mod_cast Iff.rfl))
      simp only [kindOfSign, hiff', hD, if_false]
    refine ⟨.inr ⟨hD, hkind⟩, fun _ => hkind, fun h => ?_⟩
    refine absurd (hcompare.mpr (hsmall ?_)) hone
    rw [hcast]
    exact_mod_cast h

/-- **The coefficients are whole numbers of at most 53 bits**, and the leading one is not zero. -/
structure IsExact (q : Quadratic) (a b c : Int) : Prop where
  leading : IsExactly q.a a
  linear : IsExactly q.b b
  constant : IsExactly q.c c
  leading_ne_zero : a ≠ 0
  leading_le : |a| ≤ 2 ^ 53
  linear_le : |b| ≤ 2 ^ 53
  constant_le : |c| ≤ 2 ^ 53

namespace IsExact

variable {q : Quadratic} {a b c : Int}

theorem rootsText_eq (h : q.IsExact a b c) (places : Nat) : q.rootsText places =
    if |b * b - 4 * a * c| ≤ 2 ^ 53 + 1 then exactText q.name a b (b * b - 4 * a * c)
    else .ok (q.decimalRoots places) := by
  have hrange : |((b * b - 4 * a * c : Int) : ℚ)| < 2 ^ (1023 : Int) := by
    refine lt_of_le_of_lt ?_ (two_pow_lt_range (k := 109) (by decide))
    have hsize := discriminantSize_le h.leading_le h.linear_le h.constant_le
    have hdisc : |((b * b - 4 * a * c : Int) : ℚ)| ≤ 2 * discriminantSize a b c := by
      exact_mod_cast abs_discriminant_le a b c
    norm_num at hsize hdisc ⊢
    linarith
  simp only [rootsText, h.leading.asInteger? h.leading_le, h.linear.asInteger? h.linear_le,
    h.constant.asInteger? h.constant_le, exactDiscriminant?_eq hrange]
  by_cases hle : |b * b - 4 * a * c| ≤ 2 ^ 53 + 1
  · rw [if_pos hle, if_pos hle]
  · rw [if_neg hle, if_neg hle]

end IsExact

/-- **The kind of answer follows the sign of the discriminant**, for coefficients that are whole
numbers of at most 53 bits. Two numbers are shown for a positive discriminant only, a conjugate pair
for a negative one only, and one number for a discriminant of zero. The converse holds in the exact
range, and also outside of it where the discriminant is more than 1.001 · 10⁻¹² of the greater term;
there a discriminant of at most 0.999 · 10⁻¹² of it counts as zero. -/
theorem rootsText_kind {q : Quadratic} {a b c : Int} (h : q.IsExact a b c) (places : Nat) :
    let D := b * b - 4 * a * c
    let M := discriminantSize a b c
    ∃ text kind, q.rootsText places = .ok text ∧ (∀ k, Shows q.name text k ↔ k = kind) ∧
      (kind = .two → 0 < D) ∧ (kind = .conjugate → D < 0) ∧ (D = 0 → kind = .one) ∧
      (|D| ≤ 2 ^ 53 + 1 ∨ 1001 * M < 10 ^ 15 * |D| →
        (kind = .two ↔ 0 < D) ∧ (kind = .one ↔ D = 0) ∧ (kind = .conjugate ↔ D < 0)) ∧
      (2 ^ 53 + 1 < |D| → 10 ^ 15 * |D| ≤ 999 * M → kind = .one) := by
  intro D M
  obtain ⟨htwo, hone, hconjugate⟩ := kindOfSign_iff D
  rw [h.rootsText_eq places]
  by_cases hexact : |D| ≤ 2 ^ 53 + 1
  · rw [if_pos hexact]
    obtain ⟨text, hok, hshows⟩ := exists_shows_exactText q.name h.leading_ne_zero b D
    exact ⟨text, kindOfSign D, hok, fun k => ⟨fun hk => hk.unique hshows, fun hk => hk ▸ hshows⟩,
      htwo.mp, hconjugate.mp, hone.mpr, fun _ => ⟨htwo, hone, hconjugate⟩,
      fun hlt => absurd hexact hlt.not_ge⟩
  · rw [if_neg hexact]
    have hM : 1 ≤ M := by
      have := abs_discriminant_le a b c
      change |D| ≤ 2 * M at this
      omega
    obtain ⟨heither, hlarge, hsmall⟩ := kind_roots_of_isExactly h.leading h.linear h.constant
      h.leading_le h.linear_le h.constant_le hM
    have hshows := shows_decimalRoots places q
    generalize (roots q.a q.b q.c).kind = kind at *
    refine ⟨_, kind, rfl, fun k => ⟨fun hk => hk.unique hshows, fun hk => hk ▸ hshows⟩,
      ?_, ?_, ?_, ?_, fun _ => hsmall⟩
    · rintro rfl
      obtain h | ⟨-, h⟩ := heither
      · cases h
      · exact htwo.mp h.symm
    · rintro rfl
      obtain h | ⟨-, h⟩ := heither
      · cases h
      · exact hconjugate.mp h.symm
    · intro hzero
      exact heither.resolve_right fun h => h.1 hzero
    · rintro (hle | hlt)
      · exact absurd hle hexact
      · rw [hlarge hlt]
        exact ⟨htwo, hone, hconjugate⟩

set_option maxRecDepth 100000 in
/-- The equation `x² - 300000000 x + 7 = 0`, whose discriminant is out of the exact range. -/
theorem rootsText_kind_large_discriminant :
    IsExact ⟨'x', 1, -300000000, 7⟩ 1 (-300000000) 7 ∧
    ∃ text, rootsText 6 ⟨'x', 1, -300000000, 7⟩ = .ok text ∧ Shows 'x' text .two := by
  have h : IsExact ⟨'x', 1, -300000000, 7⟩ 1 (-300000000) 7 :=
    ⟨isExactly_ofNat (n := 1) (by decide), (isExactly_ofNat (n := 300000000) (by decide)).neg,
      isExactly_ofNat (n := 7) (by decide), by decide, by decide, by decide, by decide⟩
  obtain ⟨text, kind, hok, hshows, -, -, -, hkind, -⟩ := rootsText_kind h 6
  exact ⟨h, text, hok, (hshows .two).mpr ((hkind (by decide)).1.mpr (by decide)).symm⟩

set_option maxRecDepth 100000 in
/-- The equation `400000000000 x² - 120000000000000 x + 8999999999993750 = 0` has the discriminant
10¹⁶, which is less than 10⁻¹² of its terms, so that one number is shown. -/
theorem positive_discriminant_one_root :
    IsExact ⟨'x', 400000000000, -120000000000000, 8999999999993750⟩
      400000000000 (-120000000000000) 8999999999993750 ∧
    (0 : Int) < -120000000000000 * -120000000000000 - 4 * 400000000000 * 8999999999993750 ∧
    rootsText 6 ⟨'x', 400000000000, -120000000000000, 8999999999993750⟩ = .ok "x = 150" ∧
    ¬ Shows 'x' "x = 150" .two := by
  have h : IsExact ⟨'x', 400000000000, -120000000000000, 8999999999993750⟩
      400000000000 (-120000000000000) 8999999999993750 :=
    ⟨isExactly_ofNat (n := 400000000000) (by decide),
      (isExactly_ofNat (n := 120000000000000) (by decide)).neg,
      isExactly_ofNat (n := 8999999999993750) (by decide), by decide, by decide, by decide,
      by decide⟩
  have htext : decimalRoots 6 ⟨'x', 400000000000, -120000000000000, 8999999999993750⟩ =
      "x = 150" := by decide +kernel
  refine ⟨h, by decide, ?_, fun hshows => absurd hshows.kind_eq (by decide)⟩
  rw [h.rootsText_eq 6, if_neg (by decide), htext]

end Quadratic

end OneUnknown
