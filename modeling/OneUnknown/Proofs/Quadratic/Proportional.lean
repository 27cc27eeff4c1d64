import OneUnknown.Proofs.Quadratic.Exact
import OneUnknown.Proofs.Radical.Text

/-!
# Equations with the same answer are proportional

The exact answer to a quadratic equation shows two radicals, one radical, or a conjugate pair of
them. The three layouts are told apart by a comma and by the sign `±`, neither of which occurs in a
radical, so the answer determines what is shown. The solutions in turn determine the coefficients
up to a common factor. A negative factor exchanges two real solutions and leaves other answers as
they are.

* `Shown`, `Shown.text`, `Shown.Solves`: what an exact answer shows;
* `exists_shown`: the exact answer in these terms;
* **`Shown.eq_of_text_eq`**: the text determines what is shown;
* **`Shown.Solves.exists_factor`**, `Shown.Solves.eq_of_factor`: what is shown determines the
  coefficients up to a factor;
* **`rootsText_eq_iff`**: two equations have the same answer just if they are proportional.
-/

namespace OneUnknown

namespace Quadratic

/-! ## What an exact answer shows -/

/-- **The solutions that an exact answer shows**, in reduced form. -/
inductive Shown where
  | pair (first second : Radical.Reduced)
  | single (root : Radical.Reduced)
  | conjugate (re im : Radical.Reduced)

namespace Shown

/-- The answer. -/
def text (name : Char) : Shown → String
  | pair first second => pairText name first.text second.text
  | single root => assignment name root.text
  | conjugate re im => complexText name re.text re.isZero im.text

/-- What is shown are the solutions of a quadratic equation with leading coefficients `a` and `b`
and discriminant `D`, in their order. -/
def Solves (a b D : Int) : Shown → Prop
  | pair first second => 0 < D ∧ first.toReal = (-b + √(D : ℝ)) / (2 * a) ∧
      second.toReal = (-b - √(D : ℝ)) / (2 * a)
  | single root => D = 0 ∧ root.toReal = -b / (2 * a)
  | conjugate re im => D < 0 ∧ re.toReal = -b / (2 * a) ∧
      im.toReal = √(-D : ℝ) / (2 * |(a : ℝ)|)

end Shown

variable {a b c D a' b' c' D' : Int}

theorem Shown.Solves.exists_pair {s : Shown} (h : s.Solves a b D) (hD : 0 < D) :
    ∃ r₁ r₂, s = .pair r₁ r₂ := by
  rcases s with ⟨r₁, r₂⟩ | r | ⟨re, im⟩
  · exact ⟨r₁, r₂, rfl⟩
  · exact absurd h.1 hD.ne'
  · exact absurd h.1 hD.not_gt

theorem Shown.Solves.exists_single {s : Shown} (h : s.Solves a b D) (hD : D = 0) :
    ∃ r, s = .single r := by
  rcases s with ⟨r₁, r₂⟩ | r | ⟨re, im⟩
  · exact absurd hD h.1.ne'
  · exact ⟨r, rfl⟩
  · exact absurd hD h.1.ne

theorem Shown.Solves.exists_conjugate {s : Shown} (h : s.Solves a b D) (hD : D < 0) :
    ∃ re im, s = .conjugate re im := by
  rcases s with ⟨r₁, r₂⟩ | r | ⟨re, im⟩
  · exact absurd h.1 hD.not_gt
  · exact absurd h.1 hD.ne
  · exact ⟨re, im, rfl⟩

/-- **The exact answer shows the solutions.** -/
theorem exists_shown (name : Char) (ha : a ≠ 0) (b D : Int) :
    ∃ s : Shown, exactText name a b D = .ok (s.text name) ∧ s.Solves a b D := by
  rcases lt_trichotomy D 0 with hD | rfl | hD
  · obtain ⟨re, im, hok, hvre, hvim⟩ := exactText_of_neg name ha b hD
    refine ⟨.conjugate re im, ?_, hD, hvre, hvim⟩
    have ha' : (2 * a : ℝ) ≠ 0 := mul_ne_zero two_ne_zero (by exact_mod_cast ha)
    have hzero : re.isZero = true ↔ b = 0 := by
      rw [re.isReduced.isZero_iff, hvre, div_eq_zero_iff, or_iff_left ha', neg_eq_zero,
        Int.cast_eq_zero]
    simp only [hok, Shown.text, complexText, hzero]
  · obtain ⟨r, hok, hv⟩ := exactText_zero name ha b
    exact ⟨.single r, hok, rfl, hv⟩
  · obtain ⟨r₁, r₂, hok, hv₁, hv₂⟩ := exactText_of_pos name ha b hD
    exact ⟨.pair r₁ r₂, hok, hD, hv₁, hv₂⟩

/-! ## The text determines what is shown -/

theorem toList_assignment (name : Char) (value : String) :
    (assignment name value).toList = name :: ' ' :: '=' :: ' ' :: value.toList := by
  simp [assignment, String.toList_append, Char.toString]

namespace Shown

/-- What follows the first sign of equality in an answer. -/
def body (name : Char) : Shown → List Char
  | pair first second =>
    first.text.toList ++ ',' :: ' ' :: name :: ' ' :: '=' :: ' ' :: second.text.toList
  | single root => root.text.toList
  | conjugate re im =>
    (if re.isZero then [] else re.text.toList ++ [' ']) ++ '±' ::
      ((if re.isZero then [] else [' ']) ++ im.text.toList ++ ['i'])

theorem toList_text (name : Char) (s : Shown) :
    (s.text name).toList = name :: ' ' :: '=' :: ' ' :: s.body name := by
  rcases s with ⟨r₁, r₂⟩ | r | ⟨re, im⟩
  · simp only [text, pairText, String.toList_append, toList_assignment, body, List.cons_append,
      List.append_assoc]
    rfl
  · exact toList_assignment name r.text
  · simp only [text, complexText, body]
    split <;> simp [String.toList_append, toList_assignment]

theorem comma_not_mem (r : Radical) : ',' ∉ r.text.toList := fun h => by
  rcases Radical.mem_text h with h | h
  · exact absurd h (by decide)
  · exact absurd h (by decide)

theorem plusMinus_not_mem (r : Radical) : '±' ∉ r.text.toList := fun h => by
  rcases Radical.mem_text h with h | h
  · exact absurd h (by decide)
  · exact absurd h (by decide)

theorem comma_not_mem_body_conjugate (name : Char) (re im : Radical.Reduced) :
    ',' ∉ body name (conjugate re im) := by
  have hre := comma_not_mem re.toRadical
  have him := comma_not_mem im.toRadical
  simp only [body]
  split <;> simp [hre, him]

theorem eq_of_body_conjugate_eq {name : Char} {re im re' im' : Radical.Reduced}
    (h : body name (conjugate re im) = body name (conjugate re' im')) :
    re = re' ∧ im = im' := by
  have hnot : ∀ r : Radical.Reduced,
      '±' ∉ if r.isZero = true then [] else r.text.toList ++ [' '] := by
    intro r
    have := plusMinus_not_mem r.toRadical
    split <;> simp [this]
  obtain ⟨hfront, hback⟩ := eq_and_eq_of_append_cons (hnot re) (hnot re') h
  -- The real part is left out of both texts or of neither.
  by_cases hz : re.isZero = true <;> by_cases hz' : re'.isZero = true
  · simp only [if_pos hz, if_pos hz', List.nil_append] at hback
    have himText := String.toList_injective (List.append_cancel_right hback)
    have hvalue : re.toReal = re'.toReal :=
      (re.isReduced.isZero_iff.mp hz).trans (re'.isReduced.isZero_iff.mp hz').symm
    exact ⟨Radical.Reduced.eq_of_toReal_eq hvalue, Radical.Reduced.eq_of_text_eq himText⟩
  · simp [hz, hz'] at hfront
  · simp [hz, hz'] at hfront
  · simp only [if_neg hz, if_neg hz'] at hfront hback
    have hreText := String.toList_injective (List.append_cancel_right hfront)
    have himText := String.toList_injective
      (List.append_cancel_left (List.append_cancel_right hback))
    exact ⟨Radical.Reduced.eq_of_text_eq hreText, Radical.Reduced.eq_of_text_eq himText⟩

/-- **The answer determines what is shown.** -/
theorem eq_of_text_eq {name : Char} {s t : Shown} (h : s.text name = t.text name) : s = t := by
  have hbody : s.body name = t.body name := by
    have hlist := congrArg String.toList h
    rw [toList_text, toList_text] at hlist
    simpa using hlist
  have hcomma : ∀ r₁ r₂ r : Radical.Reduced, body name (pair r₁ r₂) ≠ body name (single r) := by
    intro r₁ r₂ r he
    have hmem : ',' ∈ body name (single r) := he ▸ (by simp [body])
    exact comma_not_mem r.toRadical hmem
  have hcommaPlusMinus : ∀ r₁ r₂ re im : Radical.Reduced,
      body name (pair r₁ r₂) ≠ body name (conjugate re im) := by
    intro r₁ r₂ re im he
    have hmem : ',' ∈ body name (conjugate re im) := he ▸ (by simp [body])
    exact comma_not_mem_body_conjugate name re im hmem
  have hplusMinus : ∀ re im r : Radical.Reduced,
      body name (conjugate re im) ≠ body name (single r) := by
    intro re im r he
    have hmem : '±' ∈ body name (single r) := he ▸ (by simp [body])
    exact plusMinus_not_mem r.toRadical hmem
  rcases s with ⟨r₁, r₂⟩ | r | ⟨re, im⟩ <;> rcases t with ⟨r₁', r₂'⟩ | r' | ⟨re', im'⟩
  · obtain ⟨h₁, h₂⟩ := eq_and_eq_of_append_cons (comma_not_mem r₁.toRadical)
      (comma_not_mem r₁'.toRadical) hbody
    have h₂' : r₂.text.toList = r₂'.text.toList := by simpa using h₂
    rw [Radical.Reduced.eq_of_text_eq (String.toList_injective h₁),
      Radical.Reduced.eq_of_text_eq (String.toList_injective h₂')]
  · exact absurd hbody (hcomma r₁ r₂ r')
  · exact absurd hbody (hcommaPlusMinus r₁ r₂ re' im')
  · exact absurd hbody.symm (hcomma r₁' r₂' r)
  · rw [Radical.Reduced.eq_of_text_eq (String.toList_injective hbody)]
  · exact absurd hbody.symm (hplusMinus re' im' r)
  · exact absurd hbody.symm (hcommaPlusMinus r₁' r₂' re im)
  · exact absurd hbody (hplusMinus re im r')
  · obtain ⟨rfl, rfl⟩ := eq_of_body_conjugate_eq hbody
    rfl

end Shown

/-! ## Proportional coefficients -/

theorem exists_factor_of_mul_eq (ha : a ≠ 0) (ha' : a' ≠ 0) (hb : a' * b = a * b')
    (hc : a' * c = a * c') :
    ∃ r : ℚ, r ≠ 0 ∧ (0 < a' * a → 0 < r) ∧ (a' : ℚ) = r * a ∧ (b' : ℚ) = r * b ∧
      (c' : ℚ) = r * c := by
  have haQ : (a : ℚ) ≠ 0 := by exact_mod_cast ha
  have haQ' : (a' : ℚ) ≠ 0 := by exact_mod_cast ha'
  have hbQ : (a' : ℚ) * b = a * b' := by exact_mod_cast hb
  have hcQ : (a' : ℚ) * c = a * c' := by exact_mod_cast hc
  refine ⟨a' / a, div_ne_zero haQ' haQ, fun hpos => ?_, ?_, ?_, ?_⟩
  · have hposQ : (0 : ℚ) < a' * a := by exact_mod_cast hpos
    have hsq : (0 : ℚ) < a ^ 2 := by positivity
    calc (0 : ℚ) < a' * a / a ^ 2 := div_pos hposQ hsq
      _ = a' / a := by field_simp
  · field_simp
  · field_simp
    linear_combination -hbQ
  · field_simp
    linear_combination -hcQ

theorem exists_factor_of_half (ha : a ≠ 0) (ha' : a' ≠ 0) (hD : D = b ^ 2 - 4 * a * c)
    (hD' : D' = b' ^ 2 - 4 * a' * c') (hhalf : (-b : ℝ) / (2 * a) = -b' / (2 * a'))
    (hsq : (2 * a' : ℝ) ^ 2 * D = (2 * a) ^ 2 * D') :
    ∃ r : ℚ, r ≠ 0 ∧ (0 < a' * a → 0 < r) ∧ (a' : ℚ) = r * a ∧ (b' : ℚ) = r * b ∧
      (c' : ℚ) = r * c := by
  have haR : (a : ℝ) ≠ 0 := by exact_mod_cast ha
  have haR' : (a' : ℝ) ≠ 0 := by exact_mod_cast ha'
  have hb : a' * b = a * b' := by
    rw [div_eq_div_iff (mul_ne_zero two_ne_zero haR) (mul_ne_zero two_ne_zero haR')] at hhalf
    have : (a' : ℝ) * b = a * b' := by linear_combination -hhalf / 2
    exact_mod_cast this
  have hc : a' * c = a * c' := by
    have hsqZ : (2 * a') ^ 2 * D = (2 * a) ^ 2 * D' := by exact_mod_cast hsq
    have h16 : 16 * a * a' * (a' * c) = 16 * a * a' * (a * c') := by
      rw [hD, hD'] at hsqZ
      linear_combination 4 * (a' * b + a * b') * hb - hsqZ
    have hne : 16 * a * a' ≠ 0 := mul_ne_zero (mul_ne_zero (by decide) ha) ha'
    exact mul_left_cancel₀ hne h16
  exact exists_factor_of_mul_eq ha ha' hb hc

theorem sq_mul_eq_of_sqrt_div_eq {u u' x x' : ℝ} (hu : u ≠ 0) (hu' : u' ≠ 0) (hx : 0 ≤ x)
    (hx' : 0 ≤ x') (h : √x / u = √x' / u') : u' ^ 2 * x = u ^ 2 * x' := by
  rw [div_eq_div_iff hu hu'] at h
  have hsq := congrArg (· ^ 2) h
  simp only [mul_pow, Real.sq_sqrt hx, Real.sq_sqrt hx'] at hsq
  linear_combination hsq

namespace Shown

/-- **What is shown determines the coefficients up to a factor**, which is positive if there are two
real solutions, since their order is shown. -/
theorem Solves.exists_factor {s : Shown} (hs : s.Solves a b D) (hs' : s.Solves a' b' D')
    (ha : a ≠ 0) (ha' : a' ≠ 0) (hD : D = b ^ 2 - 4 * a * c) (hD' : D' = b' ^ 2 - 4 * a' * c') :
    ∃ r : ℚ, r ≠ 0 ∧ (0 < D → 0 < r) ∧ (a' : ℚ) = r * a ∧ (b' : ℚ) = r * b ∧
      (c' : ℚ) = r * c := by
  have haR : (a : ℝ) ≠ 0 := by exact_mod_cast ha
  have haR' : (a' : ℝ) ≠ 0 := by exact_mod_cast ha'
  have h2a : (2 * a : ℝ) ≠ 0 := mul_ne_zero two_ne_zero haR
  have h2a' : (2 * a' : ℝ) ≠ 0 := mul_ne_zero two_ne_zero haR'
  rcases s with ⟨r₁, r₂⟩ | r | ⟨re, im⟩
  · obtain ⟨hpos, h₁, h₂⟩ := hs
    obtain ⟨hpos', h₁', h₂'⟩ := hs'
    have hDR : (0 : ℝ) < D := by exact_mod_cast hpos
    have hDR' : (0 : ℝ) < D' := by exact_mod_cast hpos'
    -- The half sum and the half difference of the two solutions
    have hhalf : (-b : ℝ) / (2 * a) = -b' / (2 * a') := by
      linear_combination (h₁' + h₂' - h₁ - h₂) / 2
    have hroot : √(D : ℝ) / (2 * a) = √(D' : ℝ) / (2 * a') := by
      linear_combination (h₁' - h₂' - h₁ + h₂) / 2
    have hsq := sq_mul_eq_of_sqrt_div_eq h2a h2a' hDR.le hDR'.le hroot
    have hsign : 0 < a' * a := by
      rw [div_eq_div_iff h2a h2a'] at hroot
      have hmul : (a' * a : ℝ) * √(D : ℝ) = a ^ 2 * √(D' : ℝ) := by
        linear_combination (a : ℝ) / 2 * hroot
      have hright : (0 : ℝ) < a ^ 2 * √(D' : ℝ) := by
        have := Real.sqrt_pos.mpr hDR'
        positivity
      rw [← hmul] at hright
      exact_mod_cast pos_of_mul_pos_left hright (Real.sqrt_nonneg _)
    obtain ⟨r, hr, hrpos, hfactor⟩ := exists_factor_of_half ha ha' hD hD' hhalf hsq
    exact ⟨r, hr, fun _ => hrpos hsign, hfactor⟩
  · obtain ⟨hzero, h⟩ := hs
    obtain ⟨hzero', h'⟩ := hs'
    have hsq : (2 * a' : ℝ) ^ 2 * D = (2 * a) ^ 2 * D' := by
      rw [hzero, hzero', Int.cast_zero, mul_zero, mul_zero]
    obtain ⟨r, hr, -, hfactor⟩ := exists_factor_of_half ha ha' hD hD' (h.symm.trans h') hsq
    exact ⟨r, hr, fun hpos => absurd hzero hpos.ne', hfactor⟩
  · obtain ⟨hneg, hre, him⟩ := hs
    obtain ⟨hneg', hre', him'⟩ := hs'
    have hDR : (0 : ℝ) ≤ -D := by exact_mod_cast (neg_pos.mpr hneg).le
    have hDR' : (0 : ℝ) ≤ -D' := by exact_mod_cast (neg_pos.mpr hneg').le
    have hsq : (2 * a' : ℝ) ^ 2 * D = (2 * a) ^ 2 * D' := by
      have h := sq_mul_eq_of_sqrt_div_eq (mul_ne_zero two_ne_zero (abs_ne_zero.mpr haR))
        (mul_ne_zero two_ne_zero (abs_ne_zero.mpr haR')) hDR hDR' (him.symm.trans him')
      rw [mul_pow, mul_pow, sq_abs, sq_abs] at h
      linear_combination -h
    obtain ⟨r, hr, -, hfactor⟩ := exists_factor_of_half ha ha' hD hD' (hre.symm.trans hre') hsq
    exact ⟨r, hr, fun hpos => absurd hneg hpos.not_gt, hfactor⟩

theorem discriminant_eq_of_factor {r : ℚ} (hD : D = b ^ 2 - 4 * a * c)
    (hD' : D' = b' ^ 2 - 4 * a' * c') (hra : (a' : ℚ) = r * a) (hrb : (b' : ℚ) = r * b)
    (hrc : (c' : ℚ) = r * c) : (D' : ℚ) = r ^ 2 * D := by
  rw [hD, hD']
  push_cast
  rw [hra, hrb, hrc]
  ring

theorem half_eq_of_factor {r : ℝ} (hr : r ≠ 0) (hra : (a' : ℝ) = r * a) (hrb : (b' : ℝ) = r * b) :
    (-b' : ℝ) / (2 * a') = -b / (2 * a) := by
  rw [hra, hrb, ← mul_neg, mul_left_comm, mul_div_mul_left _ _ hr]

theorem roots_of_factor {r : ℝ} (hr : r ≠ 0) (hra : (a' : ℝ) = r * a) (hrb : (b' : ℝ) = r * b)
    (hD' : (D' : ℝ) = r ^ 2 * D) (sign : ℝ) (hsign : |r| = sign * r) :
    (-b' + √(D' : ℝ)) / (2 * a') = (-b + sign * √(D : ℝ)) / (2 * a) ∧
      (-b' - √(D' : ℝ)) / (2 * a') = (-b - sign * √(D : ℝ)) / (2 * a) := by
  have hroot : √(D' : ℝ) = r * (sign * √(D : ℝ)) := by
    rw [hD', Real.sqrt_mul (sq_nonneg r), Real.sqrt_sq_eq_abs, hsign]
    ring
  have hden : (2 * a' : ℝ) = r * (2 * a) := by rw [hra, mul_left_comm]
  constructor
  · rw [hden, hroot, hrb, ← mul_neg, ← mul_add, mul_div_mul_left _ _ hr]
  · rw [hden, hroot, hrb, ← mul_neg, ← mul_sub, mul_div_mul_left _ _ hr]

/-- **A common factor leaves the answer as it is**, provided that it is positive if there are two
real solutions. -/
theorem Solves.eq_of_factor {s t : Shown} {r : ℚ}
    (hsolves : s.Solves a b D) (hsolves' : t.Solves a' b' D') (hr : r ≠ 0) (hpos : 0 < D → 0 < r)
    (hra : (a' : ℚ) = r * a) (hrb : (b' : ℚ) = r * b) (hD' : (D' : ℚ) = r ^ 2 * D) : s = t := by
  have hrR : (r : ℝ) ≠ 0 := by exact_mod_cast hr
  have hraR : (a' : ℝ) = r * a := by exact_mod_cast congrArg (Rat.cast (K := ℝ)) hra
  have hrbR : (b' : ℝ) = r * b := by exact_mod_cast congrArg (Rat.cast (K := ℝ)) hrb
  have hDR : (D' : ℝ) = r ^ 2 * D := by exact_mod_cast congrArg (Rat.cast (K := ℝ)) hD'
  have hsq : (0 : ℚ) < r ^ 2 := by positivity
  have hhalf := half_eq_of_factor hrR hraR hrbR
  rcases lt_trichotomy D 0 with hD | hD | hD
  · have hDneg : D' < 0 := by
      have : (D' : ℚ) < 0 := hD' ▸ mul_neg_of_pos_of_neg hsq (by exact_mod_cast hD)
      exact_mod_cast this
    obtain ⟨re, im, rfl⟩ := hsolves.exists_conjugate hD
    obtain ⟨re', im', rfl⟩ := hsolves'.exists_conjugate hDneg
    obtain ⟨-, hre, him⟩ := hsolves
    obtain ⟨-, hre', him'⟩ := hsolves'
    have himage : √(-D' : ℝ) / (2 * |(a' : ℝ)|) = √(-D : ℝ) / (2 * |(a : ℝ)|) := by
      have hsqR : (-D' : ℝ) = r ^ 2 * -D := by rw [hDR]; ring
      rw [hsqR, Real.sqrt_mul (sq_nonneg _), Real.sqrt_sq_eq_abs, hraR, abs_mul, mul_left_comm,
        mul_div_mul_left _ _ (abs_ne_zero.mpr hrR)]
    rw [Radical.Reduced.eq_of_toReal_eq (r := re) (s := re') (by rw [hre, hre', hhalf]),
      Radical.Reduced.eq_of_toReal_eq (r := im) (s := im') (by rw [him, him', himage])]
  · have hDzero : D' = 0 := by
      rw [hD, Int.cast_zero, mul_zero] at hD'
      exact_mod_cast hD'
    obtain ⟨root, rfl⟩ := hsolves.exists_single hD
    obtain ⟨root', rfl⟩ := hsolves'.exists_single hDzero
    rw [Radical.Reduced.eq_of_toReal_eq (r := root) (s := root')
      (by rw [hsolves.2, hsolves'.2, hhalf])]
  · have hDpos : 0 < D' := by
      have : (0 : ℚ) < D' := hD' ▸ mul_pos hsq (by exact_mod_cast hD)
      exact_mod_cast this
    obtain ⟨r₁, r₂, rfl⟩ := hsolves.exists_pair hD
    obtain ⟨r₁', r₂', rfl⟩ := hsolves'.exists_pair hDpos
    obtain ⟨-, h₁, h₂⟩ := hsolves
    obtain ⟨-, h₁', h₂'⟩ := hsolves'
    have hrpos : (0 : ℝ) < r := by exact_mod_cast hpos hD
    obtain ⟨hfirst, hsecond⟩ := roots_of_factor hrR hraR hrbR hDR 1
      (by rw [abs_of_pos hrpos, one_mul])
    rw [one_mul] at hfirst hsecond
    rw [Radical.Reduced.eq_of_toReal_eq (r := r₁) (s := r₁') (by rw [h₁, h₁', hfirst]),
      Radical.Reduced.eq_of_toReal_eq (r := r₂) (s := r₂') (by rw [h₂, h₂', hsecond])]

theorem Solves.swap_of_factor {s t : Shown} {k : Int}
    (hsolves : s.Solves a b D) (hsolves' : t.Solves a' b' D') (hD : 0 < D) (hk : k < 0)
    (hka : a' = k * a) (hkb : b' = k * b) (hD' : D' = k ^ 2 * D) :
    ∃ r₁ r₂ : Radical.Reduced, s = .pair r₁ r₂ ∧ t = .pair r₂ r₁ := by
  have hD'pos : 0 < D' := hD' ▸ mul_pos (sq_pos_of_neg hk) hD
  obtain ⟨r₁, r₂, rfl⟩ := hsolves.exists_pair hD
  obtain ⟨r₁', r₂', rfl⟩ := hsolves'.exists_pair hD'pos
  obtain ⟨-, h₁, h₂⟩ := hsolves
  obtain ⟨-, h₁', h₂'⟩ := hsolves'
  have hkR : (k : ℝ) < 0 := by exact_mod_cast hk
  have hkaR : (a' : ℝ) = k * a := by exact_mod_cast hka
  have hkbR : (b' : ℝ) = k * b := by exact_mod_cast hkb
  have hDR : (D' : ℝ) = k ^ 2 * D := by exact_mod_cast hD'
  obtain ⟨hfirst, hsecond⟩ := roots_of_factor hkR.ne hkaR hkbR hDR (-1)
    (by rw [abs_of_neg hkR, neg_one_mul])
  rw [neg_one_mul, ← sub_eq_add_neg] at hfirst
  rw [neg_one_mul, sub_neg_eq_add] at hsecond
  refine ⟨r₁, r₂, rfl, ?_⟩
  rw [Radical.Reduced.eq_of_toReal_eq (r := r₂) (s := r₁') (by rw [h₂, h₁', hfirst]),
    Radical.Reduced.eq_of_toReal_eq (r := r₁) (s := r₂') (by rw [h₁, h₂', hsecond])]

end Shown

/-! ## The answers to two equations -/

/-- **The coefficients of the equation are whole numbers**, the leading one is not zero, and the
discriminant is in the exact range. -/
structure IsWhole (q : Quadratic) (a b c D : Int) : Prop where
  leading : asInteger? q.a = some a
  linear : asInteger? q.b = some b
  constant : asInteger? q.c = some c
  leading_ne_zero : a ≠ 0
  discriminant : exactDiscriminant? a b c = some D

theorem IsWhole.rootsText_eq {q : Quadratic} (h : q.IsWhole a b c D) (places : Nat) :
    q.rootsText places = exactText q.name a b D := by
  simp only [rootsText, h.leading, h.linear, h.constant, h.discriminant]

/-- **The answer identifies the equation up to a factor.** Equations in the same unknown, with whole
coefficients and discriminants in range, have the same answer just if the coefficients of one are
multiples of those of the other by one rational factor, which has to be positive if there are two
real solutions. A negative whole factor exchanges the two real solutions that are shown. -/
theorem rootsText_eq_iff {q q' : Quadratic} (h : q.IsWhole a b c D) (h' : q'.IsWhole a' b' c' D')
    (hname : q.name = q'.name) (places : Nat) :
    (∃ text text' : String, q.rootsText places = .ok text ∧ q'.rootsText places = .ok text' ∧
      (text = text' ↔ ∃ r : ℚ, r ≠ 0 ∧ (0 < D → 0 < r) ∧
        (a' : ℚ) = r * a ∧ (b' : ℚ) = r * b ∧ (c' : ℚ) = r * c)) ∧
    ∀ k : Int, k < 0 → 0 < D → a' = k * a → b' = k * b → c' = k * c →
      ∃ first second : Radical.Reduced,
        q.rootsText places =
          .ok (q.name.toString ++ " = " ++ first.text ++ ", " ++
            q.name.toString ++ " = " ++ second.text) ∧
        q'.rootsText places =
          .ok (q.name.toString ++ " = " ++ second.text ++ ", " ++
            q.name.toString ++ " = " ++ first.text) := by
  have hD := eq_of_exactDiscriminant? h.discriminant
  have hD' := eq_of_exactDiscriminant? h'.discriminant
  obtain ⟨s, hok, hsolves⟩ := exists_shown q.name h.leading_ne_zero b D
  obtain ⟨t, hok', hsolves'⟩ := exists_shown q.name h'.leading_ne_zero b' D'
  rw [← h.rootsText_eq places] at hok
  rw [hname, ← h'.rootsText_eq places, ← hname] at hok'
  refine ⟨⟨s.text q.name, t.text q.name, hok, hok', fun htext => ?_, ?_⟩, ?_⟩
  · have hst := Shown.eq_of_text_eq htext
    subst hst
    exact hsolves.exists_factor hsolves' h.leading_ne_zero h'.leading_ne_zero hD hD'
  · rintro ⟨r, hr, hpos, hra, hrb, hrc⟩
    have hsq := Shown.discriminant_eq_of_factor hD hD' hra hrb hrc
    rw [hsolves.eq_of_factor hsolves' hr hpos hra hrb hsq]
  · intro k hk hDpos hka hkb hkc
    have hsq : D' = k ^ 2 * D := by
      rw [hD, hD', hka, hkb, hkc]
      ring
    obtain ⟨r₁, r₂, rfl, rfl⟩ := hsolves.swap_of_factor hsolves' hDpos hk hka hkb hsq
    refine ⟨r₁, r₂, ?_, ?_⟩
    · simp only [hok, Shown.text, pairText, assignment, String.append_assoc]
    · simp only [hok', Shown.text, pairText, assignment, String.append_assoc]

set_option maxRecDepth 100000 in
/-- The equations `x² - 5 x + 6 = 0` and `-2 x² + 10 x - 12 = 0` show their solutions in opposite
order. -/
theorem rootsText_five_six_neg_two :
    IsWhole ⟨'x', 1, -5, 6⟩ 1 (-5) 6 1 ∧ IsWhole ⟨'x', -2, 10, -12⟩ (-2) 10 (-12) 4 ∧
    ∃ first second : Radical.Reduced,
      rootsText 6 ⟨'x', 1, -5, 6⟩ = .ok ("x = " ++ first.text ++ ", x = " ++ second.text) ∧
      rootsText 6 ⟨'x', -2, 10, -12⟩ = .ok ("x = " ++ second.text ++ ", x = " ++ first.text) := by
  have h : IsWhole ⟨'x', 1, -5, 6⟩ 1 (-5) 6 1 :=
    ⟨by decide, by decide, by decide, by decide, by decide⟩
  have h' : IsWhole ⟨'x', -2, 10, -12⟩ (-2) 10 (-12) 4 :=
    ⟨by decide, by decide, by decide, by decide, by decide⟩
  obtain ⟨first, second, hok, hok'⟩ := (rootsText_eq_iff h h' rfl 6).2 (-2) (by decide) (by decide)
    (by decide) (by decide) (by decide)
  refine ⟨h, h', first, second, ?_, ?_⟩
  · simpa [String.append_assoc] using hok
  · simpa [String.append_assoc] using hok'

end Quadratic

end OneUnknown
