import OneUnknown.Proofs.Radical.Canonical
import OneUnknown.Proofs.Radical.Text

/-!
# Texts are faithful

A radical that is made from its parts is reduced, and a reduced radical can be read back from its
text. Two of the signs in a text tell what kind of number it is: there is a stroke just if the
number has a denominator, and a root sign just if the number is irrational.

* **`Made`**, `Made.isReduced`: the radicals that are made from their parts;
* `IsReduced.irrational_iff`, `IsReduced.made`: a reduced radical is irrational if it has a root,
  and is made from its own parts;
* **`Made.text_faithful`**: what the text of a radical tells.
-/

namespace OneUnknown.Radical

variable {r s : Radical}

/-- **A radical that has been made** from its parts, from a fraction, or from a root. -/
inductive Made : Radical → Prop where
  | of {constant coefficient denominator : Int} {radicand : Nat} {r : Radical}
    (h : of constant coefficient radicand denominator = .ok r) : Made r
  | fraction {numerator denominator : Int} {r : Radical}
    (h : fraction numerator denominator = .ok r) : Made r
  | sqrt {radicand : Nat} {denominator : Int} {r : Radical}
    (h : sqrt radicand denominator = .ok r) : Made r

theorem Made.isReduced (h : r.Made) : r.IsReduced := by
  cases h with
  | of h | fraction h | sqrt h => exact isReduced_of h

/-- **A reduced radical is irrational just if it has a root.** Its radicand is square-free then, and
not one. -/
theorem IsReduced.irrational_iff (h : r.IsReduced) : Irrational r.toReal ↔ r.coefficient ≠ 0 := by
  rw [toReal, irrational_div_intCast_iff, irrational_intCast_add_iff, irrational_intCast_mul_iff,
    and_iff_right h.denominator_pos.ne']
  constructor
  · exact And.left
  · intro hk
    refine ⟨hk, irrational_sqrt_of_squarefree h.squarefree ?_⟩
    exact mt h.coefficient_eq_zero_iff.mpr hk

theorem IsReduced.made (h : r.IsReduced) : r.Made := by
  obtain ⟨s, hs, hvalue⟩ := exists_of_eq_ok (c := r.constant) (k := r.coefficient)
    (n := r.radicand) h.denominator_pos.ne'
  rw [s.isReduced.eq_of_toReal_eq h hvalue] at hs
  exact .of hs

/-- **The text of a radical is faithful.** Radicals with the same text have the same parts. The text
has a stroke just if the denominator exceeds one, and a root sign just if the number is
irrational. -/
theorem Made.text_faithful (hr : r.Made) (hs : s.Made) :
    (r.text = s.text → (r.constant, r.coefficient, r.radicand, r.denominator) =
      (s.constant, s.coefficient, s.radicand, s.denominator)) ∧
    ('/' ∈ r.text.toList ↔ 1 < r.denominator) ∧
    ('√' ∈ r.text.toList ↔ Irrational r.toReal) := by
  have hpos := hr.isReduced.denominator_pos
  refine ⟨fun htext => ?_, ?_, ?_⟩
  · rw [hr.isReduced.eq_of_text_eq hs.isReduced htext]
  · rw [slash_mem_text_iff]
    omega
  · rw [root_mem_text_iff, hr.isReduced.irrational_iff]

/-- The two solutions of `x² - x - 1 = 0`. -/
theorem Made.text_faithful_golden :
    Made ⟨1, 1, 5, 2⟩ ∧ Made ⟨1, -1, 5, 2⟩ ∧ text ⟨1, 1, 5, 2⟩ ≠ text ⟨1, -1, 5, 2⟩ ∧
    '/' ∈ (text ⟨1, 1, 5, 2⟩).toList ∧ Irrational (toReal ⟨1, 1, 5, 2⟩) := by
  have hfive : ∀ p, 2 ≤ p → ¬ p * p ∣ 5 :=
    squarefree_iff_not_dvd.mp (Nat.prime_iff.mp Nat.prime_five).squarefree
  have hr : Made ⟨1, 1, 5, 2⟩ :=
    IsReduced.made ⟨by decide, by decide, hfive, by decide⟩
  have hs : Made ⟨1, -1, 5, 2⟩ :=
    IsReduced.made ⟨by decide, by decide, hfive, by decide⟩
  obtain ⟨hparts, hslash, hroot⟩ := hr.text_faithful hs
  refine ⟨hr, hs, fun htext => absurd (hparts htext) (by decide), hslash.mpr (by decide), ?_⟩
  exact hroot.mp (root_mem_text_iff.mpr (by decide))

end OneUnknown.Radical
