import OneUnknown.Proofs.Quadratic.Exact

/-!
# Rational solutions

When the discriminant is a perfect square, its root is added to the fraction at once instead of
being taken by the reduction of radicals. Both ways lead to the same radical: once the square
factors are out and no root is left, the parts are the same, and so is all that follows.

* `squareFree_of_isSquare`: the square-free part of a perfect square is one;
* `collapsed_extracted_of_isSquare`, **`Radical.of_eq_fraction`**: parts with the root of a perfect
  square are a fraction;
* **`Quadratic.fraction_eq_of`**: the shortcuts, sign by sign.
-/

namespace OneUnknown

/-- The square-free part of a perfect square is one, and zero is no exception. -/
theorem squareFree_of_isSquare {n : Nat} (h : IsSquare n) : squareFree n = (isqrt n, 1) := by
  unfold squareFree
  split_ifs with h0 hsquare
  · rw [h0, isqrt_eq_sqrt, Nat.sqrt_zero]
  · rfl
  · exact absurd (isPerfectSquare_iff.mpr h) hsquare

namespace Radical

variable {c k d : Int} {n : Nat}

theorem collapsed_extracted_of_isSquare (h : IsSquare n) :
    (⟨c, k, n, d⟩ : Radical).extracted.collapsed = ⟨c + k * isqrt n, 0, 1, d⟩ := by
  simp only [extracted, squareFree_of_isSquare h, collapsed, if_true]

/-- **Parts with the root of a perfect square are a fraction.** -/
theorem of_eq_fraction (h : IsSquare n) : of c k n d = fraction (c + k * isqrt n) d := by
  have hreduced : reduced ⟨c, k, n, d⟩ = reduced ⟨c + k * isqrt n, 0, 1, d⟩ := by
    rw [reduced, reduced, collapsed_extracted_of_isSquare h,
      collapsed_extracted_of_isSquare IsSquare.one, zero_mul, add_zero]
  rw [fraction_eq, of, of, of?, of?, hreduced]

end Radical

namespace Quadratic

variable {a : Int} {D : Nat}

/-- **The shortcuts lead to the same radicals as the general way.** The root of a perfect square is
added to the fraction and subtracted from it, and the root of zero is left out. -/
theorem fraction_eq_of (ha : a ≠ 0) (b : Int) (D : Nat) :
    (0 < D → IsSquare D →
      (∃ r, Radical.fraction (-b + isqrt D) (2 * a) = .ok r ∧
        Radical.of (-b) 1 D (2 * a) = .ok r) ∧
      (∃ r, Radical.fraction (-b - isqrt D) (2 * a) = .ok r ∧
        Radical.of (-b) (-1) D (2 * a) = .ok r)) ∧
    (D = 0 → ∃ r, Radical.fraction (-b) (2 * a) = .ok r ∧
      Radical.of (-b) 1 0 (2 * a) = .ok r ∧ Radical.of (-b) (-1) 0 (2 * a) = .ok r) := by
  refine ⟨fun _ hsquare => ⟨?_, ?_⟩, fun _ => ?_⟩
  · obtain ⟨r, hr, -⟩ := exists_fraction ha (-b + isqrt D)
    refine ⟨r.toRadical, hr, ?_⟩
    rw [Radical.of_eq_fraction hsquare, one_mul, hr]
  · obtain ⟨r, hr, -⟩ := exists_fraction ha (-b - isqrt D)
    refine ⟨r.toRadical, hr, ?_⟩
    rw [Radical.of_eq_fraction hsquare, neg_one_mul, ← sub_eq_add_neg, hr]
  · obtain ⟨r, hr, -⟩ := exists_fraction ha (-b)
    have hroot (k : Int) : Radical.of (-b) k 0 (2 * a) = .ok r.toRadical := by
      rw [Radical.of_eq_fraction IsSquare.zero, isqrt_eq_sqrt, Nat.sqrt_zero, Nat.cast_zero,
        mul_zero, add_zero, hr]
    exact ⟨r.toRadical, hr, hroot 1, hroot (-1)⟩

/-- The solutions of `-3 x² + 2 x = 0`, one of which is zero. -/
theorem fraction_eq_of_root_zero :
    (∃ r, Radical.fraction 0 (-6) = .ok r ∧ Radical.of (-2) 1 4 (-6) = .ok r) ∧
    (∃ r, Radical.fraction (-4) (-6) = .ok r ∧ Radical.of (-2) (-1) 4 (-6) = .ok r) := by
  have hroot : isqrt 4 = 2 := by
    rw [isqrt_eq_sqrt]
    exact (Nat.eq_sqrt.mpr ⟨by decide, by decide⟩).symm
  have hspec := (fraction_eq_of (a := -3) (by decide) 2 4).1 (by decide) ⟨2, rfl⟩
  rw [hroot] at hspec
  exact hspec

end Quadratic

end OneUnknown
