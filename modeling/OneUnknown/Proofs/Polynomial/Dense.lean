import OneUnknown.Proofs.Polynomial.Diagonal

/-!
# Arithmetic in place is the arithmetic of polynomials

The operations on plain vectors and those on polynomials give the same coefficients, in the same
order of the same additions and products: no law of arithmetic is used, so this holds of rounded
numbers to the last bit. All that numbers must satisfy is that zero tests as zero.

* `popZeros_eq`: popping is trimming;
* `combine_eq`, `scale_eq`, `splitZeroRoots_eq`: what is done power by power;
* **`mul_eq`**, `powLoop_eq`, **`pow_eq`**: products and powers.
-/

namespace OneUnknown.Dense

open OneUnknown.Polynomial (trimZeros_append_zero)

variable {K : Type} [Zero K] [BEq K]

/-! ## Trimming -/

/-- **Popping trims.** -/
theorem popZeros_eq (cs : List K) : popZeros cs = trimZeros cs := by
  induction cs using popZeros.induct with
  | case1 cs hpop ih =>
    obtain ⟨c, hlast, hc⟩ : ∃ c, cs.getLast? = some c ∧ (c == 0) = true := by
      simpa [Option.any_eq_true] using hpop
    have hsplit := List.dropLast_append_getLast? c hlast
    rw [popZeros, if_pos hpop, ih]
    conv_rhs => rw [← hsplit, trimZeros_append_zero hc]
  | case2 cs hkeep =>
    rw [popZeros, if_neg hkeep, trimZeros_of_trimmed]
    intro c hlast
    simpa [hlast] using hkeep

/-! ## One entry for every power -/

theorem constant_eq (c : K) : constant c = (Polynomial.constant c).coeffs := popZeros_eq _

theorem monomial_eq (c : K) (n : Nat) : monomial c n = (Polynomial.monomial c n).coeffs := by
  have hset : (List.replicate (n + 1) (0 : K)).set n c = List.replicate n 0 ++ [c] := by
    rw [List.replicate_succ', List.set_append_right _ _ (by simp)]
    simp
  rw [monomial, hset, popZeros_eq]
  rfl

variable (p q : Polynomial K)

theorem combine_eq (op : K → K → K) :
    combine op p.coeffs q.coeffs = (Polynomial.combine op p q).coeffs := popZeros_eq _

theorem scale_eq [Mul K] (k : K) : scale p.coeffs k = (p.scale k).coeffs := popZeros_eq _

theorem splitZeroRoots_eq :
    splitZeroRoots p.coeffs = (p.splitZeroRoots.1, p.splitZeroRoots.2.coeffs) := by
  unfold splitZeroRoots Polynomial.splitZeroRoots
  dsimp only
  split
  · rename_i hwhole
    have hcount : (p.coeffs.takeWhile (· == 0)).length = 0 := by
      rcases Bool.or_eq_true_iff.mp hwhole with h | h
      · exact eq_of_beq h
      · rw [List.isEmpty_iff.mp h]
        rfl
    rw [hcount, List.drop_zero, Polynomial.ofList_coeffs]
  · rw [popZeros_eq]
    rfl

/-! ## Products and powers -/

section Product

variable [Add K] [Mul K] (h0 : ((0 : K) == 0) = true)

include h0

/-- **Products agree.** The zero beyond the last sum is trimmed away with the others. -/
theorem mul_eq : mul p.coeffs q.coeffs = (p.mul q).coeffs := by
  unfold mul Polynomial.mul Polynomial.isZero
  split
  · rfl
  · rename_i hnonzero
    simp only [Bool.or_eq_true, List.isEmpty_iff, not_or, ← ne_eq, ← List.length_pos_iff]
      at hnonzero
    rw [popZeros_eq, ← trimZeros_append_zero h0, products_append_zero hnonzero.1 hnonzero.2]
    rfl

/-- The loops need no guard: without coefficients in a factor they leave zeros, if anything. -/
theorem mul_eq_popZeros (cs ds : List K) : mul cs ds = popZeros (products cs ds) := by
  have hzeros (n : Nat) : trimZeros (List.replicate n (0 : K)) = [] := by
    induction n with
    | zero => rfl
    | succ n ih => rw [List.replicate_succ', trimZeros_append_zero h0, ih]
  unfold mul
  split
  · rename_i hempty
    rw [products_eq_replicate (by simpa using hempty), popZeros_eq, hzeros]
  · rfl

theorem powLoop_eq (result base : Polynomial K) (n : Nat) :
    powLoop result.coeffs base.coeffs n = (Polynomial.powFrom result base n).coeffs := by
  induction n using Nat.strongRecOn generalizing result base with
  | ind n ih =>
    by_cases hn : n = 0
    · rw [powLoop, Polynomial.powFrom, if_pos hn, if_pos hn]
    have hresult : (if n % 2 = 1 then mul result.coeffs base.coeffs else result.coeffs) =
        (if n % 2 = 1 then result.mul base else result).coeffs := by
      split
      · exact mul_eq result base h0
      · rfl
    rw [powLoop, Polynomial.powFrom, if_neg hn, if_neg hn]
    dsimp only
    by_cases hhalf : n / 2 = 0
    · rw [if_pos hhalf, if_pos hhalf, hhalf, powLoop, if_pos rfl, hresult]
    · rw [if_neg hhalf, if_neg hhalf, hresult, mul_eq base base h0, ih (n / 2) (by omega)]

/-- **Powers agree.** -/
theorem pow_eq [One K] (n : Nat) : pow p.coeffs n = (p.pow n).coeffs := by
  rw [pow, constant_eq, powLoop_eq h0]
  rfl

end Product

end OneUnknown.Dense
