import Mathlib.Algebra.Squarefree.Basic
import Mathlib.Data.Nat.Sqrt
import Mathlib.Tactic.Ring
import OneUnknown.Integer.SquareFree

/-!
# Trial division finds the square-free part

Trial division keeps the number as a square times a rest, and the squares of the divisors that have
been tried do not divide the rest. It ends when the square of the next divisor exceeds the rest, so
that nothing is left to be tried.

* `isqrt_eq_sqrt`, **`isPerfectSquare_iff`**: the integer square root is the greatest one;
* `divideOut_sq_mul`, `not_dvd_divideOut`: one divisor;
* **`Splits`**: the invariant of trial division, kept by `Splits.step` and `Splits.run`;
* **`squareFree_sq_mul`**, **`not_dvd_squareFree`**: a number as a square times a number without
  square factors;
* **`eq_and_eq_of_sq_mul_eq`**: there is one way only to write it so.
-/

namespace OneUnknown

/-! ## Square roots -/

theorem isqrt_eq_sqrt (n : Nat) : isqrt n = Nat.sqrt n :=
  Nat.eq_sqrt.mpr ⟨correctedRoot_sq_le n _, lt_succ_correctedRoot_sq n _⟩

theorem isPerfectSquare_iff {n : Nat} : isPerfectSquare n = true ↔ IsSquare n := by
  rw [isPerfectSquare, beq_iff_eq, isqrt_eq_sqrt, ← Nat.exists_mul_self]
  constructor
  · rintro ⟨s, hs⟩
    exact ⟨s, hs.symm⟩
  · rintro ⟨s, hs⟩
    exact ⟨s, hs.symm⟩

theorem isqrt_sq {n : Nat} (h : isPerfectSquare n = true) : isqrt n ^ 2 = n := by
  rw [sq]
  exact beq_iff_eq.mp h

/-! ## One divisor -/

theorem four_le_mul_self {p : Nat} (h : 2 ≤ p) : 4 ≤ p * p := Nat.mul_le_mul h h

theorem divideOut_sq_mul (p k m : Nat) :
    (divideOut p k m).1 ^ 2 * (divideOut p k m).2 = k ^ 2 * m := by
  induction k, m using divideOut.induct p with
  | case1 k m h ih =>
    rw [divideOut, if_pos h, ih]
    calc (k * p) ^ 2 * (m / (p * p)) = k ^ 2 * (p * p * (m / (p * p))) := by ring
      _ = k ^ 2 * m := by rw [Nat.mul_div_cancel' (Nat.dvd_of_mod_eq_zero h.2.2)]
  | case2 k m h => rw [divideOut, if_neg h]

theorem divideOut_snd_dvd (p k m : Nat) : (divideOut p k m).2 ∣ m := by
  induction k, m using divideOut.induct p with
  | case1 k m h ih =>
    rw [divideOut, if_pos h]
    exact ih.trans (Nat.div_dvd_of_dvd (Nat.dvd_of_mod_eq_zero h.2.2))
  | case2 k m h => rw [divideOut, if_neg h]

theorem not_dvd_divideOut {p : Nat} (hp : 2 ≤ p) (k : Nat) {m : Nat} (hm : 0 < m) :
    ¬ p * p ∣ (divideOut p k m).2 := by
  induction k, m using divideOut.induct p with
  | case1 k m h ih =>
    rw [divideOut, if_pos h]
    have hle : p * p ≤ m := Nat.le_of_dvd hm (Nat.dvd_of_mod_eq_zero h.2.2)
    have hpos : 0 < p * p := lt_of_lt_of_le (by decide) (four_le_mul_self hp)
    exact ih (Nat.div_pos hle hpos)
  | case2 k m h =>
    rw [divideOut, if_neg h]
    intro hdvd
    exact h ⟨hp, hm, Nat.mod_eq_zero_of_dvd hdvd⟩

/-! ## Trial division -/

/-- **The state of trial division of `n`.** The rest has no square factor among the divisors that
have been tried. Even numbers after two are passed over, so the next divisor is two or odd. -/
structure Splits (n : Nat) (s : SquareSearch) : Prop where
  sq_mul : s.root ^ 2 * s.rest = n
  rest_pos : 0 < s.rest
  two_le : 2 ≤ s.trial
  odd : s.trial = 2 ∨ s.trial % 2 = 1
  not_dvd : ∀ p, 2 ≤ p → p < s.trial → ¬ p * p ∣ s.rest

namespace Splits

variable {n : Nat} {s : SquareSearch}

theorem start (h : 0 < n) : Splits n (SquareSearch.start n) where
  sq_mul := by simp [SquareSearch.start]
  rest_pos := h
  two_le := le_refl 2
  odd := Or.inl rfl
  not_dvd := fun p hp hlt => absurd hlt (Nat.not_lt.mpr hp)

theorem not_dvd_of_even (h : Splits n s) (hs : s.trial ≠ 2) {p : Nat} (hp : p % 2 = 0) :
    ¬ p * p ∣ s.rest := by
  have hlt : 2 < s.trial := lt_of_le_of_ne h.two_le (Ne.symm hs)
  have h2 : 2 ∣ p := Nat.dvd_of_mod_eq_zero hp
  intro hdvd
  exact h.not_dvd 2 (le_refl 2) hlt ((Nat.mul_dvd_mul h2 h2).trans hdvd)

/-- **One trial keeps the invariant.** -/
theorem step (h : Splits n s) : Splits n s.step where
  sq_mul := (divideOut_sq_mul s.trial s.root s.rest).trans h.sq_mul
  rest_pos := Nat.pos_of_dvd_of_pos (divideOut_snd_dvd s.trial s.root s.rest) h.rest_pos
  two_le := le_of_lt (lt_of_le_of_lt h.two_le s.trial_lt_step)
  odd := by
    have := h.odd
    simp only [SquareSearch.step]
    split <;> omega
  not_dvd := by
    intro p hp hlt hdvd
    have hrest : p * p ∣ s.rest := hdvd.trans (divideOut_snd_dvd s.trial s.root s.rest)
    rcases lt_trichotomy p s.trial with hp' | rfl | hp'
    · exact h.not_dvd p hp hp' hrest
    · exact not_dvd_divideOut hp s.root h.rest_pos hdvd
    · -- Only an even number is passed over.
      have hodd := h.odd
      have hne : s.trial ≠ 2 ∧ p = s.trial + 1 := by
        simp only [SquareSearch.step] at hlt
        split at hlt <;> omega
      exact h.not_dvd_of_even hne.1 (by omega) hrest

theorem run (h : Splits n s) : Splits n s.run := by
  induction s using SquareSearch.run.induct with
  | case1 s hs ih => rw [SquareSearch.run, if_pos hs]; exact ih h.step
  | case2 s hs => rw [SquareSearch.run, if_neg hs]; exact h

end Splits

/-- Trial division ends when the square of the next divisor exceeds the rest. -/
theorem SquareSearch.rest_run_lt {n : Nat} {s : SquareSearch} (h : Splits n s) :
    s.run.rest < s.run.trial * s.run.trial := by
  induction s using SquareSearch.run.induct with
  | case1 s hs ih => rw [SquareSearch.run, if_pos hs]; exact ih h.step
  | case2 s hs =>
    rw [SquareSearch.run, if_neg hs]
    have hle : s.trial ≤ s.trial * s.trial := Nat.le_mul_self s.trial
    simp only [SquareSearch.wanted, Bool.and_eq_true, decide_eq_true_eq] at hs
    omega

theorem Splits.not_dvd_run {n : Nat} {s : SquareSearch} (h : Splits n s) {p : Nat} (hp : 2 ≤ p) :
    ¬ p * p ∣ s.run.rest := by
  intro hdvd
  have hle : p * p ≤ s.run.rest := Nat.le_of_dvd h.run.rest_pos hdvd
  have hlt : p < s.run.trial := by
    by_contra hge
    have := Nat.mul_le_mul (Nat.not_lt.mp hge) (Nat.not_lt.mp hge)
    have := SquareSearch.rest_run_lt h
    omega
  exact h.run.not_dvd p hp hlt hdvd

/-! ## The square-free part -/

/-- **The square and the square-free part make up the number.** -/
theorem squareFree_sq_mul (n : Nat) : (squareFree n).1 ^ 2 * (squareFree n).2 = n := by
  unfold squareFree
  by_cases hn : n = 0
  · rw [if_pos hn, hn]
    rfl
  by_cases hs : isPerfectSquare n = true
  · rw [if_neg hn, if_pos hs, mul_one, isqrt_sq hs]
  · rw [if_neg hn, if_neg hs]
    exact (Splits.start (Nat.pos_of_ne_zero hn)).run.sq_mul

/-- **The square-free part has no square factor.** -/
theorem not_dvd_squareFree (n : Nat) {p : Nat} (hp : 2 ≤ p) : ¬ p * p ∣ (squareFree n).2 := by
  have hone : ¬ p * p ∣ 1 := by
    intro hdvd
    have := Nat.le_of_dvd Nat.one_pos hdvd
    have := four_le_mul_self hp
    omega
  unfold squareFree
  by_cases hn : n = 0
  · rw [if_pos hn]
    exact hone
  by_cases hs : isPerfectSquare n = true
  · rw [if_neg hn, if_pos hs]
    exact hone
  · rw [if_neg hn, if_neg hs]
    exact (Splits.start (Nat.pos_of_ne_zero hn)).not_dvd_run hp

theorem squarefree_iff_not_dvd {m : Nat} : Squarefree m ↔ ∀ p, 2 ≤ p → ¬ p * p ∣ m := by
  constructor
  · intro h p hp hdvd
    have := Nat.isUnit_iff.mp (h p hdvd)
    omega
  · intro h p hdvd
    rw [Nat.isUnit_iff]
    by_contra hne
    rcases Nat.lt_or_ge p 2 with hlt | hge
    · obtain rfl : p = 0 := by omega
      rw [Nat.mul_zero, Nat.zero_dvd] at hdvd
      rw [hdvd] at h
      exact h 2 (le_refl 2) (Nat.dvd_zero _)
    · exact h p hge hdvd

theorem squarefree_squareFree (n : Nat) : Squarefree (squareFree n).2 :=
  squarefree_iff_not_dvd.mpr fun _ hp => not_dvd_squareFree n hp

theorem squareFree_snd_pos (n : Nat) : 0 < (squareFree n).2 :=
  Nat.pos_of_ne_zero (squarefree_squareFree n).ne_zero

theorem squareFree_fst_sq_le (n : Nat) : (squareFree n).1 ^ 2 ≤ n := by
  have h := Nat.le_mul_of_pos_right ((squareFree n).1 ^ 2) (squareFree_snd_pos n)
  rwa [squareFree_sq_mul] at h

theorem squareFree_snd_eq_one_iff {n : Nat} : (squareFree n).2 = 1 ↔ IsSquare n := by
  constructor
  · intro h
    refine ⟨(squareFree n).1, ?_⟩
    rw [← sq, ← mul_one ((squareFree n).1 ^ 2), ← h, squareFree_sq_mul]
  · intro h
    unfold squareFree
    split
    · rfl
    · rw [if_pos (isPerfectSquare_iff.mpr h)]

/-- What squares share with a square-free number, once they share nothing with each other. -/
theorem eq_one_of_sq_mul_eq {x y m m' : Nat} (hm' : Squarefree m') (hxy : Nat.Coprime x y)
    (h : x ^ 2 * m = y ^ 2 * m') : x = 1 := by
  have hdvd : x * x ∣ y ^ 2 * m' := ⟨m, by rw [← h, sq]⟩
  have hcop : Nat.Coprime (x * x) (y ^ 2) := by
    rw [← sq]
    exact hxy.pow 2 2
  exact Nat.isUnit_iff.mp (hm' x (hcop.dvd_of_dvd_mul_left hdvd))

/-- **A square times a square-free number determines both.** -/
theorem eq_and_eq_of_sq_mul_eq {x y m m' : Nat} (hm : Squarefree m) (hm' : Squarefree m')
    (hx : x ≠ 0) (h : x ^ 2 * m = y ^ 2 * m') : x = y ∧ m = m' := by
  obtain ⟨x', y', hcop, hx', hy'⟩ := Nat.exists_coprime x y
  have hg : 0 < Nat.gcd x y ^ 2 := Nat.pow_pos (Nat.gcd_pos_of_pos_left y (Nat.pos_of_ne_zero hx))
  have h' : x' ^ 2 * m = y' ^ 2 * m' := by
    apply Nat.eq_of_mul_eq_mul_left hg
    calc Nat.gcd x y ^ 2 * (x' ^ 2 * m) = (x' * Nat.gcd x y) ^ 2 * m := by ring
      _ = (y' * Nat.gcd x y) ^ 2 * m' := by rw [← hx', ← hy', h]
      _ = Nat.gcd x y ^ 2 * (y' ^ 2 * m') := by ring
  have hx1 : x' = 1 := eq_one_of_sq_mul_eq hm' hcop h'
  have hy1 : y' = 1 := eq_one_of_sq_mul_eq hm hcop.symm h'.symm
  constructor
  · rw [hx1] at hx'
    rw [hy1] at hy'
    exact hx'.trans hy'.symm
  · simpa [hx1, hy1] using h'

end OneUnknown
