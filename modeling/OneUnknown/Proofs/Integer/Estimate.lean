import OneUnknown.Integer.Words
import OneUnknown.Proofs.Integer.SquareFree

/-!
# Any estimate of a square root will do

The two corrections of an estimate end at the integer square root, whatever word the estimate is,
and they stay within their words on the way: the root of a word has 32 bits, and only the estimate
itself may be greater.

* `lowering_progresses`, `raising_progresses`: each correction makes progress;
* `correctedRoot_words`, `isqrt_words`, `isPerfectSquare_words`: the corrections in words end at
  the integer square root;
* **`isqrt_exact`**: the integer square root is exact and depends on no estimate.
-/

namespace OneUnknown

theorem largestWord_eq : largestWord = 2 ^ 64 - 1 := rfl

theorem lt_of_mul_self_le_largestWord {s : Nat} (h : s * s ≤ largestWord) : s < 2 ^ 32 := by
  by_contra hge
  have hsq : 2 ^ 32 * 2 ^ 32 ≤ s * s := Nat.mul_self_le_mul_self (Nat.not_lt.mp hge)
  rw [largestWord_eq] at h
  omega

theorem doubleWord_mul_self {s : Nat} (h : s ≤ largestWord) :
    doubleWord (s * s) = .ok (s * s) := by
  apply doubleWord_eq_ok
  have hsq : s * s ≤ largestWord * largestWord := Nat.mul_self_le_mul_self h
  exact lt_of_le_of_lt hsq (by decide)

namespace Words

variable {n s estimate turns : Nat}

/-! ## The two corrections -/

theorem lowering_wanted (n : Nat) (hs : s ≤ largestWord) :
    (lowering n).wanted s = .ok (decide (n < s * s)) := by
  simp only [lowering, doubleWord_mul_self hs]
  rfl

theorem lowering_progresses (n : Nat) : (lowering n).Progresses (· ≤ largestWord) id := by
  intro s hs
  rw [lowering_wanted n hs]
  by_cases h : n < s * s
  · have hpos : 1 ≤ s := Nat.pos_of_mul_pos_right (Nat.zero_lt_of_lt h)
    refine Or.inr ⟨by rw [decide_eq_true h], s - 1, difference_eq_ok hpos, ?_, ?_⟩
    · exact (Nat.sub_le s 1).trans hs
    · exact Nat.sub_one_lt_of_lt hpos
  · exact Or.inl (by rw [decide_eq_false h])

theorem raising_wanted (n : Nat) (hs : s < 2 ^ 32) :
    (raising n).wanted s = .ok (decide ((s + 1) * (s + 1) ≤ n)) := by
  have hnext : s + 1 ≤ largestWord := by rw [largestWord_eq]; omega
  simp only [raising, word_eq_ok hnext, bind, Except.bind, doubleWord_mul_self hnext]
  rfl

theorem raising_progresses (hn : n ≤ largestWord) :
    (raising n).Progresses (fun s => s * s ≤ n) (fun s => 2 ^ 32 - s) := by
  intro s hs
  have hlt : s < 2 ^ 32 := lt_of_mul_self_le_largestWord (hs.trans hn)
  rw [raising_wanted n hlt]
  by_cases h : (s + 1) * (s + 1) ≤ n
  · have hnext : s + 1 ≤ largestWord := by rw [largestWord_eq]; omega
    refine Or.inr ⟨by rw [decide_eq_true h], s + 1, word_eq_ok hnext, h, ?_⟩
    show 2 ^ 32 - (s + 1) < 2 ^ 32 - s
    omega
  · exact Or.inl (by rw [decide_eq_false h])

/-! ## The root -/

/-- **The corrections end at the integer square root**, from any word as the estimate. -/
theorem correctedRoot_words (hn : n ≤ largestWord) (he : estimate ≤ largestWord)
    (hlower : estimate ≤ turns) (hraise : 2 ^ 32 ≤ turns) :
    correctedRoot turns n estimate = .ok (OneUnknown.isqrt n) := by
  obtain ⟨s, hs, hsword, hsend⟩ := (lowering_progresses n).exists_run he
  have hsq : s * s ≤ n := by
    rw [lowering_wanted n hsword] at hsend
    simpa using hsend
  obtain ⟨t, ht, htsq, htend⟩ := (raising_progresses hn).exists_run hsq
  have hnext : n < (t + 1) * (t + 1) := by
    rw [raising_wanted n (lt_of_mul_self_le_largestWord (htsq.trans hn))] at htend
    simpa using htend
  have hroot : t = OneUnknown.isqrt n := by
    rw [isqrt_eq_sqrt]
    exact Nat.eq_sqrt.mpr ⟨htsq, hnext⟩
  rw [correctedRoot, hs turns hlower, ← hroot]
  exact ht turns ((Nat.sub_le _ _).trans hraise)

theorem isqrt_words (hn : n ≤ largestWord) (hturns : largestWord ≤ turns) :
    isqrt turns n = .ok (OneUnknown.isqrt n) := by
  have he : estimatedRoot n ≤ largestWord := Nat.le_pred_of_lt (UInt64.toNat_lt _)
  exact correctedRoot_words hn he (he.trans hturns) (le_trans (by decide) hturns)

theorem isPerfectSquare_words (hn : n ≤ largestWord) (hturns : largestWord ≤ turns) :
    isPerfectSquare turns n = .ok (OneUnknown.isPerfectSquare n) := by
  have hsq : OneUnknown.isqrt n * OneUnknown.isqrt n ≤ n := correctedRoot_sq_le n _
  have hword : OneUnknown.isqrt n ≤ largestWord := (Nat.le_mul_self _).trans (hsq.trans hn)
  simp only [isPerfectSquare, isqrt_words hn hturns, bind, Except.bind,
    doubleWord_mul_self hword]
  rfl

end Words

/-- **The integer square root is exact and depends on no estimate.** From any word as the estimate
the corrections come to the same number without overflow, so they do from the floating-point
estimate. Its square is at most `n` and the square of the next number exceeds `n`, and perfect
squares are recognised by it. -/
theorem isqrt_exact {n turns : Nat} (hn : n ≤ largestWord) (hturns : largestWord ≤ turns) :
    (∀ estimate ≤ largestWord, Words.correctedRoot turns n estimate = .ok (isqrt n)) ∧
    Words.isqrt turns n = .ok (isqrt n) ∧
    isqrt n * isqrt n ≤ n ∧ n < (isqrt n + 1) * (isqrt n + 1) ∧
    Words.isPerfectSquare turns n = .ok (isPerfectSquare n) ∧
    (isPerfectSquare n = true ↔ ∃ t, n = t * t) := by
  refine ⟨fun estimate he => ?_, Words.isqrt_words hn hturns, correctedRoot_sq_le n _,
    lt_succ_correctedRoot_sq n _, Words.isPerfectSquare_words hn hturns, isPerfectSquare_iff⟩
  exact Words.correctedRoot_words hn he (he.trans hturns) (le_trans (by decide) hturns)

/-- The greatest word is no square, and its root is found from above and from below. -/
theorem isqrt_exact_largestWord :
    Words.correctedRoot largestWord largestWord (2 ^ 32) = .ok (2 ^ 32 - 1) ∧
    Words.correctedRoot largestWord largestWord 0 = .ok (2 ^ 32 - 1) ∧
    Words.isPerfectSquare largestWord largestWord = .ok false := by
  obtain ⟨hestimate, -, -, -, hsquare, -⟩ := isqrt_exact (le_refl largestWord) (le_refl _)
  have hroot : isqrt largestWord = 2 ^ 32 - 1 := by
    rw [isqrt_eq_sqrt]
    exact (Nat.eq_sqrt.mpr ⟨by decide, by decide⟩).symm
  rw [isPerfectSquare, hroot] at hsquare
  rw [hroot] at hestimate
  exact ⟨hestimate (2 ^ 32) (by decide), hestimate 0 (Nat.zero_le _), hsquare⟩

end OneUnknown
