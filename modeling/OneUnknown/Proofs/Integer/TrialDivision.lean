import Mathlib.Data.Nat.Squarefree
import Mathlib.Tactic.Simproc.Factors
import OneUnknown.Proofs.Integer.Estimate

/-!
# Trial division in words

The test of trial division cuts the square of the divisor off at the greatest word. Below the
greatest word this changes nothing, so the divisors that are tried have 32 bits and no operation
overflows. The greatest word itself has no square factor. It is still left when the square of the
divisor no longer fits, and then the test holds although the square exceeds it.

* `Divides`, `dividing_progresses`, **`dividing_run`**: one divisor in words;
* **`InRange`**, `InRange.turn`, `InRange.step`: the states of trial division, and one trial in
  words;
* `trying_progresses`: below the greatest word, trial division makes progress;
* `squarefree_largestWord`, **`after_largestWord`**: trial division of the greatest word;
* **`trialDivision_safe_iff`**, **`trialDivision_overflows`**: trial division stays within its words
  for every word but the greatest;
* **`squareFree_exact`**: the square-free part in words.
-/

namespace OneUnknown

open SquareSearch (start)

variable {n p turns : Nat} {s : SquareSearch}

/-! ## One divisor -/

theorem divideOut_of_dvd {k m : Nat} (hp : 2 ≤ p) (hm : 0 < m) (h : m % (p * p) = 0) :
    divideOut p k m = divideOut p (k * p) (m / (p * p)) := by
  rw [divideOut, if_pos ⟨hp, hm, h⟩]

theorem divideOut_of_not_dvd {k m : Nat} (h : m % (p * p) ≠ 0) : divideOut p k m = (k, m) := by
  rw [divideOut, if_neg fun hand => h hand.2.2]

namespace Words

/-- **A state in which a divisor is moved out.** The number is a positive word, and dividing out
comes to the given result. -/
structure Divides (p : Nat) (result s : Nat × Nat) : Prop where
  pos : 0 < s.2
  le : s.1 ^ 2 * s.2 ≤ largestWord
  eq : divideOut p s.1 s.2 = result

theorem dividing_progresses (hp : 2 ≤ p) (result : Nat × Nat) :
    (dividing p (p * p)).Progresses (Divides p result) Prod.snd := by
  rintro ⟨k, m⟩ ⟨hm, hle, heq⟩
  have hsq : 4 ≤ p * p := four_le_mul_self hp
  by_cases h : m % (p * p) = 0
  · have hdvd : p * p ≤ m := Nat.le_of_dvd hm (Nat.dvd_of_mod_eq_zero h)
    have hpos : 0 < m / (p * p) := Nat.div_pos hdvd (by omega)
    have hout : (k * p) ^ 2 * (m / (p * p)) = k ^ 2 * m := by
      rw [← divideOut_sq_mul p (k * p), ← divideOut_of_dvd hp hm h, divideOut_sq_mul]
    have hword : k * p ≤ largestWord :=
      calc k * p ≤ (k * p) ^ 2 := Nat.le_self_pow two_ne_zero _
        _ ≤ (k * p) ^ 2 * (m / (p * p)) := Nat.le_mul_of_pos_right _ hpos
        _ = k ^ 2 * m := hout
        _ ≤ largestWord := hle
    refine Or.inr ⟨?_, (k * p, m / (p * p)), ?_, ⟨hpos, hout ▸ hle, ?_⟩, ?_⟩
    · simp only [dividing, h]
      rfl
    · simp only [dividing, word_eq_ok hword]
      rfl
    · rw [← divideOut_of_dvd hp hm h, heq]
    · exact Nat.div_lt_self hm (by omega)
  · have htest : (m % (p * p) == 0) = false := beq_eq_false_iff_ne.mpr h
    refine Or.inl ?_
    simp only [dividing, htest]
    rfl

/-- **One divisor is moved out within words.** -/
theorem dividing_run {k m : Nat} (hp : 2 ≤ p) (hm : 0 < m) (hle : k ^ 2 * m ≤ largestWord)
    (hturns : m ≤ turns) : (dividing p (p * p)).run turns (k, m) = .ok (divideOut p k m) := by
  obtain ⟨⟨k', m'⟩, hrun, ⟨-, -, heq⟩, hend⟩ :=
    (dividing_progresses hp (divideOut p k m)).exists_run (s := (k, m)) ⟨hm, hle, rfl⟩
  have htest : (m' % (p * p) == 0) = false := Except.ok.inj hend
  rw [hrun turns hturns, ← heq, divideOut_of_not_dvd (beq_eq_false_iff_ne.mp htest)]

/-! ## One trial -/

theorem trying_wanted (turns : Nat) (s : SquareSearch) : (trying turns).wanted s = .ok s.wanted :=
  rfl

/-- **A state of the trial division of `n`.** It comes to the same end as the first state. -/
structure InRange (n : Nat) (s : SquareSearch) : Prop where
  sq_mul : s.root ^ 2 * s.rest = n
  rest_le : s.rest ≤ n
  two_le : 2 ≤ s.trial
  trial_le : s.trial ≤ 2 ^ 32 + 1
  run_eq : s.run = (start n).run

namespace InRange

theorem start (n : Nat) : InRange n (SquareSearch.start n) where
  sq_mul := by rw [SquareSearch.start, one_pow, one_mul]
  rest_le := le_refl n
  two_le := le_refl 2
  trial_le := show 2 ≤ 2 ^ 32 + 1 by decide
  run_eq := rfl

variable (h : InRange n s) (hsq : s.trial * s.trial ≤ s.rest)
include h hsq

theorem rest_pos : 0 < s.rest :=
  lt_of_lt_of_le (by decide) ((four_le_mul_self h.two_le).trans hsq)

theorem trial_lt (hn : n ≤ largestWord) : s.trial < 2 ^ 32 :=
  lt_of_mul_self_le_largestWord (hsq.trans (h.rest_le.trans hn))

/-- **One trial stays within words**, if the square of the divisor does not exceed what is left. -/
theorem turn (hn : n ≤ largestWord) (hturns : largestWord ≤ turns) :
    (trying turns).turn s = .ok s.step := by
  have hrest := h.rest_le.trans hn
  have htrial := h.trial_lt hsq hn
  have hnext : s.trial + (if s.trial = 2 then 1 else 2) ≤ largestWord := by
    rw [largestWord_eq]
    split <;> omega
  have hout := dividing_run h.two_le (h.rest_pos hsq) (h.sq_mul.trans_le hn)
    (hrest.trans hturns)
  simp only [trying, word_eq_ok (hsq.trans hrest), word_eq_ok hnext, hout, bind, Except.bind]
  rfl

theorem step (hn : n ≤ largestWord) : InRange n s.step where
  sq_mul := (divideOut_sq_mul s.trial s.root s.rest).trans h.sq_mul
  rest_le := s.rest_step_le.trans h.rest_le
  two_le := le_of_lt (lt_of_le_of_lt h.two_le s.trial_lt_step)
  trial_le := by
    have htrial := h.trial_lt hsq hn
    simp only [SquareSearch.step]
    split <;> omega
  run_eq := by
    have hwanted : (s.wanted && s.trial ≤ s.rest) = true := by
      have hle : s.trial ≤ s.trial * s.trial := Nat.le_mul_self _
      simp only [SquareSearch.wanted, Bool.and_eq_true, decide_eq_true_eq]
      omega
    rw [← h.run_eq, SquareSearch.run.eq_def s, if_pos hwanted]

end InRange

/-! ## Below the greatest word -/

/-- A square that is cut off does not exceed what is left unless this is the greatest word. -/
theorem sq_le_of_wanted (hwanted : s.wanted = true) (hrest : s.rest < largestWord) :
    s.trial * s.trial ≤ s.rest := by
  have hle : min (s.trial * s.trial) largestWord ≤ s.rest := of_decide_eq_true hwanted
  omega

/-- How many trials there may be before a divisor has more than 32 bits. -/
def trialsLeft (s : SquareSearch) : Nat := (2 ^ 32 + 2 - s.trial) / 2

theorem trialsLeft_start (n : Nat) : trialsLeft (start n) = 2 ^ 31 :=
  show (2 ^ 32 + 2 - 2) / 2 = 2 ^ 31 by decide

/-- **Below the greatest word, trial division makes progress.** -/
theorem trying_progresses (hn : n < largestWord) (hturns : largestWord ≤ turns) :
    (trying turns).Progresses (InRange n) trialsLeft := by
  intro s h
  rw [trying_wanted]
  cases hwanted : s.wanted with
  | false => exact Or.inl rfl
  | true =>
    have hsq := sq_le_of_wanted hwanted (lt_of_le_of_lt h.rest_le hn)
    refine Or.inr ⟨rfl, s.step, h.turn hsq hn.le hturns, h.step hsq hn.le, ?_⟩
    have htrial := h.trial_lt hsq hn.le
    simp only [trialsLeft, SquareSearch.step]
    split <;> omega

theorem inRange_of_after (hn : n < largestWord) (hturns : largestWord ≤ turns) {i : Nat}
    (h : (trying turns).After (start n) i s) : InRange n s := by
  refine h.invariant (InRange.start n) fun t u ht hwanted hturn => ?_
  have hsq := sq_le_of_wanted (Except.ok.inj hwanted) (lt_of_le_of_lt ht.rest_le hn)
  rw [ht.turn hsq hn.le hturns] at hturn
  rw [← Except.ok.inj hturn]
  exact ht.step hsq hn.le

/-! ## The greatest word -/

theorem squarefree_largestWord : Squarefree largestWord := by
  have hvalue : largestWord = 18446744073709551615 := rfl
  rw [hvalue, Nat.squarefree_iff_nodup_primeFactorsList (by decide)]
  simp only [Nat.primeFactorsList_ofNat]
  decide

theorem wanted_largestWord (k p : Nat) : (⟨k, largestWord, p⟩ : SquareSearch).wanted = true :=
  decide_eq_true (min_le_right (p * p) largestWord)

theorem step_largestWord (hp : 2 ≤ p) : (⟨1, largestWord, p⟩ : SquareSearch).step =
    ⟨1, largestWord, p + if p = 2 then 1 else 2⟩ := by
  have hdvd : ¬ largestWord % (p * p) = 0 := fun h =>
    squarefree_iff_not_dvd.mp squarefree_largestWord p hp (Nat.dvd_of_mod_eq_zero h)
  simp only [SquareSearch.step, divideOut_of_not_dvd hdvd]

/-- **The trial division of the greatest word** tries two and then one odd number after the other,
until the square of the next one does not fit into a word. -/
theorem after_largestWord (hturns : largestWord ≤ turns) {i : Nat} (hpos : 1 ≤ i)
    (hi : i ≤ 2 ^ 31) :
    InRange largestWord ⟨1, largestWord, 2 * i + 1⟩ ∧
      (trying turns).After (start largestWord) i ⟨1, largestWord, 2 * i + 1⟩ := by
  have hword := le_refl largestWord
  have hwanted (p : Nat) : (trying turns).wanted ⟨1, largestWord, p⟩ = .ok true := by
    rw [trying_wanted, wanted_largestWord]
  induction i, hpos using Nat.le_induction with
  | base =>
    have hstart := InRange.start largestWord
    have hsq : (start largestWord).trial * (start largestWord).trial ≤ largestWord := by decide
    have hturn := hstart.turn hsq hword hturns
    have hnext := hstart.step hsq hword
    rw [SquareSearch.start, step_largestWord (le_refl 2)] at hturn hnext
    exact ⟨hnext, .turn .start (hwanted 2) hturn⟩
  | succ i hpos ih =>
    obtain ⟨hrange, hafter⟩ := ih (by omega)
    have hsq : (2 * i + 1) * (2 * i + 1) ≤ largestWord := by
      have hle : 2 * i + 1 ≤ 2 ^ 32 - 1 := by omega
      exact (Nat.mul_self_le_mul_self hle).trans (by decide)
    have hturn := hrange.turn hsq hword hturns
    have hnext := hrange.step hsq hword
    rw [step_largestWord (by omega), if_neg (by omega)] at hturn hnext
    exact ⟨hnext, .turn hafter (hwanted _) hturn⟩

theorem run_largestWord (hturns : largestWord ≤ turns) (more : Nat) :
    (trying turns).run (2 ^ 31 + (more + 1)) (start largestWord) = .error .overflow := by
  have hafter := (after_largestWord hturns (by decide) (le_refl (2 ^ 31))).2
  have hwanted : (trying turns).wanted ⟨1, largestWord, 2 * 2 ^ 31 + 1⟩ = .ok true := by
    rw [trying_wanted, wanted_largestWord]
  rw [hafter.run_add, Loop.run_of_wanted hwanted]
  rfl

/-! ## The square-free part -/

/-- **The square-free part of any smaller number is found within words.** -/
theorem squareFree_words (hn : n < largestWord) (hturns : largestWord ≤ turns) :
    squareFree turns n = .ok (OneUnknown.squareFree n) := by
  rw [squareFree, OneUnknown.squareFree, isPerfectSquare_words hn.le hturns,
    isqrt_words hn.le hturns]
  by_cases h0 : n = 0
  · rw [if_pos h0, if_pos h0]
    rfl
  rw [if_neg h0, if_neg h0]
  by_cases hsquare : OneUnknown.isPerfectSquare n = true
  · simp only [hsquare]
    rfl
  · obtain ⟨t, hrun, ht, hend⟩ := (trying_progresses hn hturns).exists_run (InRange.start n)
    have hdone : t.run = t := by
      have hwanted : t.wanted = false := Except.ok.inj hend
      rw [SquareSearch.run, hwanted]
      rfl
    have hturns' : trialsLeft (start n) ≤ turns := by
      rw [trialsLeft_start]
      exact le_trans (by decide) hturns
    simp only [hsquare, hrun turns hturns', ← ht.run_eq, hdone]
    rfl

end Words

/-! ## Main statements -/

/-- **Trial division stays within its words for every word but the greatest.** In every state that
it comes to, the square of the divisor fits and does not exceed what is left, if a further trial is
wanted; and it ends after at most `2 ^ 31` trials with a divisor of at most `2 ^ 32 + 1`. -/
theorem trialDivision_safe_iff (hn : n ≤ largestWord) (hturns : largestWord ≤ turns) :
    ((∀ i s, (Words.trying turns).After (start n) i s → s.wanted = true →
        s.trial * s.trial ≤ s.rest ∧ s.trial * s.trial ≤ largestWord) ∧
      ∃ i s, i ≤ 2 ^ 31 ∧ (Words.trying turns).After (start n) i s ∧ s.wanted = false ∧
        s.trial ≤ 2 ^ 32 + 1) ↔
    n ≠ largestWord := by
  constructor
  · rintro ⟨hsafe, -⟩ rfl
    have hafter := (Words.after_largestWord hturns (by decide) (le_refl (2 ^ 31))).2
    have hsq := (hsafe _ _ hafter (Words.wanted_largestWord _ _)).2
    exact absurd hsq (by decide)
  · intro hne
    have hlt : n < largestWord := lt_of_le_of_ne hn hne
    refine ⟨fun i s hafter hwanted => ?_, ?_⟩
    · have hrest := (Words.inRange_of_after hlt hturns hafter).rest_le
      have hsq := Words.sq_le_of_wanted hwanted (lt_of_le_of_lt hrest hlt)
      exact ⟨hsq, hsq.trans (hrest.trans hn)⟩
    · obtain ⟨i, s, hi, hafter, hrange, hend⟩ :=
        (Words.trying_progresses hlt hturns).exists_after (Words.InRange.start n)
      rw [Words.trialsLeft_start] at hi
      exact ⟨i, s, hi, hafter, Except.ok.inj hend, hrange.trial_le⟩

/-- The trial division of the number below the greatest word ends. -/
theorem trialDivision_safe_below_largestWord :
    ∃ i s, i ≤ 2 ^ 31 ∧
      (Words.trying largestWord).After (start (largestWord - 1)) i s ∧ s.wanted = false ∧
      s.trial ≤ 2 ^ 32 + 1 :=
  ((trialDivision_safe_iff (by decide) (le_refl _)).mpr (by decide)).2

/-- The greatest word is still left when the square of the divisor does not fit any more, and the
next trial overflows. -/
theorem trialDivision_overflows :
    (Words.trying largestWord).After (start largestWord) (2 ^ 31) ⟨1, largestWord, 2 ^ 32 + 1⟩ ∧
    (⟨1, largestWord, 2 ^ 32 + 1⟩ : SquareSearch).wanted = true ∧
    largestWord < (2 ^ 32 + 1) * (2 ^ 32 + 1) ∧
    (Words.trying largestWord).run largestWord (start largestWord) = .error .overflow := by
  have hafter := (Words.after_largestWord (le_refl _) (by decide) (le_refl (2 ^ 31))).2
  refine ⟨hafter, Words.wanted_largestWord 1 (2 ^ 32 + 1), by decide, ?_⟩
  have hrun := Words.run_largestWord (le_refl _) (largestWord - 2 ^ 31 - 1)
  have hturns : 2 ^ 31 + (largestWord - 2 ^ 31 - 1 + 1) = largestWord := by decide
  rw [hturns] at hrun
  exact hrun

/-- **The square-free part is found, and found within words.** Of every positive number below the
greatest word it gives the only square and the only number without square factors that make it up,
and this number is one just if the given one is a square. Zero is the square of zero. -/
theorem squareFree_exact (hn : n < largestWord) (hturns : largestWord ≤ turns) :
    (n = 0 → Words.squareFree turns n = .ok (0, 1)) ∧
    (1 ≤ n → ∃ k m, Words.squareFree turns n = .ok (k, m) ∧ squareFree n = (k, m) ∧
      k ^ 2 * m = n ∧ (∀ p, 2 ≤ p → ¬ p * p ∣ m) ∧ (m = 1 ↔ IsSquare n) ∧
      ∀ k' m', k' ^ 2 * m' = n → (∀ p, 2 ≤ p → ¬ p * p ∣ m') → k' = k ∧ m' = m) := by
  have hwords := Words.squareFree_words hn hturns
  refine ⟨?_, fun hpos => ?_⟩
  · rintro rfl
    exact hwords
  refine ⟨(squareFree n).1, (squareFree n).2, hwords, rfl, squareFree_sq_mul n,
    fun p hp => not_dvd_squareFree n hp, squareFree_snd_eq_one_iff, fun k m hkm hm => ?_⟩
  have hk : k ≠ 0 := by
    rintro rfl
    omega
  exact eq_and_eq_of_sq_mul_eq (squarefree_iff_not_dvd.mpr hm) (squarefree_squareFree n) hk
    (hkm.trans (squareFree_sq_mul n).symm)

/-- The number below the greatest word is 49 times a product of six primes. -/
theorem squareFree_exact_below_largestWord :
    Words.squareFree largestWord (largestWord - 1) = .ok (7, 376464164769582686) := by
  have hsquarefree : Squarefree 376464164769582686 := by
    rw [Nat.squarefree_iff_nodup_primeFactorsList (by decide)]
    simp only [Nat.primeFactorsList_ofNat]
    decide
  obtain ⟨k, m, hrun, -, -, -, -, hunique⟩ :=
    (squareFree_exact (n := largestWord - 1) (by decide) (le_refl _)).2 (by decide)
  obtain ⟨rfl, rfl⟩ := hunique 7 376464164769582686 (by decide)
    (squarefree_iff_not_dvd.mp hsquarefree)
  exact hrun

end OneUnknown
