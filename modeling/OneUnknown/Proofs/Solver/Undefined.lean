import OneUnknown.Proofs.Number.Whole
import OneUnknown.Proofs.Polynomial.Degree
import OneUnknown.Proofs.Quadratic.Exact
import OneUnknown.RealRoots

/-!
# Undefined answers

An answer is undefined if a text divides by zero, and also if a leading coefficient is so small that
it is written as the whole number zero. The latter happens to linear and quadratic equations whose
other coefficients are whole. In every other case an equation of the right degree has an answer.

* `fractionText_eq_error_iff`: fractions without a text;
* `Linear.Vanishes`, `Quadratic.Vanishes`: equations whose leading coefficient is lost;
* `Linear.answer_eq_error_iff`, `Quadratic.rootsText_eq_error_iff`: equations without an answer;
* `RealRoots.exists_answer`: roots of a polynomial always have a text;
* **`solve_eq_divisionByZero_iff`**: the texts whose answer is undefined.
-/

namespace OneUnknown

variable {places limit : Nat} {text : String} {error : SolveError}

/-! ## Fractions -/

namespace Radical

theorem fraction_zero (n : Int) : fraction n 0 = .error .divisionByZero := rfl

theorem exists_fraction {d : Int} (hd : d ≠ 0) (n : Int) : ∃ r, fraction n d = .ok r :=
  ⟨_, of_ne_zero hd⟩

end Radical

/-- **A fraction has no text** if its denominator is zero, or if both of its parts are whole and the
denominator stands for zero. -/
theorem fractionText_eq_error_iff {n d : Float} : fractionText places n d = .error error ↔
    ((d == 0) = true ∨ (asInteger? n).isSome ∧ d.abs ≤ integralTolerance) ∧
      .divisionByZero = error := by
  unfold fractionText
  rw [← asInteger?_eq_zero_iff]
  cases hd : d == 0 with
  | true => simp
  | false =>
    rcases hn : asInteger? n with _ | a
    · simp
    rcases hm : asInteger? d with _ | b
    · simp
    by_cases hb : b = 0
    · subst hb
      simp [Radical.fraction_zero, bind, Except.bind]
    · obtain ⟨r, hr⟩ := Radical.exists_fraction hb a
      simp [hr, hb, bind, Except.bind, pure, Except.pure]

/-- What has no other error than a division by zero, and this one just if `P` holds, succeeds unless
`P` holds. -/
theorem exists_ok_iff_not {α : Type} {x : SolveResult α} {P : Prop}
    (h : ∀ error, x = .error error ↔ P ∧ .divisionByZero = error) :
    (∃ a, x = .ok a) ↔ ¬ P := by
  rcases x with error | a
  · exact iff_of_false (by simp) (not_not.mpr ((h error).mp rfl).1)
  · refine iff_of_true ⟨a, rfl⟩ fun hP => ?_
    exact absurd ((h .divisionByZero).mpr ⟨hP, rfl⟩) (by simp)

/-! ## Linear equations -/

namespace Linear

/-- **The leading coefficient is lost**: it stands for zero, and the constant is whole. -/
def Vanishes (e : Equation Float) : Prop :=
  e.normalized.degree? = some 1 ∧ (asInteger? (-e.normalized.coeff 0)).isSome ∧
    (e.normalized.coeff 1).abs ≤ integralTolerance

theorem answer_eq_error_iff {e : Equation Float} (h : e.normalized.degree? = some 1) :
    answer places e = .error error ↔ Vanishes e ∧ .divisionByZero = error := by
  have herror : fractionText places (-e.normalized.coeff 0) (e.normalized.coeff 1) =
      .error error ↔ _ := fractionText_eq_error_iff
  simp only [Polynomial.coeff_beq_zero_of_degree? h, Bool.false_eq_true, false_or] at herror
  simp only [answer, h, Vanishes, true_and]
  rw [← herror]
  rcases fractionText places (-e.normalized.coeff 0) (e.normalized.coeff 1) with e | s
  · simp [bind, Except.bind]
  · simp [bind, Except.bind, pure, Except.pure]

theorem answer_eq_divisionByZero_iff {e : Equation Float} :
    answer places e = .error .divisionByZero ↔ Vanishes e := by
  by_cases h : e.normalized.degree? = some 1
  · simp [answer_eq_error_iff h]
  · refine iff_of_false ?_ fun hv => h hv.1
    unfold answer
    dsimp only
    split <;> simp_all

theorem checkText_ne_divisionByZero (text : List Char) :
    checkText text ≠ .error .divisionByZero := by
  unfold checkText
  split
  · simp
  · simp
  · split <;> simp

end Linear

/-! ## Quadratic equations -/

namespace Quadratic

/-- **The leading coefficient is lost**: it stands for zero, the other coefficients are whole, and
the discriminant that is left is in the exact range. -/
def Vanishes (q : Quadratic) : Prop :=
  q.a.abs ≤ integralTolerance ∧ ∃ b c, asInteger? q.b = some b ∧ asInteger? q.c = some c ∧
    (exactDiscriminant? 0 b c).isSome

theorem exactText_zero_leading (name : Char) (b D : Int) :
    exactText name 0 b D = .error .divisionByZero := by
  unfold exactText realPair
  simp only [mul_zero, Radical.fraction_zero, Radical.of_zero]
  split
  · split <;> rfl
  · split <;> rfl

theorem exists_exactText (name : Char) {a : Int} (ha : a ≠ 0) (b D : Int) :
    ∃ answer, exactText name a b D = .ok answer := by
  rcases lt_trichotomy D 0 with hD | rfl | hD
  · obtain ⟨re, im, h, -⟩ := exactText_of_neg name ha b hD
    exact ⟨_, h⟩
  · obtain ⟨r, h, -⟩ := exactText_zero name ha b
    exact ⟨_, h⟩
  · obtain ⟨r₁, r₂, h, -⟩ := exactText_of_pos name ha b hD
    exact ⟨_, h⟩

theorem rootsText_eq_error_iff {q : Quadratic} :
    q.rootsText places = .error error ↔ q.Vanishes ∧ .divisionByZero = error := by
  unfold rootsText Vanishes
  rw [← asInteger?_eq_zero_iff]
  rcases ha : asInteger? q.a with _ | a
  · simp
  rcases hb : asInteger? q.b with _ | b
  · simp
  rcases hc : asInteger? q.c with _ | c
  · simp
  by_cases h0 : a = 0
  · subst h0
    rcases hD : exactDiscriminant? 0 b c with _ | D
    · simp [hD]
    · simp [hD, exactText_zero_leading]
  · rcases hD : exactDiscriminant? a b c with _ | D
    · simp [hD, h0]
    · obtain ⟨answer, hanswer⟩ := exists_exactText q.name h0 b D
      simp [hD, hanswer, h0]

theorem parse_eq_divisionByZero_iff : parse limit text = .error .divisionByZero ↔
    Equation.parse (K := Float) limit text = .error .divisionByZero := by
  unfold parse
  rcases Equation.parse (K := Float) limit text with error | e
  · simp [bind, Except.bind]
  · refine iff_of_false ?_ (by simp)
    simp only [bind, Except.bind]
    split
    · simp
    · unfold ofEquation
      dsimp only
      split
      · simp
      · split <;> simp
      · simp

end Quadratic

/-! ## Equations of any degree -/

theorem exists_mapM_eq_ok {α β ε : Type} {f : α → Except ε β} (h : ∀ a, ∃ b, f a = .ok b)
    (l : List α) : ∃ bs, l.mapM f = .ok bs := by
  induction l with
  | nil => exact ⟨[], rfl⟩
  | cons a l ih =>
    obtain ⟨b, hb⟩ := h a
    obtain ⟨bs, hbs⟩ := ih
    exact ⟨b :: bs, by simp [List.mapM_cons, hb, hbs, bind, Except.bind, pure, Except.pure]⟩

theorem exists_fractionText_one (places : Nat) (x : Float) :
    ∃ s, fractionText places x 1 = .ok s := by
  rcases h : fractionText places x 1 with error | s
  · obtain ⟨hzero | ⟨-, hsmall⟩, -⟩ := fractionText_eq_error_iff.mp h
    · exact absurd hzero (by decide)
    · exact absurd hsmall (by decide)
  · exact ⟨s, rfl⟩

theorem RealRoots.exists_answer (settings : NewtonSettings) (places : Nat) (e : Equation Float) :
    ∃ s, answer settings places e = .ok s := by
  unfold answer
  dsimp only
  split
  · exact ⟨_, rfl⟩
  · exact ⟨_, rfl⟩
  · split
    · exact ⟨_, rfl⟩
    · obtain ⟨texts, htexts⟩ := exists_mapM_eq_ok (exists_fractionText_one places)
        (findRoots settings places e.normalized)
      exact ⟨_, by rw [htexts]; rfl⟩

/-! ## Texts -/

/-- **The texts whose answer is undefined.** They divide by zero, or they spell an equation whose
leading coefficient is lost. Any other equation of the right degree has an answer. -/
theorem solve_eq_divisionByZero_iff (settings : NewtonSettings) (places limit : Nat)
    (text : String) :
    (Linear.solve places limit text = .error .divisionByZero ↔
      Linear.checkText text.toList = .ok () ∧
        (Equation.parse (K := Float) limit text = .error .divisionByZero ∨
          ∃ e, Equation.parse limit text = .ok e ∧ Linear.Vanishes e)) ∧
    (Quadratic.solve places limit text = .error .divisionByZero ↔
      Equation.parse (K := Float) limit text = .error .divisionByZero ∨
        ∃ q, Quadratic.parse limit text = .ok q ∧ q.Vanishes) ∧
    (RealRoots.solve settings places limit text = .error .divisionByZero ↔
      Equation.parse (K := Float) limit text = .error .divisionByZero) ∧
    (∀ e, e.normalized.degree? = some 1 →
      ((∃ s, Linear.answer places e = .ok s) ↔ ¬ Linear.Vanishes e)) ∧
    (∀ q : Quadratic, (∃ s, q.rootsText places = .ok s) ↔ ¬ q.Vanishes) ∧
    ∀ e, ∃ s, RealRoots.answer settings places e = .ok s := by
  refine ⟨?_, ?_, ?_, ?_, ?_, RealRoots.exists_answer settings places⟩
  · unfold Linear.solve
    have hcheck := Linear.checkText_ne_divisionByZero text.toList
    rcases hc : Linear.checkText text.toList with error | ⟨⟩
    · rw [hc] at hcheck
      simpa [bind, Except.bind] using hcheck
    · rcases hp : Equation.parse (K := Float) limit text with error | e
      · simp [bind, Except.bind]
      · simp [bind, Except.bind, Linear.answer_eq_divisionByZero_iff]
  · rw [← Quadratic.parse_eq_divisionByZero_iff, Quadratic.solve]
    rcases hp : Quadratic.parse limit text with error | q
    · simp [bind, Except.bind]
    · simp [bind, Except.bind, Quadratic.rootsText_eq_error_iff]
  · unfold RealRoots.solve
    rcases hp : Equation.parse (K := Float) limit text with error | e
    · simp [bind, Except.bind]
    · obtain ⟨s, hs⟩ := RealRoots.exists_answer settings places e
      simp [bind, Except.bind, hs]
  · exact fun e he => exists_ok_iff_not fun _ => Linear.answer_eq_error_iff he
  · exact fun q => exists_ok_iff_not fun _ => Quadratic.rootsText_eq_error_iff

set_option maxRecDepth 100000 in
/-- The equation `0.0000000001x = 1` has degree one and divides by nothing, but its leading
coefficient is lost. -/
theorem solve_tiny_coefficient :
    Linear.solve 6 64 "0.0000000001x = 1" = .error .divisionByZero ∧
      ∃ e : Equation Float, Equation.parse 64 "0.0000000001x = 1" = .ok e ∧
        e.normalized.degree? = some 1 ∧ (e.normalized.coeff 1 == 0) = false := by
  have hcheck : Linear.checkText "0.0000000001x = 1".toList = .ok () := by
    with_unfolding_all rfl
  have hparse : ((Equation.parse (K := Float) 64 "0.0000000001x = 1").toOption.map fun e =>
      (e.normalized.degree?, e.normalized.coeff 1 == 0, (asInteger? (-e.normalized.coeff 0)).isSome,
        decide ((e.normalized.coeff 1).abs ≤ integralTolerance))) =
      some (some 1, false, true, true) := by
    with_unfolding_all decide
  rcases h : Equation.parse (K := Float) 64 "0.0000000001x = 1" with error | e
  · rw [h] at hparse
    simp [Except.toOption] at hparse
  · simp only [h, Except.toOption, Option.map_some, Option.some.injEq, Prod.mk.injEq,
      decide_eq_true_eq] at hparse
    obtain ⟨hdegree, hleading, hwhole, hsmall⟩ := hparse
    refine ⟨?_, e, rfl, hdegree, hleading⟩
    rw [Linear.solve, hcheck, h]
    exact Linear.answer_eq_divisionByZero_iff.mpr ⟨hdegree, hwhole, hsmall⟩

end OneUnknown
