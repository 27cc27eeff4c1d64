import OneUnknown.Equation.Reader

/-!
# Greater limits on the degree

The limit on the degree is looked at where two polynomials are multiplied and where one is raised
to a power, and nowhere else. There a greater limit allows what a smaller one allows, and what is
allowed does not depend on it. So two readings of the same tokens go on in lockstep until a degree
exceeds the smaller limit, and there the reading under the smaller limit ends.

* **`AgreesUpTo`**: two computations that come to the same unless a limit is exceeded;
* `agreesUpTo_boundedMul`, `agreesUpTo_raise`: the two places where the limit is looked at;
* `agreesUpTo_step`, `agreesUpTo_foldlM`, `agreesUpTo_finish`: one token, a row of tokens, the end
  of input;
* **`ofTokens_of_limit_le`**: a greater limit never changes an answer.
-/

namespace OneUnknown

variable {K : Type} [Scalar K] {α β : Type} {limit limit' : Nat}

/-! ## Agreement up to a limit -/

/-- **Two computations come to the same**, unless the first one exceeds its limit. -/
def AgreesUpTo (limit : Nat) (x y : SolveResult α) : Prop :=
  x = y ∨ ∃ column, x = .error (.malformed (.degreeTooHigh limit column))

namespace AgreesUpTo

variable {x y : SolveResult α} {f g : α → SolveResult β}

theorem refl (limit : Nat) (x : SolveResult α) : AgreesUpTo limit x x := .inl rfl

theorem exceeds (limit column : Nat) (y : SolveResult α) :
    AgreesUpTo limit (.error (.malformed (.degreeTooHigh limit column))) y := .inr ⟨column, rfl⟩

theorem bind (h : AgreesUpTo limit x y) (hf : ∀ a, AgreesUpTo limit (f a) (g a)) :
    AgreesUpTo limit (x >>= f) (y >>= g) := by
  rcases h with rfl | ⟨column, rfl⟩
  · rcases x with e | a
    · exact refl limit _
    · exact hf a
  · exact exceeds limit column _

end AgreesUpTo

/-! ## Where the limit is looked at -/

theorem agreesUpTo_boundedMul (h : limit ≤ limit') (column : Nat) (p q : Polynomial K) :
    AgreesUpTo limit (boundedMul limit column p q) (boundedMul limit' column p q) := by
  unfold boundedMul
  by_cases hdegree : limit < p.degree + q.degree
  · rw [if_pos hdegree]
    exact .exceeds limit column _
  · have hdegree' : ¬ limit' < p.degree + q.degree := by omega
    rw [if_neg hdegree, if_neg hdegree']
    exact .refl limit _

theorem agreesUpTo_raise (h : limit ≤ limit') (column : Nat) (p : Polynomial K) (exponent : Nat) :
    AgreesUpTo limit (raise limit column p exponent) (raise limit' column p exponent) := by
  unfold raise
  cases p.asConstant? with
  | some c => exact .refl limit _
  | none =>
    by_cases hdegree : limit < p.degree * exponent
    · simp only [if_pos hdegree]
      exact .exceeds limit column _
    · have hdegree' : ¬ limit' < p.degree * exponent := by omega
      simp only [if_neg hdegree, if_neg hdegree']
      exact .refl limit _

theorem agreesUpTo_withFactor (h : limit ≤ limit') (level : Level K) (column : Nat)
    (p : Polynomial K) :
    AgreesUpTo limit (level.withFactor limit column p) (level.withFactor limit' column p) := by
  unfold Level.withFactor
  rcases level.product? with _ | ⟨product, _ | slash⟩
  · exact .refl limit _
  · exact agreesUpTo_boundedMul h column product _
  · exact .refl limit _

/-! ## One token -/

namespace Reader

theorem agreesUpTo_afterPower (h : limit ≤ limit') (reader : Reader K) (p : Polynomial K)
    (t : Token) :
    AgreesUpTo limit (reader.afterPower limit p t) (reader.afterPower limit' p t) :=
  (agreesUpTo_withFactor h reader.level reader.column p).bind fun _ => .refl limit _

theorem agreesUpTo_raised (h : limit ≤ limit') (reader : Reader K) (p : Polynomial K)
    (exponent : Nat) (t : Token) :
    AgreesUpTo limit (reader.raised limit p exponent t) (reader.raised limit' p exponent t) :=
  (agreesUpTo_raise h t.column p exponent).bind fun _ => .refl limit _

/-- **One token** is read in the same way, or its degree is too high. -/
theorem agreesUpTo_step (h : limit ≤ limit') (reader : Reader K) (t : Token) :
    AgreesUpTo limit (reader.step limit t) (reader.step limit' t) := by
  unfold step
  rcases reader.stage with _ | p | p | p
  · exact .refl limit _
  · cases t.kind with
    | caret => exact .refl limit _
    | superscript exponent => exact agreesUpTo_raised h reader p exponent t
    | number | letter | plus | minus | star | slash | equals | openParen | closeParen
      | endOfInput => exact agreesUpTo_afterPower h reader p t
  · cases t.kind with
    | number value =>
      dsimp only
      cases exponentOf? value with
      | some exponent => exact agreesUpTo_raised h reader p exponent t
      | none => exact .refl limit _
    | letter | superscript | plus | minus | star | slash | caret | equals | openParen
      | closeParen | endOfInput => exact .refl limit _
  · exact agreesUpTo_afterPower h reader p t

/-! ## Rows of tokens -/

/-- **A row of tokens**, by induction on it: both readers are in the same state before a token. -/
theorem agreesUpTo_foldlM (h : limit ≤ limit') (ts : List Token) (reader : Reader K) :
    AgreesUpTo limit (ts.foldlM (step limit) reader) (ts.foldlM (step limit') reader) := by
  induction ts generalizing reader with
  | nil => exact .refl limit _
  | cons t ts ih =>
    rw [List.foldlM_cons, List.foldlM_cons]
    exact (agreesUpTo_step h reader t).bind ih

theorem agreesUpTo_close (h : limit ≤ limit') (reader : Reader K) (p : Polynomial K)
    (column : Nat) :
    AgreesUpTo limit (reader.close limit p column) (reader.close limit' p column) :=
  (agreesUpTo_withFactor h reader.level reader.column p).bind fun _ => .refl limit _

/-- **The end of input.** -/
theorem agreesUpTo_finish (h : limit ≤ limit') (reader : Reader K) (column : Nat) :
    AgreesUpTo limit (reader.finish limit column) (reader.finish limit' column) := by
  unfold finish
  rcases reader.stage with _ | p | p | p
  · exact .refl limit _
  · exact (agreesUpTo_close h reader p column).bind fun _ => .refl limit _
  · exact .refl limit _
  · exact (agreesUpTo_close h reader p column).bind fun _ => .refl limit _

end Reader

/-! ## Equations -/

theorem agreesUpTo_ofTokens (h : limit ≤ limit') (ts : List Token) :
    AgreesUpTo limit (Equation.ofTokens (K := K) limit ts) (Equation.ofTokens limit' ts) := by
  unfold Equation.ofTokens
  split
  · exact .refl limit _
  · exact (Reader.agreesUpTo_foldlM h _ _).bind fun reader =>
      Reader.agreesUpTo_finish h reader _

/-- **A greater limit never changes an answer.** An equation that is read under a limit is the same
under a greater one, and so is every error but that the limit is exceeded. What is read under the
greater limit is read under the smaller one, or exceeds it. -/
theorem ofTokens_of_limit_le (h : limit ≤ limit') (ts : List Token) :
    (∀ e : Equation K, Equation.ofTokens limit ts = .ok e → Equation.ofTokens limit' ts = .ok e) ∧
    (∀ error, Equation.ofTokens (K := K) limit ts = .error error →
      (∀ column, error ≠ .malformed (.degreeTooHigh limit column)) →
      Equation.ofTokens (K := K) limit' ts = .error error) ∧
    (∀ e : Equation K, Equation.ofTokens limit' ts = .ok e → Equation.ofTokens limit ts = .ok e ∨
      ∃ column, Equation.ofTokens (K := K) limit ts =
        .error (.malformed (.degreeTooHigh limit column))) := by
  have hagrees := agreesUpTo_ofTokens (K := K) h ts
  refine ⟨fun e he => ?_, fun error herror hne => ?_, fun e he => ?_⟩
  · rcases hagrees with heq | ⟨column, hcolumn⟩
    · exact heq.symm.trans he
    · exact nomatch he.symm.trans hcolumn
  · rcases hagrees with heq | ⟨column, hcolumn⟩
    · exact heq.symm.trans herror
    · exact absurd (Except.error.inj (herror.symm.trans hcolumn)) (hne column)
  · exact hagrees.imp_left fun heq => heq.trans he

/-- The product `x * x` is the same under the limits 2 and 64, and exceeds the limit 1. -/
theorem ofTokens_square_of_limit_le :
    let ts : List Token := [⟨.letter 'x', "x", 1⟩, ⟨.star, "*", 2⟩, ⟨.letter 'x', "x", 3⟩]
    (2 ≤ 64 ∧ ∃ e : Equation Float, Equation.ofTokens 2 ts = .ok e ∧
      Equation.ofTokens 64 ts = .ok e) ∧
    1 ≤ 2 ∧ ∃ column, Equation.ofTokens (K := Float) 1 ts =
      .error (.malformed (.degreeTooHigh 1 column)) := by
  intro ts
  have hsome : (Equation.ofTokens (K := Float) 2 ts).toOption.isSome := by decide +kernel
  have hnone : (Equation.ofTokens (K := Float) 1 ts).toOption.isSome = false := by decide +kernel
  obtain ⟨e, he⟩ : ∃ e : Equation Float, Equation.ofTokens 2 ts = .ok e := by
    rcases hread : Equation.ofTokens (K := Float) 2 ts with error | e
    · rw [hread] at hsome
      exact Bool.noConfusion hsome
    · exact ⟨e, rfl⟩
  refine ⟨⟨by decide, e, he, (ofTokens_of_limit_le (by decide) ts).1 e he⟩, by decide, ?_⟩
  rcases (ofTokens_of_limit_le (by decide : 1 ≤ 2) ts).2.2 e he with hok | hexceeds
  · rw [hok] at hnone
    exact Bool.noConfusion hnone
  · exact hexceeds

end OneUnknown
