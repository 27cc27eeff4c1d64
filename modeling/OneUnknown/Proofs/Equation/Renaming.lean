import Mathlib.Logic.Equiv.Basic
import OneUnknown.Proofs.Equation.Relabelling

/-!
# The letter of the unknown does not matter

Letters are compared with each other while an equation is read, and nothing else is done with them.
So a renaming that keeps the letters of a row of tokens apart can be carried out before the row is
read or afterwards: the sides of the equation are the same, its unknown is renamed, and an error
stands in the same column and says the same, the letters it names apart.

* **`SolveResult.renamed`**: an outcome under another name, its column as it was;
* `endColumn_renamed`: a renamed row ends where the row does;
* `ofTokens_renamed`, **`ofTokens_renamed_iff`**: a renamed row of tokens is read as the row is.
-/

namespace OneUnknown

variable {K : Type} [Scalar K] {α β : Type} {f : Char → Char} (limit : Nat)

/-! ## Columns that are kept -/

theorem SolveError.column?_renamed (e : SolveError) : (e.renamed f).column? = e.column? := by
  rcases e with complaint | _ | _ | kind
  · cases complaint <;> rfl
  · rfl
  · rfl
  · rfl

theorem Complaint.moved_id (complaint : Complaint) : complaint.moved id = complaint := by
  cases complaint with
  | lexical error => cases error <;> rfl
  | severalEquals | unexpected | expectedOperand | expectedExpression | expectedClose
    | missingOperator | badExponent | numberTooLarge | degreeTooHigh | mixedUnknowns
    | divisionByUnknown | missingEquals | missingRightSide | notLinear | aboveQuadratic
    | missingSquare | negativeRadicand | emptyInput => rfl

theorem SolveError.moved_id (e : SolveError) : e.moved id = e := by
  cases e with
  | malformed complaint => exact congrArg SolveError.malformed complaint.moved_id
  | divisionByZero | noVariable | notImplemented => rfl

/-- **The outcome under another name**, a success or an error. -/
def SolveResult.renamed (f : Char → Char) (g : α → β) : SolveResult α → SolveResult β
  | .ok a => .ok (g a)
  | .error e => .error (e.renamed f)

theorem SolveResult.relabelled_id (g : α → β) (x : SolveResult α) :
    SolveResult.relabelled f id g x = SolveResult.renamed f g x := by
  cases x with
  | error e => exact congrArg Except.error (e.renamed f).moved_id
  | ok a => rfl

/-! ## Rows of tokens -/

@[simp] theorem Token.length_lexeme_renamed (t : Token) :
    (t.renamed f).lexeme.length = t.lexeme.length := by
  unfold Token.renamed
  split
  · simp
  · rfl

theorem endColumn_renamed (ts : List Token) :
    endColumn (ts.map (Token.renamed f)) = endColumn ts := by
  simp only [endColumn, List.find?_map, List.getLast?_map, Function.comp_def, Token.kind_renamed,
    TokenKind.isEnd_renamed]
  rcases hfind : ts.find? (·.kind.isEnd) with _ | stop
  · rcases hlast : ts.getLast? with _ | last
    · simp [hfind]
    · simp [hfind, Token.endColumn]
  · simp [hfind]

/-- **A renamed row of tokens is read as the row is**, and the outcome is renamed. -/
theorem ofTokens_renamed {ts : List Token} (hf : KeepsApart (· ∈ ts) f) :
    Equation.ofTokens limit (ts.map (Token.renamed f)) =
      SolveResult.renamed f (Equation.renamed f) (Equation.ofTokens (K := K) limit ts) := by
  rw [← SolveResult.relabelled_id]
  exact ofTokens_relabelled (g := id) limit hf rfl (endColumn_renamed ts)

/-- **The letter of the unknown does not matter.** Under other names that are kept apart, a row of
tokens is read just if it is read as it stands. The sides are the same then, and the unknown, if
there is one, has its other name. Otherwise the error is of the same kind, in the same column, and
differs in the letters that it names. -/
theorem ofTokens_renamed_iff {ts : List Token} (hf : KeepsApart (· ∈ ts) f) :
    ((∃ e : Equation K, Equation.ofTokens limit (ts.map (Token.renamed f)) = .ok e) ↔
      ∃ e : Equation K, Equation.ofTokens limit ts = .ok e) ∧
    (∀ e : Equation K, Equation.ofTokens limit ts = .ok e →
      Equation.ofTokens limit (ts.map (Token.renamed f)) =
        .ok ⟨e.unknown?.map f, e.left, e.right?⟩) ∧
    ∀ error, Equation.ofTokens (K := K) limit ts = .error error →
      ∃ error', Equation.ofTokens (K := K) limit (ts.map (Token.renamed f)) = .error error' ∧
        error' = error.renamed f ∧ error'.ctorIdx = error.ctorIdx ∧
        error'.column? = error.column? := by
  rw [ofTokens_renamed limit hf]
  rcases Equation.ofTokens (K := K) limit ts with error | e
  · refine ⟨?_, (fun _ he => nomatch he), ?_⟩
    · exact iff_of_false (fun ⟨e, he⟩ => nomatch he) fun ⟨e, he⟩ => nomatch he
    · rintro _ ⟨⟩
      refine ⟨_, rfl, rfl, ?_, error.column?_renamed⟩
      cases error <;> rfl
  · refine ⟨iff_of_true ⟨_, rfl⟩ ⟨_, rfl⟩, ?_, (fun _ he => nomatch he)⟩
    rintro _ ⟨⟩
    rfl

/-- With the letters exchanged, `x + y` is refused in the same column, and `x = 1` has the other
unknown. -/
theorem ofTokens_renamed_swap :
    let f : Char → Char := Equiv.swap 'x' 'y'
    let mixed : List Token := [⟨.letter 'x', "x", 1⟩, ⟨.plus, "+", 3⟩, ⟨.letter 'y', "y", 5⟩]
    let one : List Token := [⟨.letter 'x', "x", 1⟩, ⟨.equals, "=", 3⟩, ⟨.number 1, "1", 5⟩]
    KeepsApart (· ∈ mixed) f ∧ KeepsApart (· ∈ one) f ∧
    Equation.ofTokens (K := Float) 1 (mixed.map (Token.renamed f)) =
      .error (.malformed (.mixedUnknowns 'y' 'x' 5)) ∧
    ∃ e : Equation Float, Equation.ofTokens 1 one = .ok e ∧
      Equation.ofTokens 1 (one.map (Token.renamed f)) = .ok ⟨some 'y', e.left, e.right?⟩ := by
  intro f mixed one
  have hf : ∀ P, KeepsApart P f := fun P => (Equiv.swap 'x' 'y').injective.injOn
  have herror : Equation.ofTokens (K := Float) 1 mixed =
    .error (.malformed (.mixedUnknowns 'x' 'y' 5)) := rfl
  have hok : Equation.ofTokens (K := Float) 1 one =
    .ok ⟨some 'x', .monomial 1 1, some (.constant 1)⟩ := rfl
  refine ⟨hf _, hf _, ?_, _, hok, (ofTokens_renamed_iff 1 (hf _)).2.1 _ hok⟩
  obtain ⟨error', herror', rfl, -⟩ := (ofTokens_renamed_iff 1 (hf _)).2.2 _ herror
  exact herror'

end OneUnknown
