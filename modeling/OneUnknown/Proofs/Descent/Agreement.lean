import OneUnknown.Proofs.Descent.Answer

/-!
# Recursive descent reads what the reader reads

Every rule of the grammar keeps to one contract: from a spot where the reader expects what the rule
reads, the rule ends at a spot where the reader that has taken in the value gives the same answer,
or it is refused as the reader is. Each turn of a loop and each step into a parenthesis passes
a token, so that as many turns as there are tokens suffice.

* `Reads`, `Checks`: the contracts of a rule and of a checked operation;
* `reads_primary`, `reads_power`, `reads_unary`, `reads_factors`, `reads_terms`,
  **`reads_expression`**: one rule after the other;
* **`meets_equation`**: the whole row.
-/

namespace OneUnknown.Descent

variable {K : Type} [Scalar K] {row : List Token} {limit : Nat} {x y : Spot} {t : Token}
  {c : Context K} {level : Level K} {sum? : Option (Polynomial K × TermSign)}
  {expected : SolveResult (Equation K)}

/-! ## Contracts -/

/-- **A run reads a part of an expression**: the reader that takes its value in gives the expected
answer. -/
def Reads (limit : Nat) (row : List Token) (x : Spot) (m : Descent K (Polynomial K))
    (expected : SolveResult (Equation K)) (c : Context K) (level : Level K)
    (stage : Polynomial K → Stage K) (P : Spot → Prop) : Prop :=
  Meets row x m (fun p y => answer limit row y c level (stage p) = expected ∧ P y)
    fun e => expected = .error e

/-- A run carries out a check on the spot. -/
def Checks {α : Type} (row : List Token) (x : Spot) (m : Descent K α) (result : SolveResult α) :
    Prop :=
  Meets row x m (fun a y => result = .ok a ∧ y = x) fun e => result = .error e

/-- The kind of the token at a spot passes a test. -/
def Ahead (row : List Token) (test : TokenKind → Bool) (x : Spot) : Prop :=
  ∀ t, row[x.position]? = some t → test t.kind = true

theorem Ahead.of_token {test : TokenKind → Bool} (ht : row[x.position]? = some t)
    (h : test t.kind = true) : Ahead row test x := by
  intro u hu
  obtain rfl : t = u := Option.some.inj (ht.symm.trans hu)
  exact h

/-- A phrase is read wherever it starts behind a position. -/
def ReadsPhrases (limit : Nat) (row : List Token) (phrase : Descent K (Polynomial K)) (n : Nat) :
    Prop :=
  ∀ y : Spot, n < y.position → ∀ c : Context K,
    Reads limit row y phrase (answer limit row y c {} .operand) c {} .power (Ahead row endsSum)

/-! ## Checked operations -/

theorem yields_powLoop (result base : Polynomial K) (exponent : Nat) :
    Yields row x (powLoop result base exponent) (Polynomial.powFrom result base exponent) x := by
  induction exponent using Nat.strongRecOn generalizing result base with
  | ind exponent ih =>
    rw [powLoop, Polynomial.powFrom]
    by_cases hzero : exponent = 0
    · rw [if_pos hzero, if_pos hzero]
      exact Yields.pure
    rw [if_neg hzero, if_neg hzero]
    have hrest (result : Polynomial K) : Yields row x
        (if exponent / 2 = 0 then pure result
          else do powLoop result (← build (base.mul base)) (exponent / 2))
        (if exponent / 2 = 0 then result
          else Polynomial.powFrom result (base.mul base) (exponent / 2)) x := by
      by_cases hhalf : exponent / 2 = 0
      · rw [if_pos hhalf, if_pos hhalf]
        exact Yields.pure
      · rw [if_neg hhalf, if_neg hhalf]
        exact (yields_build _).trans (ih (exponent / 2) (by omega) _ _)
    by_cases hodd : exponent % 2 = 1
    · simp only [hodd, if_true]
      exact (yields_build _).trans (hrest _)
    · simp only [hodd, if_false]
      exact hrest _

theorem exists_previous (hpos : 0 < x.position) (ht : row[x.position]? = some t) :
    ∃ u, row[x.position - 1]? = some u ∧ columnBefore row x.position = u.column := by
  have hlt := (List.getElem?_eq_some_iff.mp ht).1
  refine ⟨row[x.position - 1], List.getElem?_eq_getElem (by omega), ?_⟩
  rw [columnBefore, if_neg (by omega), List.getElem?_eq_getElem (by omega)]
  rfl

theorem checks_raised (hpos : 0 < x.position) (base : Polynomial K) (exponent : Nat) :
    Checks row x (raised row limit base exponent)
      (raise limit (columnBefore row x.position) base exponent) := by
  refine Meets.of_token fun t ht => ?_
  obtain ⟨u, hu, hcolumn⟩ := exists_previous hpos ht
  rw [hcolumn]
  refine (yields_previous hpos hu).bind ?_
  unfold raise
  cases base.asConstant? with
  | some value =>
    by_cases hfinite : Scalar.isFinite (Scalar.power value exponent) = true
    · simp only [hfinite, if_true]
      exact (yields_build _).meets ⟨rfl, rfl⟩
    · simp only [hfinite]
      exact Meets.refuse rfl
  | none =>
    by_cases hdegree : limit < base.degree * exponent
    · simp only [hdegree, if_true]
      exact Meets.refuse rfl
    · simp only [hdegree, if_false]
      exact (yields_build _).bind ((yields_powLoop _ _ _).meets ⟨rfl, rfl⟩)

theorem checks_times (hpos : 0 < x.position) (p q : Polynomial K) :
    Checks row x (times row limit p q) (boundedMul limit (columnBefore row x.position) p q) := by
  refine Meets.of_token fun t ht => ?_
  obtain ⟨u, hu, hcolumn⟩ := exists_previous hpos ht
  rw [hcolumn]
  unfold times boundedMul
  by_cases hdegree : limit < p.degree + q.degree
  · simp only [hdegree, if_true]
    refine Meets.get fun s _ hx => ?_
    subst hx
    refine (yields_tokenAt hu (.inr (by exact Nat.sub_add_cancel hpos))).bind ?_
    exact Meets.refuse rfl
  · simp only [hdegree, if_false]
    exact (yields_build _).meets ⟨rfl, rfl⟩

theorem checks_dividedBy (column : Nat) (p q : Polynomial K) :
    Checks row x (dividedBy column p q) (divideBy column p q) := by
  unfold dividedBy divideBy
  cases q.asConstant? with
  | some d =>
    by_cases hzero : (d == 0) = true
    · simp only [hzero, if_true]
      exact Meets.throw_refused rfl
    · simp only [hzero]
      exact (yields_build _).meets ⟨rfl, rfl⟩
  | none => exact Meets.refuse rfl

/-! ## Primaries and powers -/

section Rules

variable {phrase : Descent K (Polynomial K)} {n : Nat} (hrow : IsClosed row)
  (hphrase : ReadsPhrases limit row phrase n)

include hrow hphrase

theorem reads_primary (hn : n ≤ x.position) (ht : row[x.position]? = some t)
    (hminus : t.kind ≠ .minus) (hplus : t.kind ≠ .plus) :
    Reads limit row x (primary row phrase) (answer limit row x c level .operand) c level .base
      fun y => x.position < y.position := by
  cases hk : t.kind with
  | number value =>
    refine (yields_advance hrow ht (by rw [hk]; rfl)).bind ?_
    simp only [hk]
    exact (yields_build _).meets ⟨(answer_number ht hk).symm, Nat.lt_succ_self _⟩
  | letter name =>
    refine (yields_advance hrow ht (by rw [hk]; rfl)).bind ?_
    simp only [hk]
    refine (meets_bindLetter name t.column).bind_imp
      (fun e he => answer_letter_of_error ht hk he) ?_
    rintro _ _ _ ⟨unknown, hbind, rfl⟩
    exact (yields_build _).meets ⟨(answer_letter ht hk hbind).symm, Nat.lt_succ_self _⟩
  | openParen =>
    rw [answer_openParen ht hk]
    refine (yields_advance hrow ht (by rw [hk]; rfl)).bind ?_
    simp only [hk]
    refine (hphrase x.next (Nat.lt_succ_of_le hn) _).bind ?_
    rintro p y hle ⟨hread, hahead⟩
    refine Meets.of_token fun u hu => ?_
    by_cases hclose : u.kind = .closeParen
    · refine (yields_consume hrow hu rfl hclose).bind (Meets.pure ⟨?_, ?_⟩)
      · exact (answer_closeParen hu hclose).symm.trans hread
      · exact Nat.lt_succ_of_lt hle
    · refine (meets_consume_of_ne hu rfl hclose ?_).bind fun _ _ _ => False.elim
      exact hread.symm.trans (answer_expectedClose hu hclose (hahead u hu))
  | endOfInput =>
    refine (yields_advance_of_isEnd ht (by rw [hk]; rfl)).bind ?_
    simp only [hk]
    exact Meets.refuse (answer_operand_of_isEnd ht (by rw [hk]; rfl))
  | minus => exact absurd hk hminus
  | plus => exact absurd hk hplus
  | superscript | star | slash | caret | equals | closeParen =>
    refine (yields_advance hrow ht (by rw [hk]; rfl)).bind ?_
    simp only [hk]
    exact Meets.refuse (answer_of_neverBegins ht (by rw [hk]; rfl))

omit hphrase in
/-- The exponent behind a base: what the power makes of it, is what the reader makes of it. -/
theorem meets_exponent (p : Polynomial K)
    (hread : answer limit row x c level (.base p) = expected) :
    Meets row x (exponent? row : Descent K (Option Nat))
      (fun exponent? y => match exponent? with
        | none => y = x ∧ answer limit row x c level (.power p) = expected
        | some exponent => x.position < y.position ∧
          (∀ q, raise limit (columnBefore row y.position) p exponent = .ok q →
            answer limit row y c level (.power q) = expected) ∧
          ∀ e, raise limit (columnBefore row y.position) p exponent = .error e →
            expected = .error e)
      fun e => expected = .error e := by
  subst hread
  refine Meets.of_token fun t ht => (yields_peek ht).bind ?_
  by_cases hcaret : t.kind = .caret
  · simp only [hcaret]
    rw [answer_caret ht hcaret]
    refine (yields_advance hrow ht (by rw [hcaret]; rfl)).bind ?_
    refine Meets.of_token fun u hu => ?_
    cases hk : u.kind with
    | number value =>
      refine (yields_advance hrow hu (by rw [hk]; rfl)).bind ?_
      simp only [hk]
      cases hvalue : exponentOf? value with
      | none =>
        refine Meets.refuse (answer_badExponent hu fun v exponent hv => ?_)
        obtain rfl : value = v := by simpa [hk] using hv
        simp [hvalue]
      | some exponent =>
        refine Meets.pure ⟨Nat.lt_succ_of_lt (Nat.lt_succ_self _), ?_⟩
        rw [Spot.position_next, columnBefore_succ hu]
        exact ⟨fun q hq => (answer_exponent hu hk hvalue hq).symm,
          fun e he => answer_exponent_of_error hu hk hvalue he⟩
    | endOfInput =>
      refine (yields_advance_of_isEnd hu (by rw [hk]; rfl)).bind ?_
      simp only [hk]
      exact Meets.refuse (answer_badExponent hu (by simp [hk]))
    | letter | superscript | plus | minus | star | slash | caret | equals | openParen
      | closeParen =>
      refine (yields_advance hrow hu (by rw [hk]; rfl)).bind ?_
      simp only [hk]
      exact Meets.refuse (answer_badExponent hu (by simp [hk]))
  by_cases hsuper : ∃ exponent, t.kind = .superscript exponent
  · obtain ⟨exponent, hk⟩ := hsuper
    simp only [hk]
    refine (yields_advance hrow ht (by rw [hk]; rfl)).bind (Meets.pure ⟨Nat.lt_succ_self _, ?_⟩)
    rw [Spot.position_next, columnBefore_succ ht]
    exact ⟨fun q hq => (answer_superscript ht hk hq).symm,
      fun e he => answer_superscript_of_error ht hk he⟩
  · split
    · exact absurd ‹_› hcaret
    · exact absurd ⟨_, ‹_›⟩ hsuper
    · exact Meets.pure
        ⟨rfl, (answer_base ht hcaret fun exponent hk => hsuper ⟨exponent, hk⟩).symm⟩

theorem reads_power (hn : n ≤ x.position) (ht : row[x.position]? = some t)
    (hminus : t.kind ≠ .minus) (hplus : t.kind ≠ .plus) :
    Reads limit row x (power row limit phrase) (answer limit row x c level .operand) c level
      .power fun y => x.position < y.position := by
  refine (reads_primary hrow hphrase hn ht hminus hplus).bind ?_
  rintro p y - ⟨hread, hlt⟩
  refine (meets_exponent hrow p hread).bind ?_
  rintro (_ | exponent) z - h
  · obtain ⟨rfl, hpower⟩ := h
    exact Meets.pure ⟨hpower, hlt⟩
  · obtain ⟨hlt', hok, herror⟩ := h
    refine (checks_raised (by omega) p exponent).imp ?_ herror
    rintro q _ - ⟨hq, rfl⟩
    exact ⟨hok q hq, Nat.lt_trans hlt hlt'⟩

/-! ## Unary expressions -/

theorem reads_unary {turns : Nat} (hn : n ≤ x.position)
    (hturns : row.length ≤ x.position + turns) :
    Reads limit row x (unary row limit phrase turns) (answer limit row x c level .operand) c level
      .power fun y => x.position < y.position := by
  induction turns generalizing x level with
  | zero => exact Meets.of_length_le hturns
  | succ turns ih =>
    refine Meets.of_token fun t ht => ?_
    have hturns' : row.length ≤ x.next.position + turns := by rw [Spot.position_next]; omega
    by_cases hminus : t.kind = .minus
    · rw [answer_minus ht hminus]
      refine (yields_matchToken hrow ht rfl hminus).bind ?_
      rw [if_pos rfl]
      refine (ih (Nat.le_succ_of_le hn) hturns').bind ?_
      rintro p y hle ⟨hread, -⟩
      refine Meets.of_token fun u hu => (yields_build _).meets ⟨?_, hle⟩
      exact (answer_neg hu).symm.trans hread
    refine (yields_matchToken_of_ne ht rfl hminus).bind ?_
    rw [if_neg (by simp)]
    by_cases hplus : t.kind = .plus
    · rw [answer_plus ht hplus]
      refine (yields_matchToken hrow ht rfl hplus).bind ?_
      rw [if_pos rfl]
      refine (ih (Nat.le_succ_of_le hn) hturns').imp ?_ fun _ => id
      exact fun p y _ h => ⟨h.1, Nat.lt_of_succ_lt h.2⟩
    refine (yields_matchToken_of_ne ht rfl hplus).bind ?_
    rw [if_neg (by simp)]
    exact reads_power hrow hphrase hn ht hminus hplus

/-! ## Terms -/

omit hrow hphrase in
theorem reads_combined {m : Descent K (Polynomial K)}
    {rest : Polynomial K → Descent K (Polynomial K)} {factor : Polynomial K} {P : Spot → Prop}
    (hread : answer limit row x c level (.power factor) = expected)
    (hchecks : Checks row x m (level.withFactor limit (columnBefore row x.position) factor))
    (hrest : ∀ product, Reads limit row x (rest product)
      (answer limit row x c ⟨level.sum?, none, 0⟩ (.power product)) c ⟨level.sum?, none, 0⟩
      .power P) :
    Reads limit row x (m >>= rest) expected c ⟨level.sum?, none, 0⟩ .power P := by
  refine Meets.of_token fun t ht => ?_
  refine hchecks.bind_imp (fun e he => hread.symm.trans (answer_power_of_error ht he)) ?_
  rintro product _ - ⟨hproduct, rfl⟩
  rw [← hread, answer_power ht hproduct]
  exact hrest product

omit hrow hphrase in
theorem endsSum_of_ne (hplus : t.kind ≠ .plus) (hminus : t.kind ≠ .minus) :
    endsSum t.kind = endsTerm t.kind := by
  cases hk : t.kind <;> simp_all [endsSum]

omit hrow hphrase in
theorem endsTerm_of_not (hstar : t.kind ≠ .star) (hslash : t.kind ≠ .slash)
    (hbegins : beginsPrimary t.kind = false) : endsTerm t.kind = true := by
  cases hk : t.kind <;> simp_all [endsTerm, beginsPrimary]

omit hrow hphrase in
theorem beside_of_beginsPrimary (hbegins : beginsPrimary t.kind = true)
    (hnumber : ∀ value, t.kind ≠ .number value) :
    (∃ name, t.kind = .letter name) ∨ t.kind = .openParen := by
  cases hk : t.kind <;> simp_all [beginsPrimary]

theorem reads_factors {turns : Nat} (hn : n ≤ x.position)
    (hturns : row.length ≤ x.position + turns) (product : Polynomial K) :
    Reads limit row x (factors row limit phrase turns product)
      (answer limit row x c ⟨sum?, none, 0⟩ (.power product)) c ⟨sum?, none, 0⟩ .power
      (Ahead row endsTerm) := by
  induction turns generalizing x product with
  | zero => exact Meets.of_length_le hturns
  | succ turns ih =>
    refine Meets.of_token fun t ht => ?_
    have hn' : n ≤ x.next.position := Nat.le_succ_of_le hn
    have hturns' : row.length ≤ x.next.position + turns := by rw [Spot.position_next]; omega
    by_cases hstar : t.kind = .star
    · rw [answer_star ht hstar]
      refine (yields_matchToken hrow ht rfl hstar).bind ?_
      rw [if_pos rfl]
      refine (reads_unary hrow hphrase hn' hturns').bind ?_
      rintro factor y hle ⟨hread, hlt⟩
      exact reads_combined hread (checks_times (by omega) _ _)
        (ih (Nat.le_trans hn' hle) (by omega))
    refine (yields_matchToken_of_ne ht rfl hstar).bind ?_
    rw [if_neg (by simp)]
    refine (yields_check ht).bind ?_
    by_cases hslash : t.kind = .slash
    · rw [answer_slash ht hslash, if_pos (by rw [hslash]; rfl)]
      refine (yields_advance hrow ht (by rw [hslash]; rfl)).bind ?_
      refine (reads_unary hrow hphrase hn' hturns').bind ?_
      rintro factor y hle ⟨hread, hlt⟩
      exact reads_combined hread (checks_dividedBy _ _ _) (ih (Nat.le_trans hn' hle) (by omega))
    rw [if_neg (by rwa [beq_iff_of_isSign rfl])]
    refine (yields_startsPrimary ht).bind ?_
    cases hbegins : beginsPrimary t.kind with
    | true =>
      rw [if_pos rfl]
      refine (yields_peek ht).bind ?_
      split
      · rename_i value hk
        exact (yields_peek ht).bind (Meets.refuse (answer_missingOperator ht hk))
      rename_i hnumber
      have hbeside := beside_of_beginsPrimary hbegins fun value hk => hnumber value hk
      rw [answer_beside ht hbeside]
      have hsign : t.kind ≠ .minus ∧ t.kind ≠ .plus := by
        rcases hbeside with ⟨name, hk⟩ | hk <;> simp [hk]
      refine (reads_power hrow hphrase hn ht hsign.1 hsign.2).bind ?_
      rintro factor y hle ⟨hread, hlt⟩
      exact reads_combined hread (checks_times (by omega) _ _)
        (ih (Nat.le_trans hn hle) (by omega))
    | false =>
      rw [if_neg (by simp)]
      exact Meets.pure ⟨rfl, .of_token ht (endsTerm_of_not hstar hslash hbegins)⟩

theorem reads_term {turns : Nat} (hn : n ≤ x.position) (hturns : row.length ≤ x.position + turns) :
    Reads limit row x (term row limit phrase turns)
      (answer limit row x c ⟨sum?, none, 0⟩ .operand) c ⟨sum?, none, 0⟩ .power
      (Ahead row endsTerm) := by
  refine (reads_unary hrow hphrase hn hturns).bind ?_
  rintro factor y hle ⟨hread, -⟩
  rw [← hread]
  exact reads_factors hrow hphrase (Nat.le_trans hn hle) (by omega) factor

/-! ## Expressions -/

theorem reads_terms {turns : Nat} (hn : n ≤ x.position) (hturns : row.length ≤ x.position + turns)
    (hends : Ahead row endsTerm x) (sum : Polynomial K) :
    Reads limit row x (terms row limit phrase turns sum) (answer limit row x c {} (.power sum)) c
      {} .power (Ahead row endsSum) := by
  induction turns generalizing x sum with
  | zero => exact Meets.of_length_le hturns
  | succ turns ih =>
    refine Meets.of_token fun t ht => ?_
    have hn' : n ≤ x.next.position := Nat.le_succ_of_le hn
    have hturns' : row.length ≤ x.next.position + turns := by rw [Spot.position_next]; omega
    have hterm (sign : TermSign) : Reads limit row x.next
        (do
          let last ← term row limit phrase turns
          terms row limit phrase turns (← build (Level.total ⟨some (sum, sign), none, 0⟩ last)))
        (answer limit row x.next c ⟨some (sum, sign), none, 0⟩ .operand) c {} .power
        (Ahead row endsSum) := by
      refine (reads_term hrow hphrase hn' hturns').bind ?_
      rintro last y hle ⟨hread, hahead⟩
      refine Meets.of_token fun u hu => (yields_build _).bind ?_
      rw [← hread, answer_total hu (hahead u hu)]
      exact ih (Nat.le_trans hn' hle) (by omega) hahead _
    by_cases hplus : t.kind = .plus
    · rw [answer_added ht hplus]
      refine (yields_matchToken hrow ht rfl hplus).bind ?_
      rw [if_pos rfl]
      exact hterm .plus
    refine (yields_matchToken_of_ne ht rfl hplus).bind ?_
    rw [if_neg (by simp)]
    by_cases hminus : t.kind = .minus
    · rw [answer_subtracted ht hminus]
      refine (yields_matchToken hrow ht rfl hminus).bind ?_
      rw [if_pos rfl]
      exact hterm .minus
    refine (yields_matchToken_of_ne ht rfl hminus).bind ?_
    rw [if_neg (by simp)]
    refine Meets.pure ⟨rfl, .of_token ht ?_⟩
    rw [endsSum_of_ne hplus hminus]
    exact hends t ht

end Rules

/-- **An expression is read** wherever the turns suffice. -/
theorem reads_expression (hrow : IsClosed row) {turns : Nat}
    (hturns : row.length ≤ x.position + turns) :
    Reads limit row x (expression row limit turns) (answer limit row x c {} .operand) c {} .power
      (Ahead row endsSum) := by
  induction turns generalizing x c with
  | zero => exact Meets.of_length_le hturns
  | succ turns ih =>
    -- a phrase in parentheses starts behind `x`, where one turn less suffices
    have hphrase : ReadsPhrases limit row (expression row limit turns) x.position :=
      fun y hy c => ih (by omega)
    refine (reads_term hrow hphrase (Nat.le_refl _) hturns).bind ?_
    rintro sum y hle ⟨hread, hahead⟩
    rw [← hread]
    exact reads_terms hrow hphrase hle (by omega) hahead sum

/-! ## Equations -/

theorem meets_rightSide? (hrow : IsClosed row) {turns : Nat}
    (hturns : row.length ≤ x.position + turns) (left : Polynomial K)
    (hread : answer limit row x ⟨none, []⟩ {} (.power left) = expected)
    (hahead : Ahead row endsSum x) :
    Meets row x (rightSide? row limit turns)
      (fun right? y =>
        answer limit row y ⟨right?.map fun _ => left, []⟩ {} (.power (right?.getD left)) =
          expected ∧
        Ahead row endsSum y ∧
        ∀ t, row[y.position]? = some t → t.kind = .equals → right?.isSome = true)
      fun e => expected = .error e := by
  refine Meets.of_token fun t ht => ?_
  by_cases hequals : t.kind = .equals
  · refine (yields_matchToken hrow ht rfl hequals).bind ?_
    rw [if_pos rfl, ← hread, answer_equals ht hequals]
    refine (reads_expression hrow ?_).bind ?_
    · rw [Spot.position_next]; omega
    rintro right y - ⟨hright, hends⟩
    exact Meets.pure ⟨hright, hends, fun _ _ _ => rfl⟩
  · refine (yields_matchToken_of_ne ht rfl hequals).bind ?_
    rw [if_neg (by simp)]
    refine Meets.pure ⟨hread, hahead, fun u hu hk => absurd hk ?_⟩
    obtain rfl : t = u := Option.some.inj (ht.symm.trans hu)
    exact hequals

theorem ofTokens_eq_answer (hrow : IsClosed row)
    (hequals : ∀ first second rest, equalsColumns row ≠ first :: second :: rest) :
    Equation.ofTokens (K := K) limit row =
      answer limit row ⟨0, none⟩ ⟨none, []⟩ {} .operand := by
  obtain ⟨stop, hlast, hstop⟩ := hrow
  have hend : ∃ t ∈ row, t.kind.isEnd = true := ⟨stop, List.mem_of_getLast? hlast, hstop⟩
  have hread := Reader.resume_eq_foldlM (K := K) limit hend {}
  unfold Equation.ofTokens
  split
  · exact absurd ‹_› (hequals _ _ _)
  · exact hread.symm

/-- **A row is read as the reader reads it**, when there are as many turns as tokens. -/
theorem meets_equation (hrow : IsClosed row) {turns : Nat} (hturns : row.length ≤ turns) :
    Meets row ⟨0, none⟩ (equation row limit turns : Descent K (Equation K))
      (fun e _ => Equation.ofTokens limit row = .ok e)
      fun e => Equation.ofTokens (K := K) limit row = .error e := by
  by_cases hequals : ∃ first second rest, equalsColumns row = first :: second :: rest
  · obtain ⟨first, second, rest, hcolumns⟩ := hequals
    simp only [equation, Equation.ofTokens, hcolumns]
    exact Meets.refuse rfl
  have hne : ∀ first second rest, equalsColumns row ≠ first :: second :: rest :=
    fun first second rest h => hequals ⟨first, second, rest, h⟩
  rw [ofTokens_eq_answer hrow hne]
  unfold equation
  split
  · exact absurd ‹_› (hne _ _ _)
  refine (reads_expression hrow (by simpa using hturns)).bind ?_
  rintro left y - ⟨hleft, hahead⟩
  refine (meets_rightSide? hrow (by omega) left hleft hahead).bind ?_
  rintro right? z - ⟨hread, hends, hsome⟩
  refine Meets.of_token fun t ht => (yields_atEnd ht).bind ?_
  cases hend : t.kind.isEnd with
  | true =>
    rw [if_pos rfl]
    refine Meets.get fun s _ hs => Meets.pure ?_
    subst hs
    rw [← hread, answer_end ht hend]
    cases right? <;> rfl
  | false =>
    rw [if_neg (by simp)]
    refine (yields_peek ht).bind (Meets.refuse ?_)
    rw [← hread]
    exact answer_unexpected ht hend (by simpa using hsome t ht) (hends t ht)

end OneUnknown.Descent
