import OneUnknown.Equation.Reader

/-!
# What the errors of a row of tokens name

An error that ends the reading of tokens blames one of them: the one that is read, the last one
before it, or a sign of division that is remembered. What it says of a token is the column, the
spelling or the letter; it names no other column, spelling or letter.

* **`Ends`**: how a computation ends, by a success or an error with a property;
* **`Blames`**: the errors that blame a token;
* `Level.Remembers`, `Reader.Remembers`: what is remembered stems from tokens;
* `ends_step`, `ends_foldlM`, `ends_finish`: one token, a row of tokens, the end of input;
* **`ends_ofTokens`**: an error in a row of tokens blames one of them, and the unknown of an
  equation is a letter among them.
-/

namespace OneUnknown

variable {K : Type} [Scalar K] {α β : Type}

/-! ## How a computation ends -/

/-- **A success has one property, and an error another.** -/
def Ends (E : SolveError → Prop) (Q : α → Prop) : SolveResult α → Prop
  | .ok a => Q a
  | .error e => E e

namespace Ends

variable {E E' : SolveError → Prop} {Q Q' : α → Prop} {R : β → Prop} {x : SolveResult α}

theorem imp (h : Ends E Q x) (hE : ∀ e, E e → E' e) (hQ : ∀ a, Q a → Q' a) : Ends E' Q' x := by
  rcases x with e | a
  · exact hE e h
  · exact hQ a h

theorem bind {f : α → SolveResult β} (hx : Ends E Q x) (hf : ∀ a, Q a → Ends E R (f a)) :
    Ends E R (x >>= f) := by
  rcases x with e | a
  · exact hx
  · exact hf a hx

end Ends

/-! ## Errors that blame a token -/

variable {P : Token → Prop}

/-- A token stands in the column. -/
def StandsAt (P : Token → Prop) (column : Nat) : Prop := ∃ t, P t ∧ t.column = column

/-- A token is the letter. -/
def HasLetter (P : Token → Prop) (name : Char) : Prop := ∃ t, P t ∧ t.kind = .letter name

/-- **The errors that blame a token**, apart from the division by zero, which blames none. -/
inductive Blames (P : Token → Prop) : SolveError → Prop where
  | severalEquals {column : Nat} (h : StandsAt P column) :
    Blames P (.malformed (.severalEquals column))
  | unexpected {t : Token} (h : P t) : Blames P (.malformed (.unexpected t.lexeme t.column))
  | expectedOperand {t : Token} (h : P t) :
    Blames P (.malformed (.expectedOperand t.lexeme t.column))
  | expectedExpression {column : Nat} (h : StandsAt P column) :
    Blames P (.malformed (.expectedExpression column))
  | expectedClose {column : Nat} (h : StandsAt P column) :
    Blames P (.malformed (.expectedClose column))
  | missingOperator {t : Token} (h : P t) :
    Blames P (.malformed (.missingOperator t.lexeme t.column))
  | badExponent {column : Nat} (h : StandsAt P column) : Blames P (.malformed (.badExponent column))
  | numberTooLarge {column : Nat} (h : StandsAt P column) :
    Blames P (.malformed (.numberTooLarge column))
  | degreeTooHigh {limit column : Nat} (h : StandsAt P column) :
    Blames P (.malformed (.degreeTooHigh limit column))
  | mixedUnknowns {first second : Char} {column : Nat} (hfirst : HasLetter P first)
    (hsecond : HasLetter P second) (h : StandsAt P column) :
    Blames P (.malformed (.mixedUnknowns first second column))
  | divisionByUnknown {column : Nat} (h : StandsAt P column) :
    Blames P (.malformed (.divisionByUnknown column))
  | divisionByZero : Blames P .divisionByZero

/-! ## Checked operations -/

theorem ends_boundedMul {limit column : Nat} {p q : Polynomial K} (h : StandsAt P column) :
    Ends (Blames P) (fun _ => True) (boundedMul limit column p q) := by
  unfold boundedMul
  split
  · exact Blames.degreeTooHigh h
  · trivial

theorem ends_divideBy {column : Nat} {p q : Polynomial K} (h : StandsAt P column) :
    Ends (Blames P) (fun _ => True) (divideBy column p q) := by
  unfold divideBy
  split
  · split
    · exact Blames.divisionByZero
    · trivial
  · exact Blames.divisionByUnknown h

theorem ends_raise {limit column : Nat} {p : Polynomial K} {exponent : Nat}
    (h : StandsAt P column) :
    Ends (Blames P) (fun _ => True) (raise limit column p exponent) := by
  unfold raise
  split
  · dsimp only
    split
    · trivial
    · exact Blames.numberTooLarge h
  · split
    · exact Blames.degreeTooHigh h
    · trivial

theorem ends_bindUnknown {unknown? : Option Char} {name : Char} {column : Nat}
    (hunknown : ∀ first, unknown? = some first → HasLetter P first) (hname : HasLetter P name)
    (h : StandsAt P column) : Ends (Blames P) (HasLetter P) (bindUnknown unknown? name column) := by
  unfold bindUnknown
  split
  · exact hname
  · split
    · exact hname
    · exact Blames.mixedUnknowns (hunknown _ rfl) hname h

/-! ## What is remembered -/

/-- The sign of division before the present factor is a token. -/
def Level.Remembers (P : Token → Prop) (level : Level K) : Prop :=
  ∀ p slash, level.product? = some (p, .over slash) → StandsAt P slash

/-- **All that will be blamed stems from tokens.** The column of the last token is blamed only
behind a factor, so before the first token there need not be one. -/
structure Reader.Remembers (P : Token → Prop) (reader : Reader K) : Prop where
  unknown : ∀ name, reader.unknown? = some name → HasLetter P name
  level : reader.level.Remembers P
  outer : ∀ level ∈ reader.outer, level.Remembers P
  column : reader.stage = .operand ∨ StandsAt P reader.column

theorem Level.remembers_start : ({} : Level K).Remembers P := by
  intro p slash h
  simp at h

theorem Reader.remembers_start : ({} : Reader K).Remembers P :=
  ⟨by simp, Level.remembers_start, by simp, .inl rfl⟩

theorem ends_withFactor {level : Level K} {limit column : Nat} {p : Polynomial K}
    (hlevel : level.Remembers P) (h : StandsAt P column) :
    Ends (Blames P) (fun _ => True) (level.withFactor limit column p) := by
  unfold Level.withFactor
  dsimp only
  split
  · trivial
  · exact ends_boundedMul h
  · rename_i slash hslash
    exact ends_divideBy (hlevel _ slash hslash)

/-! ## One token -/

namespace Reader

variable {reader : Reader K} {t : Token} {limit : Nat} {p : Polynomial K}

theorem ends_operand (hreader : reader.Remembers P) (ht : P t) :
    Ends (Blames P) (Remembers P) (reader.operand t) := by
  have hcolumn : StandsAt P t.column := ⟨t, ht, rfl⟩
  unfold operand
  split
  · exact ⟨hreader.unknown, hreader.level, hreader.outer, .inr hcolumn⟩
  · rename_i name hname
    refine (ends_bindUnknown hreader.unknown ⟨t, ht, hname⟩ hcolumn).bind fun unknown h => ?_
    refine ⟨?_, hreader.level, hreader.outer, .inr hcolumn⟩
    rintro _ ⟨⟩
    exact h
  · refine ⟨hreader.unknown, Level.remembers_start, ?_, .inr hcolumn⟩
    exact List.forall_mem_cons.mpr ⟨hreader.level, hreader.outer⟩
  · exact ⟨hreader.unknown, hreader.level, hreader.outer, .inr hcolumn⟩
  · exact ⟨hreader.unknown, hreader.level, hreader.outer, .inr hcolumn⟩
  · exact Blames.expectedOperand ht

theorem blames_complaint (ht : P t) : Blames P (.malformed (reader.complaint t)) := by
  unfold complaint
  split
  · exact .unexpected ht
  · exact .expectedClose ⟨t, ht, rfl⟩

theorem ends_afterProduct (hreader : reader.Remembers P) (ht : P t) :
    Ends (Blames P) (Remembers P) (reader.afterProduct p t) := by
  have hcolumn : StandsAt P t.column := ⟨t, ht, rfl⟩
  have started : ∀ (outer : List (Level K)) (level : Level K) (left? : Option (Polynomial K))
      (stage : Stage K), (∀ l ∈ outer, l.Remembers P) → level.Remembers P →
      Remembers P ⟨reader.unknown?, left?, outer, level, stage, t.column⟩ :=
    fun _ _ _ _ houter hlevel => ⟨hreader.unknown, hlevel, houter, .inr hcolumn⟩
  have hadded : ∀ sum?, Level.Remembers P (K := K) ⟨sum?, none, 0⟩ := by
    intro sum? q slash h
    simp at h
  have htimes : ∀ sum? q, Level.Remembers P (K := K) ⟨sum?, some (q, .times), 0⟩ := by
    intro sum? q q' slash h
    simp at h
  unfold afterProduct
  dsimp only
  split
  · exact started _ _ _ _ hreader.outer (htimes _ _)
  · refine started _ _ _ _ hreader.outer ?_
    rintro q slash h
    obtain ⟨-, ⟨⟩⟩ := Prod.mk.inj (Option.some.inj h)
    exact hcolumn
  · exact started _ _ _ _ hreader.outer (hadded _)
  · exact started _ _ _ _ hreader.outer (hadded _)
  · exact ends_operand (started _ _ _ _ hreader.outer (htimes _ _)) ht
  · exact ends_operand (started _ _ _ _ hreader.outer (htimes _ _)) ht
  · exact Blames.missingOperator ht
  · split
    · exact blames_complaint ht
    · rename_i level outer houter
      have hall := hreader.outer
      rw [houter, List.forall_mem_cons] at hall
      exact started _ _ _ _ hall.2 hall.1
  · split
    · exact started _ _ _ _ hreader.outer Level.remembers_start
    · exact blames_complaint ht
  · exact blames_complaint ht
  · exact blames_complaint ht
  · exact blames_complaint ht

theorem ends_afterPower (hreader : reader.Remembers P) (hcolumn : StandsAt P reader.column)
    (ht : P t) : Ends (Blames P) (Remembers P) (reader.afterPower limit p t) :=
  (ends_withFactor hreader.level hcolumn).bind fun _ _ => ends_afterProduct hreader ht

theorem ends_raised {exponent : Nat} (hreader : reader.Remembers P) (ht : P t) :
    Ends (Blames P) (Remembers P) (reader.raised limit p exponent t) :=
  (ends_raise ⟨t, ht, rfl⟩).bind fun _ _ =>
    ⟨hreader.unknown, hreader.level, hreader.outer, .inr ⟨t, ht, rfl⟩⟩

/-- **One token**: an error blames it or what is remembered, and it is remembered itself. -/
theorem ends_step (hreader : reader.Remembers P) (ht : P t) :
    Ends (Blames P) (Remembers P) (reader.step limit t) := by
  have hcolumn : StandsAt P t.column := ⟨t, ht, rfl⟩
  unfold step
  split
  · exact ends_operand hreader ht
  · rename_i q hstage
    have hlast : StandsAt P reader.column := by simpa [hstage] using hreader.column
    split
    · exact ⟨hreader.unknown, hreader.level, hreader.outer, .inr hcolumn⟩
    · exact ends_raised hreader ht
    · exact ends_afterPower hreader hlast ht
  · split
    · split
      · exact ends_raised hreader ht
      · exact Blames.badExponent hcolumn
    · exact Blames.badExponent hcolumn
  · rename_i q hstage
    have hlast : StandsAt P reader.column := by simpa [hstage] using hreader.column
    exact ends_afterPower hreader hlast ht

/-- **A row of tokens.** -/
theorem ends_foldlM {ts : List Token} (hts : ∀ t ∈ ts, P t) (hreader : reader.Remembers P) :
    Ends (Blames P) (Remembers P) (ts.foldlM (step limit) reader) := by
  induction ts generalizing reader with
  | nil => exact hreader
  | cons t ts ih =>
    obtain ⟨ht, hts⟩ := List.forall_mem_cons.mp hts
    rw [List.foldlM_cons]
    exact (ends_step hreader ht).bind fun _ h => ih hts h

/-- **The end of input.** -/
theorem ends_finish {column : Nat} (hreader : reader.Remembers P) (h : StandsAt P column) :
    Ends (Blames P) (fun e : Equation K => ∀ name, e.unknown? = some name → HasLetter P name)
      (reader.finish limit column) := by
  have hclose : ∀ q, StandsAt P reader.column →
      Ends (Blames P) (fun _ => True) (reader.close limit q column) := by
    intro q hcolumn
    refine (ends_withFactor hreader.level hcolumn).bind fun _ _ => ?_
    split
    · trivial
    · exact Blames.expectedClose h
  have hequation : ∀ e : Equation K, e.unknown? = reader.unknown? → Ends (Blames P)
      (fun e : Equation K => ∀ name, e.unknown? = some name → HasLetter P name) (pure e) := by
    intro e hunknown name hname
    rw [hunknown] at hname
    exact hreader.unknown name hname
  unfold finish
  rcases hstage : reader.stage with _ | q | q | q
  · exact Blames.expectedExpression h
  · refine (hclose q ?_).bind fun side _ => hequation _ (by cases reader.left? <;> rfl)
    simpa [hstage] using hreader.column
  · exact Blames.badExponent h
  · refine (hclose q ?_).bind fun side _ => hequation _ (by cases reader.left? <;> rfl)
    simpa [hstage] using hreader.column

end Reader

/-! ## Rows of tokens -/

theorem stands_of_mem_equalsColumns {ts : List Token} {column : Nat}
    (h : column ∈ equalsColumns ts) : StandsAt (· ∈ ts) column := by
  obtain ⟨t, ht, rfl⟩ := List.mem_map.mp h
  exact ⟨t, (List.mem_filter.mp ht).1, rfl⟩

theorem stands_endColumn {ts : List Token} {stop : Token} (hmem : stop ∈ ts)
    (hstop : stop.kind.isEnd = true) : StandsAt (· ∈ ts) (endColumn ts) := by
  rcases hfind : ts.find? (·.kind.isEnd) with _ | t
  · simpa [hstop] using List.find?_eq_none.mp hfind stop hmem
  · refine ⟨t, List.mem_of_find?_eq_some hfind, ?_⟩
    simp only [endColumn, hfind]

/-- **An error in a row of tokens that has an end blames one of them**, and the unknown of an
equation is a letter among them. -/
theorem ends_ofTokens (limit : Nat) {ts : List Token} {stop : Token} (hmem : stop ∈ ts)
    (hstop : stop.kind.isEnd = true) :
    Ends (Blames (· ∈ ts))
      (fun e : Equation K => ∀ name, e.unknown? = some name → HasLetter (· ∈ ts) name)
      (Equation.ofTokens limit ts) := by
  unfold Equation.ofTokens
  split
  · rename_i first second others hequals
    exact Blames.severalEquals (stands_of_mem_equalsColumns (by rw [hequals]; simp))
  · have hbody : ∀ t ∈ body ts, t ∈ ts := fun t ht => (List.takeWhile_sublist _).subset ht
    exact (Reader.ends_foldlM hbody Reader.remembers_start).bind fun _ h =>
      Reader.ends_finish h (stands_endColumn hmem hstop)

end OneUnknown
