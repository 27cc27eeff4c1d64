import OneUnknown.Proofs.Equation.Blame
import OneUnknown.Proofs.Quadratic.Layouts
import OneUnknown.Proofs.Text.OneLine
import OneUnknown.Proofs.Token.Layout
import OneUnknown.Solver

/-!
# Answers and errors stand on one line

Whatever text is to be solved, neither its answer nor its error has a line feed. A line feed is a
blank, so no token has one in its spelling, and no error of the scanner names one.

* `isOneLine_decimalText`, `Radical.isOneLine_text`: numbers;
* `Token.IsOneLine`, `Scans.isOneLine`: tokens;
* `Fault.isOneLine`, **`Blames.isOneLine`**: what errors say;
* **`isOneLine_answerText_solve`**: what a person is told.
-/

namespace OneUnknown

variable {places limit : Nat}

/-! ## Numbers -/

theorem isOneLine_decimalText (places : Nat) (x : Float) : IsOneLine (decimalText places x) := by
  intro h
  rw [decimalText, String.toList_ofList] at h
  exact absurd (mem_fixedText (mem_withoutTrailingZeros h)) (by decide)

theorem Radical.isOneLine_text (r : Radical) : IsOneLine r.text :=
  fun h => absurd (Radical.mem_text h) (by decide)

theorem Radical.ends_of (c k : Int) (n : Nat) (d : Int) :
    Ends (fun e => IsOneLine e.message) (fun _ => True) (Radical.of c k n d) := by
  by_cases h : d = 0
  · subst h
    exact (by decide : IsOneLine SolveError.divisionByZero.message)
  · rw [of_ne_zero h]
    trivial

/-- **The answer, or the wording of the error, stands on one line.** -/
def EndsOnOneLine : SolveResult String → Prop := Ends (fun e => IsOneLine e.message) IsOneLine

theorem endsOnOneLine_fractionText (n d : Float) : EndsOnOneLine (fractionText places n d) := by
  have hzero : IsOneLine SolveError.divisionByZero.message := by decide
  unfold fractionText
  split
  · exact hzero
  · split
    · exact (Radical.ends_of _ _ _ _).bind fun r _ => r.isOneLine_text
    · exact isOneLine_decimalText _ _

/-! ## Solutions -/

section Texts

variable {name : Char}

theorem isOneLine_assignment {value : String} (hname : name ≠ '\n') (hvalue : IsOneLine value) :
    IsOneLine (assignment name value) := by
  rw [assignment, isOneLine_append, isOneLine_append, isOneLine_toString]
  exact ⟨⟨hname, by decide⟩, hvalue⟩

theorem isOneLine_pairText {first second : String} (hname : name ≠ '\n')
    (hfirst : IsOneLine first) (hsecond : IsOneLine second) :
    IsOneLine (pairText name first second) := by
  rw [pairText, isOneLine_append, isOneLine_append]
  exact ⟨⟨isOneLine_assignment hname hfirst, by decide⟩, isOneLine_assignment hname hsecond⟩

theorem isOneLine_complexText {re im : String} (hname : name ≠ '\n') (hre : IsOneLine re)
    (reIsZero : Bool) (him : IsOneLine im) : IsOneLine (complexText name re reIsZero im) := by
  have hsign : IsOneLine "±" := by decide
  have hgap : IsOneLine " ± " := by decide
  have hunit : IsOneLine "i" := by decide
  unfold complexText
  split
  · exact isOneLine_assignment hname (by simp [hsign, him, hunit])
  · exact isOneLine_assignment hname (by simp [hre, hgap, him, hunit])

end Texts

/-! ## Tokens -/

/-- The spelling of the token has no line feed, and its letter is none. -/
structure Token.IsOneLine (t : Token) : Prop where
  lexeme : OneUnknown.IsOneLine t.lexeme
  letter : t.kind ≠ .letter '\n'

theorem Piece.isOneLine {run rest : List Char} {kind : TokenKind} (h : Piece run rest kind)
    (column : Nat) : Token.IsOneLine ⟨kind, String.ofList run, column⟩ := by
  cases h with
  | @symbol c _ _ hc =>
    have hsymbol : symbol? '\n' = none := by decide
    refine ⟨isOneLine_ofList.mpr ?_, ?_⟩
    · rw [List.mem_singleton]
      rintro rfl
      simp [hsymbol] at hc
    · rintro ⟨⟩
      unfold symbol? at hc
      split at hc <;> simp at hc
  | number hrun =>
    exact ⟨isOneLine_ofList.mpr fun h => absurd (hrun.of_mem _ h) (by decide), by simp⟩
  | superscript hrun =>
    exact ⟨isOneLine_ofList.mpr fun h => absurd (hrun.of_mem _ h) (by decide), by simp⟩
  | @letter c _ _ _ _ hletter =>
    have hne : c ≠ '\n' := by
      rintro rfl
      exact absurd hletter (by decide +kernel)
    exact ⟨isOneLine_ofList.mpr (by simpa using hne.symm), by simpa using hne⟩

theorem Scans.isOneLine {column : Nat} {text : List Char} {result : Except LexError (List Token)}
    (h : Scans column text result) {ts : List Token} (hts : result = .ok ts) :
    ∀ t ∈ ts, t.IsOneLine := by
  induction h generalizing ts with
  | stop =>
    obtain rfl := Except.ok.inj hts
    exact List.forall_mem_singleton.mpr ⟨(by decide : OneUnknown.IsOneLine ""), by simp⟩
  | @token column gap run rest kind result hgap hpiece h ih =>
    rcases result with e | later
    · simp [Except.map] at hts
    · obtain rfl := Except.ok.inj hts
      exact List.forall_mem_cons.mpr ⟨hpiece.isOneLine _, ih rfl⟩
  | fault => simp at hts

/-! ## Errors -/

theorem Fault.isOneLine {column : Nat} {text : List Char} {e : LexError}
    (h : Fault column text e) : IsOneLine e.message := by
  have hcolumn : IsOneLine "' at column " := by decide
  cases h with
  | @character c rest hc =>
    have hne : c ≠ '\n' := by
      rintro rfl
      exact absurd hc (by decide +kernel)
    have hwording : IsOneLine "Unexpected character '" := by decide
    unfold LexError.message
    simp only [isOneLine_append, isOneLine_natText, isOneLine_toString, and_true]
    exact ⟨⟨hwording, hne⟩, hcolumn⟩
  | @number run rest hrun _ =>
    have hpart : '\n' ∉ refusedPart run := by
      unfold refusedPart
      split
      · decide
      · exact fun h => absurd (hrun.of_mem _ h) (by decide)
    have hwording : IsOneLine "Invalid number literal '" := by decide
    unfold LexError.message
    simp only [isOneLine_append, isOneLine_natText, isOneLine_ofList, and_true]
    exact ⟨⟨hwording, hpart⟩, hcolumn⟩
  | @exponent run rest count hrun _ =>
    have hpart : '\n' ∉ run.take count :=
      fun h => absurd (hrun.of_mem _ (List.mem_of_mem_take h)) (by decide)
    have hwording : IsOneLine "Exponent '" := by decide
    have hclosing : IsOneLine "' is too large at column " := by decide
    unfold LexError.message
    simp only [isOneLine_append, isOneLine_natText, isOneLine_ofList, and_true]
    exact ⟨⟨hwording, hpart⟩, hclosing⟩

theorem Scans.isOneLine_message {column : Nat} {text : List Char}
    {result : Except LexError (List Token)} (h : Scans column text result) {e : LexError}
    (he : result = .error e) : IsOneLine e.message := by
  induction h with
  | stop => simp at he
  | @token column gap run rest kind result hgap hpiece h ih =>
    rcases result with e' | later
    · obtain rfl := Except.error.inj he
      exact ih rfl
    · simp [Except.map] at he
  | fault hgap h =>
    obtain rfl := Except.error.inj he
    exact h.isOneLine

/-- **An error that blames a token says no more than the token shows.** -/
theorem Blames.isOneLine {P : Token → Prop} {e : SolveError} (h : Blames P e)
    (hP : ∀ t, P t → t.IsOneLine) : IsOneLine e.message := by
  have hletter : ∀ {name}, HasLetter P name → name ≠ '\n' := by
    rintro name ⟨t, ht, hkind⟩ rfl
    exact (hP t ht).letter hkind
  have hquote : IsOneLine "'" := by decide
  have hunexpected : IsOneLine "Unexpected '" := by decide
  cases h
  case unexpected ht =>
    exact isOneLine_append.mpr ⟨isOneLine_append.mpr ⟨hunexpected, (hP _ ht).lexeme⟩, hquote⟩
  case expectedOperand ht =>
    have hclosing : IsOneLine "', expected a number, variable or '('" := by decide
    exact isOneLine_append.mpr ⟨isOneLine_append.mpr ⟨hunexpected, (hP _ ht).lexeme⟩, hclosing⟩
  case missingOperator ht =>
    have hwording : IsOneLine "Missing operator before '" := by decide
    exact isOneLine_append.mpr ⟨isOneLine_append.mpr ⟨hwording, (hP _ ht).lexeme⟩, hquote⟩
  case degreeTooHigh =>
    have hwording : IsOneLine "Degree exceeds the supported maximum of " := by decide
    exact isOneLine_append.mpr ⟨hwording, isOneLine_natText _⟩
  case mixedUnknowns first second _ hfirst hsecond _ =>
    unfold SolveError.message Complaint.message
    simp only [isOneLine_append, isOneLine_toString]
    exact ⟨⟨⟨⟨by decide, hletter hfirst⟩, by decide⟩, hletter hsecond⟩, hquote⟩
  case severalEquals => exact (by decide : IsOneLine (Complaint.severalEquals 0).message)
  case expectedExpression =>
    exact (by decide : IsOneLine (Complaint.expectedExpression 0).message)
  case expectedClose => exact (by decide : IsOneLine (Complaint.expectedClose 0).message)
  case badExponent => exact (by decide : IsOneLine (Complaint.badExponent 0).message)
  case numberTooLarge => exact (by decide : IsOneLine (Complaint.numberTooLarge 0).message)
  case divisionByUnknown => exact (by decide : IsOneLine (Complaint.divisionByUnknown 0).message)
  case divisionByZero => exact (by decide : IsOneLine SolveError.divisionByZero.message)

/-! ## Equations -/

/-- **The errors of a text stand on one line, and its unknown is no line feed.** -/
theorem ends_parse (limit : Nat) (text : String) :
    Ends (fun e => IsOneLine e.message) (fun e : Equation Float => e.variableName ≠ '\n')
      (Equation.parse limit text) := by
  have hscans : Scans 1 (composed text.toList) (tokens text) := (Cursor.start text).scans_tokens
  unfold Equation.parse
  rcases htokens : tokens text with e | ts
  · exact hscans.isOneLine_message htokens
  · have hline := hscans.isOneLine htokens
    obtain ⟨before, hends, -⟩ := (hscans.laidOut htokens).ends
    have hstop : ⟨.endOfInput, "", 1 + (composed text.toList).length⟩ ∈ ts := by simp [hends]
    refine (ends_ofTokens limit hstop rfl).imp (fun _ h => h.isOneLine hline) fun e hunknown => ?_
    rw [Equation.variableName]
    rcases hname : e.unknown? with _ | name
    · decide
    · obtain ⟨t, ht, hkind⟩ := hunknown name hname
      rintro rfl
      exact (hline t ht).letter hkind

/-! ## Solvers -/

theorem Linear.endsOnOneLine_solve (text : String) : EndsOnOneLine (solve places limit text) := by
  refine Ends.bind (Q := fun _ => True) ?_ fun _ _ => ?_
  · unfold checkText
    split
    · exact (by decide : IsOneLine Complaint.missingEquals.message)
    · exact (by decide : IsOneLine (Complaint.severalEquals 0).message)
    · split
      · trivial
      · exact (by decide : IsOneLine SolveError.noVariable.message)
  · refine (ends_parse limit text).bind fun e hname => ?_
    unfold answer
    dsimp only
    split
    · exact (by decide : IsOneLine everyNumberSolves)
    · exact (by decide : IsOneLine nothingSolves)
    · exact (endsOnOneLine_fractionText _ _).bind fun value hvalue =>
        isOneLine_assignment hname hvalue
    · exact isOneLine_append.mpr ⟨by decide, isOneLine_natText _⟩

namespace Quadratic

theorem ends_parse (limit : Nat) (text : String) :
    Ends (fun e => IsOneLine e.message) (fun q : Quadratic => q.name ≠ '\n')
      (Quadratic.parse limit text) := by
  refine (OneUnknown.ends_parse limit text).bind fun e hname => ?_
  split
  · exact (by decide : IsOneLine (Complaint.missingRightSide 0).message)
  · unfold ofEquation
    dsimp only
    split
    · exact hname
    · split
      · have hwording : IsOneLine " is too high for a quadratic; use the polynomial solver" := by
          decide
        exact isOneLine_append.mpr ⟨isOneLine_append.mpr ⟨by decide, isOneLine_natText _⟩, hwording⟩
      · exact (by decide : IsOneLine Complaint.missingSquare.message)
    · exact (by decide : IsOneLine Complaint.missingSquare.message)

theorem isOneLine_decimalRoots {q : Quadratic} (hname : q.name ≠ '\n') :
    IsOneLine (q.decimalRoots places) := by
  unfold decimalRoots
  split
  · exact isOneLine_pairText hname (isOneLine_decimalText _ _) (isOneLine_decimalText _ _)
  · exact isOneLine_assignment hname (isOneLine_decimalText _ _)
  · exact isOneLine_complexText hname (isOneLine_decimalText _ _) _ (isOneLine_decimalText _ _)

theorem endsOnOneLine_exactText {name : Char} (hname : name ≠ '\n') (a b D : Int) :
    EndsOnOneLine (exactText name a b D) := by
  unfold exactText
  split
  · refine Ends.bind (Q := fun _ => True) ?_ fun r _ =>
      isOneLine_pairText hname r.1.isOneLine_text r.2.isOneLine_text
    have hpair {c k d c' k' d' : Int} {n n' : Nat} :
        Ends (fun e => IsOneLine e.message) (fun _ => True) (do
          return (← Radical.of c k n d, ← Radical.of c' k' n' d')) :=
      (Radical.ends_of ..).bind fun _ _ => (Radical.ends_of ..).bind fun _ _ => trivial
    unfold realPair
    split
    · exact hpair
    · exact hpair
  · split
    · exact (Radical.ends_of _ _ _ _).bind fun r _ => isOneLine_assignment hname r.isOneLine_text
    · exact (Radical.ends_of _ _ _ _).bind fun re _ => (Radical.ends_of _ _ _ _).bind fun im _ =>
        isOneLine_complexText hname re.isOneLine_text _ im.isOneLine_text

theorem endsOnOneLine_solve (text : String) : EndsOnOneLine (solve places limit text) := by
  refine (ends_parse limit text).bind fun q hname => ?_
  unfold rootsText
  split
  · split
    · exact endsOnOneLine_exactText hname _ _ _
    · exact isOneLine_decimalRoots hname
  · exact isOneLine_decimalRoots hname

end Quadratic

theorem RealRoots.endsOnOneLine_solve (settings : NewtonSettings) (text : String) :
    EndsOnOneLine (solve settings places limit text) := by
  refine (ends_parse limit text).bind fun e hname => ?_
  have htexts : ∀ roots : List Float, Ends (fun e => IsOneLine e.message)
      (fun texts => ∀ t ∈ texts, IsOneLine t) (roots.mapM fun r => fractionText places r 1) := by
    intro roots
    induction roots with
    | nil => exact List.forall_mem_nil _
    | cons r roots ih =>
      rw [List.mapM_cons]
      exact (endsOnOneLine_fractionText _ _).bind fun t ht => ih.bind fun ts hts =>
        List.forall_mem_cons.mpr ⟨ht, hts⟩
  unfold answer
  dsimp only
  split
  · exact (by decide : IsOneLine everyNumberSolves)
  · exact (by decide : IsOneLine nothingSolves)
  · split
    · exact (by decide : IsOneLine noRootsFound)
    · refine (htexts _).bind fun texts hline => isOneLine_intercalate (by decide) fun t ht => ?_
      obtain ⟨value, hvalue, rfl⟩ := List.mem_map.mp ht
      exact isOneLine_assignment hname (hline value hvalue)

theorem isOneLine_tag (kind : EquationKind) : IsOneLine kind.tag := by
  have hall : ∀ kind ∈ EquationKind.all, IsOneLine kind.tag := by decide
  exact hall kind (EquationKind.mem_all kind)

theorem endsOnOneLine_solve (settings : Settings) (kind : EquationKind) (text : String) :
    EndsOnOneLine (solve settings kind text) := by
  have hnone : ∀ kind, IsOneLine (SolveError.notImplemented kind).message :=
    fun kind => isOneLine_append.mpr ⟨isOneLine_tag kind, by decide⟩
  unfold solve
  dsimp only
  split
  · exact (by decide : IsOneLine Complaint.emptyInput.message)
  · split
    · exact Linear.endsOnOneLine_solve _
    · exact Quadratic.endsOnOneLine_solve _
    · exact RealRoots.endsOnOneLine_solve _ _
    · exact hnone _

/-- **What a person is told stands on one line**, whatever was asked. -/
theorem isOneLine_answerText_solve (settings : Settings) (kind : EquationKind) (text : String) :
    IsOneLine (answerText (solve settings kind text)) := by
  have h := endsOnOneLine_solve settings kind text
  generalize solve settings kind text = result at h ⊢
  rcases result with e | answer
  · cases e with
    | malformed complaint =>
      simp only [answerText, SolveError.userMessage, shownComplaint]
      split
      · exact h
      · exact isOneLine_append.mpr ⟨by decide, h⟩
    | divisionByZero => exact (by decide : IsOneLine undefinedAnswer)
    | noVariable | notImplemented => exact h
  · exact h

end OneUnknown
