import OneUnknown.Proofs.Equation.Relabelling
import OneUnknown.Proofs.Text.Letters
import OneUnknown.Proofs.Token.Language

/-!
# Blanks between tokens do not matter

More blanks may be put into a text that is cut into tokens, wherever they cut no token in two. A
token keeps its characters then, and what follows it is blank or what has followed it before, so it
ends where it did. The tokens are the same, further to the right, and so is the equation or the
error that they are read as.

* `Piece.isBlank_head`, **`Scans.tokens_eq`**: the tokens that the scanner finds;
* **`spread`**, `shift`: a text with more put in, and the columns of its characters then;
* **`AroundTokens`**: what is put in is blank and cuts no token in two;
* `Piece.of_head?`: a token in front of another rest;
* `scans_spread`, **`tokens_spread`**: the tokens of a text with more blanks;
* **`ofTokens_spread`**: the equation that they are read as.
-/

namespace OneUnknown

/-! ## The tokens that are found -/

section Found

variable {run rest : List Char} {kind : TokenKind}

theorem isBlank_of_symbol? {c : Char} (h : symbol? c = some kind) : isBlank c = false := by
  unfold symbol? at h
  split at h <;> first | decide | simp at h

/-- **A piece does not start with a blank.** -/
theorem Piece.isBlank_head {c : Char} (h : Piece run rest kind) (hc : run.head? = some c) :
    isBlank c = false := by
  have hmem : c ∈ run := List.mem_of_head? hc
  cases h with
  | symbol hsymbol => exact isBlank_of_symbol? (List.mem_singleton.mp hmem ▸ hsymbol)
  | number hrun => exact (class_of_isLiteralChar (hrun.of_mem c hmem)).1
  | superscript hrun => exact (class_of_isSuperscript (hrun.of_mem c hmem)).1
  | letter _ _ _ hletter =>
    rw [← List.mem_singleton.mp hmem] at hletter
    by_contra hblank
    exact not_isPlain_of_isIdentifierStart hletter (.inl (by simpa using hblank))

/-- **The scanner finds the tokens that the relation names.** -/
theorem Scans.tokens_eq {column : Nat} {text : List Char}
    {result : Except LexError (List Token)} (h : Scans column text result) {ts : List Token}
    (hts : result = .ok ts) : Cursor.tokens ⟨column, text⟩ = .ok ts := by
  induction h generalizing ts with
  | @stop column gap hgap =>
    obtain rfl := Except.ok.inj hts
    have hskip : (Cursor.mk column (gap ++ [])).skipBlanks = ⟨column + gap.length, []⟩ :=
      Cursor.skipBlanks_of_append hgap (by simp)
    rw [List.append_nil] at hskip
    rw [Cursor.tokens, Cursor.next, hskip]
    rfl
  | @token column gap run rest kind result hgap hpiece h ih =>
    rcases result with e | later
    · cases hts
    obtain rfl := Except.ok.inj hts
    exact Cursor.tokens_of_next (Cursor.next_of_piece hgap hpiece fun _ => hpiece.isBlank_head)
      hpiece.isEnd_eq (ih rfl)
  | fault => cases hts

end Found

/-! ## More blanks -/

/-- **A text with more put in**: behind its first `k` characters stands `more k`. The first argument
is the number of characters that have passed. -/
def spread (more : Nat → List Char) : Nat → List Char → List Char
  | k, [] => more k
  | k, c :: rest => more k ++ c :: spread more (k + 1) rest

/-- The column where the character of a column comes to stand. Columns are counted from 1. -/
def shift (more : Nat → List Char) : Nat → Nat
  | 0 => 0
  | column + 1 => shift more column + (more column).length + 1

/-- **What is put in is blank and cuts no token in two.** -/
structure AroundTokens (ts : List Token) (more : Nat → List Char) : Prop where
  isBlank_of_mem : ∀ k, ∀ c ∈ more k, isBlank c = true
  eq_nil_inside : ∀ t ∈ ts, ∀ k, t.column ≤ k → k + 1 < t.column + t.lexeme.length → more k = []

section Spread

variable {more : Nat → List Char} {k : Nat} {gap front rest : List Char} {c : Char}

/-- What is put in before a character belongs to what stands before it. -/
theorem spread_append_cons : spread more k (gap ++ c :: rest) =
    spread more k gap ++ c :: spread more (k + gap.length + 1) rest := by
  induction gap generalizing k with
  | nil => rfl
  | cons d gap ih =>
    rw [List.cons_append, spread, ih, spread, List.append_assoc, List.cons_append,
      List.length_cons, Nat.add_right_comm k 1, Nat.add_assoc k gap.length 1]

theorem shift_gap {column : Nat} (hcolumn : column = k + 1) :
    shift more (column + gap.length) = shift more k + 1 + (spread more k gap).length := by
  induction gap generalizing k column with
  | nil =>
    rw [hcolumn, spread, List.length_nil, Nat.add_zero, shift]
    omega
  | cons c gap ih =>
    have hnext : shift more column = shift more k + (more k).length + 1 := by rw [hcolumn, shift]
    rw [List.length_cons, Nat.add_comm gap.length 1, ← Nat.add_assoc, ih rfl, hnext, spread,
      List.length_append, List.length_cons, ← hcolumn]
    omega

theorem spread_append_of_eq_nil (h : ∀ i, k ≤ i → i < k + front.length → more i = []) :
    spread more k (front ++ rest) = front ++ spread more (k + front.length) rest := by
  induction front generalizing k with
  | nil => rfl
  | cons c front ih =>
    rw [List.length_cons] at h
    have hfirst : more k = [] := h k (Nat.le_refl k) (by omega)
    have hothers := ih (k := k + 1) fun i hi hlt => h i (by omega) (by omega)
    rw [List.cons_append, spread, hfirst, hothers, List.length_cons, Nat.add_right_comm k 1]
    rfl

theorem shift_add_of_eq_nil {n : Nat} (h : ∀ i, k ≤ i → i < k + n → more i = []) :
    shift more (k + n) = shift more k + n := by
  induction n with
  | zero => rfl
  | succ n ih =>
    have hlast : more (k + n) = [] := h (k + n) (by omega) (by omega)
    rw [← Nat.add_assoc, shift, ih fun i hi hlt => h i hi (by omega), hlast]
    rfl

theorem isBlank_of_mem_spread (hmore : ∀ k, ∀ c ∈ more k, isBlank c = true)
    (hgap : ∀ c ∈ gap, isBlank c = true) : ∀ c ∈ spread more k gap, isBlank c = true := by
  induction gap generalizing k with
  | nil => exact hmore k
  | cons d gap ih =>
    obtain ⟨hd, hgap⟩ := List.forall_mem_cons.mp hgap
    exact List.forall_mem_append.mpr ⟨hmore k, List.forall_mem_cons.mpr ⟨hd, ih hgap⟩⟩

theorem head?_spread (h : (spread more k rest).head? = some c) :
    c ∈ more k ∨ rest.head? = some c := by
  rcases rest with _ | ⟨d, rest⟩
  · exact .inl (List.mem_of_head? h)
  · rw [spread] at h
    rcases hmore : more k with _ | ⟨b, bs⟩
    · rw [hmore] at h
      exact .inr h
    · rw [hmore] at h
      obtain rfl := Option.some.inj h
      exact .inl List.mem_cons_self

end Spread

/-! ## The tokens of a text with more blanks -/

/-- **A token in front of another rest**, which starts with a blank or as the first one does. -/
theorem Piece.of_head? {run rest rest' : List Char} {kind : TokenKind} (h : Piece run rest kind)
    (hhead : ∀ c, rest'.head? = some c → isBlank c = true ∨ rest.head? = some c) :
    Piece run rest' kind := by
  have span : ∀ {p}, IsRunClass p → IsSpan p run rest → IsSpan p run rest' := fun hp hrun =>
    ⟨hrun.ne_nil, hrun.of_mem, fun c hc => (hhead c hc).elim hp.of_isBlank (hrun.of_head c)⟩
  cases h with
  | symbol hc => exact .symbol hc
  | number hrun hvalue => exact .number (span .literal hrun) hvalue
  | superscript hrun hvalue => exact .superscript (span .superscript hrun) hvalue
  | letter hsymbol hliteral hsuperscript hletter =>
    exact .letter hsymbol hliteral hsuperscript hletter

/-- **The tokens found behind `k` characters**, by induction on the scan: a gap takes up what is put
into it and before the token behind it. -/
theorem scans_spread {column : Nat} {text : List Char} {result : Except LexError (List Token)}
    {more : Nat → List Char} (h : Scans column text result) {k : Nat} (hcolumn : column = k + 1)
    {ts : List Token} (hts : result = .ok ts) (hmore : AroundTokens ts more) :
    Scans (shift more k + 1) (spread more k text) (.ok (ts.map (Token.moved (shift more)))) := by
  induction h generalizing k ts with
  | @stop column gap hgap =>
    obtain rfl := Except.ok.inj hts
    rw [List.map_singleton, Token.moved, shift_gap hcolumn]
    exact .stop (isBlank_of_mem_spread hmore.isBlank_of_mem hgap)
  | @token column gap run rest kind result hgap hpiece h ih =>
    rcases result with e | later
    · cases hts
    obtain rfl := Except.ok.inj hts
    have hlater : AroundTokens later more :=
      ⟨hmore.isBlank_of_mem, fun t ht => hmore.eq_nil_inside t (List.mem_cons_of_mem _ ht)⟩
    -- The first character of the token has what is put in before it, and the others have nothing.
    obtain ⟨c, tail, hrun⟩ := List.exists_cons_of_ne_nil hpiece.ne_nil
    have hlength : run.length = 1 + tail.length := by rw [hrun, List.length_cons, Nat.add_comm]
    have hinside : ∀ i, column + gap.length ≤ i → i < column + gap.length + tail.length →
        more i = [] := fun i hi hlt =>
      hmore.eq_nil_inside _ List.mem_cons_self i hi
        (by simp only [String.length_ofList]; omega)
    have htext : spread more k (gap ++ (run ++ rest)) = spread more k gap ++
        (run ++ spread more (column + gap.length + tail.length) rest) := by
      rw [hrun, List.cons_append, spread_append_cons, ← Nat.add_right_comm, ← hcolumn,
        spread_append_of_eq_nil hinside, List.cons_append]
    have hrest := ih (k := column + gap.length + tail.length) (by omega) rfl hlater
    rw [shift_add_of_eq_nil hinside, shift_gap hcolumn, Nat.add_assoc _ tail.length,
      Nat.add_comm tail.length, ← hlength] at hrest
    rw [htext, List.map_cons, Token.moved, shift_gap hcolumn]
    exact .token (isBlank_of_mem_spread hmore.isBlank_of_mem hgap)
      (hpiece.of_head? fun c hc => (head?_spread hc).imp_left (hmore.isBlank_of_mem _ c)) hrest
  | fault => cases hts

/-- **The tokens of a text with more blanks** are the tokens of the text, further to the right. -/
theorem tokens_spread {text : List Char} {ts : List Token} {more : Nat → List Char}
    (h : Cursor.tokens ⟨1, text⟩ = .ok ts) (hmore : AroundTokens ts more) :
    Cursor.tokens ⟨1, spread more 0 text⟩ = .ok (ts.map (Token.moved (shift more))) :=
  (scans_spread (Cursor.scans_tokens ⟨1, text⟩) rfl h hmore).tokens_eq rfl

/-! ## Other columns -/

section Moved

variable {K : Type} [Scalar K] {g : Nat → Nat}

theorem Token.renamed_id (t : Token) : t.renamed id = t := by
  rcases t with ⟨kind, lexeme, column⟩
  cases kind with
  | letter name => simp [renamed]
  | number | superscript | plus | minus | star | slash | caret | equals | openParen | closeParen
    | endOfInput => rfl

theorem SolveError.renamed_id (e : SolveError) : e.renamed id = e := by
  rcases e with complaint | _ | _ | kind
  · cases complaint <;> rfl
  · rfl
  · rfl
  · rfl

theorem Equation.renamed_id (e : Equation K) : e.renamed id = e := by
  rw [renamed, Option.map_id]
  rfl

theorem endColumn_moved {ts : List Token} {stop : Token} (hmem : stop ∈ ts)
    (hstop : stop.kind.isEnd = true) :
    endColumn (ts.map (Token.moved g)) = g (endColumn ts) := by
  have hkind : (fun t : Token => (t.moved g).kind.isEnd) = fun t => t.kind.isEnd := rfl
  simp only [endColumn, List.find?_map, Function.comp_def, hkind]
  rcases hfind : ts.find? (·.kind.isEnd) with _ | first
  · simpa [hstop] using List.find?_eq_none.mp hfind stop hmem
  · simp only [hfind, Option.map_some, Token.moved]

/-- **A row of tokens in other columns is read as the row is**, and an error is about the other
column. -/
theorem ofTokens_moved (limit : Nat) {ts : List Token} {stop : Token} (hmem : stop ∈ ts)
    (hstop : stop.kind.isEnd = true) (hstart : g 0 = 0) :
    Equation.ofTokens (K := K) limit (ts.map (Token.moved g)) =
      (Equation.ofTokens limit ts).mapError (SolveError.moved g) := by
  have htoken : Token.relabelled id g = Token.moved g := by
    funext t
    rw [Token.relabelled, t.renamed_id]
  have hend : endColumn (ts.map (Token.relabelled id g)) = g (endColumn ts) := by
    rw [htoken, endColumn_moved hmem hstop]
  rw [← htoken, ofTokens_relabelled limit Function.injective_id.injOn hstart hend]
  rcases Equation.ofTokens (K := K) limit ts with e | equation
  · exact congrArg (fun e => Except.error (SolveError.moved g e)) e.renamed_id
  · exact congrArg Except.ok equation.renamed_id

theorem Blames.message_moved {P : Token → Prop} {e : SolveError} (h : Blames P e) :
    (e.moved g).message = e.message := by
  cases h <;> rfl

theorem SolveError.column?_moved (e : SolveError) : (e.moved g).column? = e.column?.map g := by
  rcases e with complaint | _ | _ | kind
  · cases complaint with
    | lexical error => cases error <;> rfl
    | severalEquals | unexpected | expectedOperand | expectedExpression | expectedClose
      | missingOperator | badExponent | numberTooLarge | degreeTooHigh | mixedUnknowns
      | divisionByUnknown | missingEquals | missingRightSide | notLinear | aboveQuadratic
      | missingSquare | negativeRadicand | emptyInput => rfl
  · rfl
  · rfl
  · rfl

theorem SolveError.ctorIdx_moved (e : SolveError) : (e.moved g).ctorIdx = e.ctorIdx := by
  cases e <;> rfl

end Moved

/-! ## Equations -/

/-- **Blanks between tokens do not matter.** Where blanks are put into a text that is cut into
tokens, and none of these is cut in two, the tokens have the same kinds and spellings, in columns
further to the right. Under every limit on the degree they are read as the same equation, or
refused by an error of the same kind that says the same, about the column further to the right. -/
theorem ofTokens_spread {K : Type} [Scalar K] {text : List Char} {ts : List Token}
    {more : Nat → List Char} (h : Cursor.tokens ⟨1, text⟩ = .ok ts)
    (hmore : AroundTokens ts more) :
    ∃ ts', Cursor.tokens ⟨1, spread more 0 text⟩ = .ok ts' ∧
      ts' = ts.map (Token.moved (shift more)) ∧
      ts'.map (fun t => (t.kind, t.lexeme)) = ts.map (fun t => (t.kind, t.lexeme)) ∧
      ∀ limit,
        (∀ e : Equation K, Equation.ofTokens limit ts' = .ok e ↔
          Equation.ofTokens limit ts = .ok e) ∧
        ∀ error, Equation.ofTokens (K := K) limit ts = .error error →
          ∃ error', Equation.ofTokens (K := K) limit ts' = .error error' ∧
            error' = error.moved (shift more) ∧ error'.ctorIdx = error.ctorIdx ∧
            error'.message = error.message ∧
            error'.column? = error.column?.map (shift more) := by
  obtain ⟨before, stop, hts, hstop, -⟩ := Cursor.exists_end_of_tokens h
  have hmem : stop ∈ ts := by simp [hts]
  refine ⟨_, tokens_spread h hmore, rfl, ?_, fun limit => ⟨fun e => ?_, fun error herror => ?_⟩⟩
  · simp only [List.map_map]
    rfl
  · rw [ofTokens_moved limit hmem hstop rfl]
    rcases Equation.ofTokens (K := K) limit ts with error | equation
    · exact iff_of_false (fun he => nomatch he) fun he => nomatch he
    · rfl
  · have hblames := ends_ofTokens (K := K) limit hmem hstop
    rw [herror] at hblames
    rw [ofTokens_moved limit hmem hstop rfl, herror]
    exact ⟨_, rfl, rfl, error.ctorIdx_moved, Blames.message_moved hblames, error.column?_moved⟩

/-- `x=x` is read with a blank around every token, and `x¹²` exceeds a limit in column 4 if two
blanks are put in behind `x`. -/
theorem ofTokens_spread_power :
    let text := ['x', '=', 'x']
    let ts : List Token := [⟨.letter 'x', "x", 1⟩, ⟨.equals, "=", 2⟩, ⟨.letter 'x', "x", 3⟩,
      ⟨.endOfInput, "", 4⟩]
    let around : Nat → List Char := fun _ => [' ']
    let power := ['x', '¹', '²']
    let powerTs : List Token := [⟨.letter 'x', "x", 1⟩, ⟨.superscript 12, "¹²", 2⟩,
      ⟨.endOfInput, "", 4⟩]
    let behind : Nat → List Char := fun k => if k = 1 ∨ k = 3 then [' ', ' '] else []
    (Cursor.tokens ⟨1, text⟩ = .ok ts ∧ AroundTokens ts around ∧
      spread around 0 text = [' ', 'x', ' ', '=', ' ', 'x', ' '] ∧
      ∃ ts', Cursor.tokens ⟨1, spread around 0 text⟩ = .ok ts' ∧
        ∃ e : Equation Float, Equation.ofTokens 1 ts = .ok e ∧
          Equation.ofTokens 1 ts' = .ok e) ∧
    Cursor.tokens ⟨1, power⟩ = .ok powerTs ∧ AroundTokens powerTs behind ∧
      spread behind 0 power = ['x', ' ', ' ', '¹', '²', ' ', ' '] ∧
      ∃ ts', Cursor.tokens ⟨1, spread behind 0 power⟩ = .ok ts' ∧
        Equation.ofTokens (K := Float) 1 ts' = .error (.malformed (.degreeTooHigh 1 4)) := by
  intro text ts around power powerTs behind
  have hblank : isBlank ' ' = true := by decide
  have hletter : "x".length = 1 := rfl
  have hequals : "=".length = 1 := rfl
  have hexponent : "¹²".length = 2 := rfl
  have hend : "".length = 0 := rfl
  have htokens : Cursor.tokens ⟨1, text⟩ = .ok ts := by with_unfolding_all rfl
  have haround : AroundTokens ts around := by
    refine ⟨fun _ => List.forall_mem_singleton.mpr hblank, fun t ht k hle hlt => ?_⟩
    simp only [ts, List.mem_cons, List.not_mem_nil, or_false] at ht
    rcases ht with rfl | rfl | rfl | rfl <;> dsimp only at hle hlt <;> omega
  have hpower : Cursor.tokens ⟨1, power⟩ = .ok powerTs := by with_unfolding_all rfl
  have hbehind : AroundTokens powerTs behind := by
    refine ⟨fun k => ?_, fun t ht k hle hlt => if_neg ?_⟩
    · simp only [behind]
      split
      · exact List.forall_mem_cons.mpr ⟨hblank, List.forall_mem_singleton.mpr hblank⟩
      · exact List.forall_mem_nil _
    · simp only [powerTs, List.mem_cons, List.not_mem_nil, or_false] at ht
      rcases ht with rfl | rfl | rfl <;> dsimp only at hle hlt <;> omega
  have hequation : Equation.ofTokens (K := Float) 1 ts =
    .ok ⟨some 'x', .monomial 1 1, some (.monomial 1 1)⟩ := rfl
  have herror : Equation.ofTokens (K := Float) 1 powerTs =
    .error (.malformed (.degreeTooHigh 1 2)) := rfl
  obtain ⟨ts', hts', -, -, hread⟩ := ofTokens_spread (K := Float) htokens haround
  obtain ⟨powerTs', hpowerTs', -, -, hrefused⟩ := ofTokens_spread (K := Float) hpower hbehind
  obtain ⟨error', herror', rfl, -⟩ := (hrefused 1).2 _ herror
  exact ⟨⟨htokens, haround, rfl, ts', hts', _, hequation, ((hread 1).1 _).mpr hequation⟩,
    hpower, hbehind, rfl, powerTs', hpowerTs', herror'⟩

end OneUnknown
