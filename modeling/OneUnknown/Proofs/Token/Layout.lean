import Mathlib.Data.List.TakeWhile
import OneUnknown.Token.Scan

/-!
# How tokens lie in a text

The scanner takes a text apart into blanks and pieces, and a piece is what one token spells. What it
answers is described here by a relation on the characters alone, without places and without the
order in which it makes its tests.

* `isBlank_of_isDigit`, `class_of_isSuperscript`, `class_of_isLiteralChar`: the classes are apart;
* `IsSpan`: the characters of a class at the head of a text, as many as there are;
* `IsNumeral`, `refusedPart`: the literals that are numbers, and what is shown of the others;
* `Piece`, `Fault`: one token, and one error, at the head of a text;
* `token_of_piece`, `next_of_piece`: a piece is found as a token;
* **`Scans`**, **`scans_tokens`**: what scanning answers;
* `gapsBefore`, `weave`, **`LaidOut`**: tokens that lie in a text with nothing but blanks between;
* **`laidOut_tokens`**: the tokens of a text lie in its composed form.
-/

namespace OneUnknown

/-! ## Classes of characters -/

theorem exists_digitChar {c : Char} (h : c.isDigit = true) : ∃ d < 10, c = digitChar d := by
  simp only [Char.isDigit, Bool.and_eq_true, decide_eq_true_eq, ge_iff_le] at h
  have hlo : 48 ≤ c.toNat := h.1
  have hhi : c.toNat ≤ 57 := h.2
  refine ⟨c.toNat - 48, by omega, ?_⟩
  rw [digitChar, Nat.add_sub_cancel' hlo, Char.ofNat_toNat]

theorem isBlank_of_isDigit {c : Char} (h : c.isDigit = true) :
    isBlank c = false ∧ symbol? c = none := by
  obtain ⟨d, hd, rfl⟩ := exists_digitChar h
  match d, hd with
  | 0, _ | 1, _ | 2, _ | 3, _ | 4, _ | 5, _ | 6, _ | 7, _ | 8, _ | 9, _ => decide

theorem class_of_isSuperscript {c : Char} (h : isSuperscript c = true) :
    isBlank c = false ∧ symbol? c = none ∧ isLiteralChar c = false := by
  unfold isSuperscript superscriptDigit? at h
  split at h <;> first | decide | simp at h

theorem class_of_isLiteralChar {c : Char} (h : isLiteralChar c = true) :
    isBlank c = false ∧ symbol? c = none := by
  rcases Bool.or_eq_true_iff.mp h with hdigit | hpoint
  · exact isBlank_of_isDigit hdigit
  · rw [beq_iff_eq.mp hpoint]
    decide

/-! ## Spans -/

/-- **All characters of a class that stand next**, at least one. -/
structure IsSpan (p : Char → Bool) (run rest : List Char) : Prop where
  ne_nil : run ≠ []
  of_mem : ∀ c ∈ run, p c = true
  of_head : ∀ c, rest.head? = some c → p c = false

theorem isSpan_takeWhile {p : Char → Bool} {c : Char} {text : List Char} (hc : p c = true) :
    IsSpan p ((c :: text).takeWhile p) ((c :: text).dropWhile p) := by
  refine ⟨by simp [hc], fun d hd => List.mem_takeWhile_imp hd, fun d hd => ?_⟩
  have h := List.head?_dropWhile_not p (c :: text)
  rw [hd] at h
  exact h

theorem IsSpan.eq_takeWhile {p : Char → Bool} {run after : List Char} (h : IsSpan p run after) :
    run = (run ++ after).takeWhile p := by
  rw [List.takeWhile_append_of_pos h.of_mem]
  rcases after with _ | ⟨d, after⟩
  · simp
  · simp [h.of_head d rfl]

/-! ## Pieces -/

/-- **A literal that is a number**: it has a digit, at most one point and a finite value. -/
structure IsNumeral (run : List Char) : Prop where
  exists_digit : ∃ c ∈ run, c.isDigit = true
  count_le_one : run.count '.' ≤ 1
  isFinite : (literalValue run).isFinite = true

/-- What is shown of a literal that is no number: a point that no digit follows is shown alone, any
other literal as a whole. -/
def refusedPart (run : List Char) : List Char :=
  if run = ['.'] ∨ run.take 2 = ['.', '.'] then ['.'] else run

/-- The character is blank or belongs to a token. -/
def isLexical (c : Char) : Bool :=
  isBlank c || (symbol? c).isSome || isLiteralChar c || isSuperscript c || isIdentifierStart c

/-- **One token at the head of a text**: its characters, those behind them, and its kind. -/
inductive Piece : List Char → List Char → TokenKind → Prop where
  | symbol {c : Char} {rest : List Char} {kind : TokenKind} (hc : symbol? c = some kind) :
    Piece [c] rest kind
  | number {run rest : List Char} (hrun : IsSpan isLiteralChar run rest) (hvalue : IsNumeral run) :
    Piece run rest (.number (literalValue run))
  | superscript {run rest : List Char} (hrun : IsSpan isSuperscript run rest)
    (hvalue : overflowLength? 0 run = none) : Piece run rest (.superscript (superscriptValue 0 run))
  | letter {c : Char} {rest : List Char} (hsymbol : symbol? c = none)
    (hliteral : isLiteralChar c = false) (hsuperscript : isSuperscript c = false)
    (hletter : isIdentifierStart c = true) : Piece [c] rest (.letter c)

/-- **One error at the head of a text** that starts in the given column. -/
inductive Fault (column : Nat) : List Char → LexError → Prop where
  | character {c : Char} {rest : List Char} (hc : isLexical c = false) :
    Fault column (c :: rest) (.unexpectedCharacter c column)
  | number {run rest : List Char} (hrun : IsSpan isLiteralChar run rest)
    (hvalue : ¬ IsNumeral run) :
    Fault column (run ++ rest) (.invalidNumber (String.ofList (refusedPart run)) column)
  | exponent {run rest : List Char} {count : Nat} (hrun : IsSpan isSuperscript run rest)
    (hvalue : overflowLength? 0 run = some count) :
    Fault column (run ++ rest) (.exponentTooLarge (String.ofList (run.take count)) column)

/-- **What scanning answers** on a text that starts in the given column. -/
inductive Scans : Nat → List Char → Except LexError (List Token) → Prop where
  | stop {column : Nat} {gap : List Char} (hgap : ∀ c ∈ gap, isBlank c = true) :
    Scans column gap (.ok [⟨.endOfInput, "", column + gap.length⟩])
  | token {column : Nat} {gap run rest : List Char} {kind : TokenKind}
    {result : Except LexError (List Token)} (hgap : ∀ c ∈ gap, isBlank c = true)
    (hpiece : Piece run rest kind) (h : Scans (column + gap.length + run.length) rest result) :
    Scans column (gap ++ (run ++ rest))
      (result.map (⟨kind, String.ofList run, column + gap.length⟩ :: ·))
  | fault {column : Nat} {gap text : List Char} {e : LexError} (hgap : ∀ c ∈ gap, isBlank c = true)
    (h : Fault (column + gap.length) text e) : Scans column (gap ++ text) (.error e)

theorem Piece.ne_nil {run rest : List Char} {kind : TokenKind} (h : Piece run rest kind) :
    run ≠ [] := by
  cases h with
  | symbol | letter => simp
  | number hrun | superscript hrun => exact hrun.ne_nil

theorem symbol?_ne_endOfInput {c : Char} {kind : TokenKind} (h : symbol? c = some kind) :
    kind.isEnd = false := by
  unfold symbol? at h
  split at h <;> simp at h <;> subst h <;> rfl

theorem Piece.isEnd_eq {run rest : List Char} {kind : TokenKind} (h : Piece run rest kind) :
    kind.isEnd = false := by
  cases h with
  | symbol hc => exact symbol?_ne_endOfInput hc
  | number | superscript | letter => rfl

/-! ## Scanning -/

/-- A literal without digits is a point, or starts with two of them. -/
theorem isNumeral_iff {run : List Char} (hne : run ≠ [])
    (hall : ∀ c ∈ run, isLiteralChar c = true) :
    IsNumeral run ↔ ¬ (run = ['.'] ∨ run.take 2 = ['.', '.']) ∧ ¬ 1 < run.count '.' ∧
      (literalValue run).isFinite = true := by
  constructor
  · rintro ⟨⟨d, hd, hdigit⟩, hcount, hfinite⟩
    refine ⟨?_, by omega, hfinite⟩
    rintro (rfl | htake)
    · obtain rfl : d = '.' := by simpa using hd
      simp at hdigit
    · have : (run.take 2).count '.' ≤ run.count '.' := (List.take_sublist 2 run).count_le '.'
      rw [htake] at this
      simp at this
      omega
  · rintro ⟨hpoints, hcount, hfinite⟩
    refine ⟨?_, by omega, hfinite⟩
    by_contra hdigit
    simp only [not_exists, not_and] at hdigit
    have hpoint : ∀ c ∈ run, c = '.' := fun c hc => by
      rcases Bool.or_eq_true_iff.mp (hall c hc) with h | h
      · exact absurd h (hdigit c hc)
      · exact beq_iff_eq.mp h
    have hlength : run.count '.' = run.length :=
      List.count_eq_length.mpr fun c hc => (hpoint c hc).symm
    rcases run with _ | ⟨c, _ | ⟨d, rest⟩⟩
    · exact hne rfl
    · exact hpoints (.inl (by rw [hpoint c (by simp)]))
    · simp only [List.length_cons] at hlength
      omega

namespace Cursor

variable {cursor : Cursor}

theorem advance_of_append {run rest : List Char} (h : cursor.rest = run ++ rest) :
    cursor.advance run.length = ⟨cursor.column + run.length, rest⟩ := by
  simp [advance, h]

theorem take_of_append {run rest : List Char} (kind : TokenKind) (h : cursor.rest = run ++ rest) :
    cursor.take kind run.length =
      (.ok ⟨kind, String.ofList run, cursor.column⟩, ⟨cursor.column + run.length, rest⟩) := by
  rw [take, advance_of_append h, h, List.take_left]

/-- **One step of the scanner**, where no blank stands: the end of input, a piece or a fault. -/
inductive Outcome (cursor : Cursor) : Except LexError Token × Cursor → Prop where
  | stop (h : cursor.rest = []) : Outcome cursor (.ok ⟨.endOfInput, "", cursor.column⟩, cursor)
  | piece {run rest : List Char} {kind : TokenKind} (h : cursor.rest = run ++ rest)
    (hpiece : Piece run rest kind) :
    Outcome cursor
      (.ok ⟨kind, String.ofList run, cursor.column⟩, ⟨cursor.column + run.length, rest⟩)
  | fault {e : LexError} {after : Cursor} (h : Fault cursor.column cursor.rest e) :
    Outcome cursor (.error e, after)

theorem outcome_number {run rest : List Char} (h : cursor.rest = run ++ rest)
    (hrun : IsSpan isLiteralChar run rest) : cursor.Outcome (cursor.number run) := by
  have hiff := isNumeral_iff hrun.ne_nil hrun.of_mem
  have refuse : ∀ (part : List Char) (after : Cursor), part = refusedPart run → ¬ IsNumeral run →
      cursor.Outcome (.error (.invalidNumber (String.ofList part) cursor.column), after) := by
    rintro part after rfl hvalue
    refine .fault ?_
    rw [h]
    exact .number hrun hvalue
  simp only [number]
  by_cases hpoints : run = ['.'] ∨ run.take 2 = ['.', '.']
  · rw [if_pos hpoints]
    refine refuse _ _ ?_ fun hv => (hiff.mp hv).1 hpoints
    rw [refusedPart, if_pos hpoints]
    rcases hpoints with rfl | htake
    · rfl
    · rw [show (1 : Nat) = min 1 2 from rfl, ← List.take_take, htake]
      rfl
  rw [if_neg hpoints]
  have hwhole : run.take run.length = refusedPart run := by
    rw [List.take_length, refusedPart, if_neg hpoints]
  by_cases hcount : 1 < run.count '.'
  · rw [if_pos hcount]
    exact refuse _ _ hwhole fun hv => (hiff.mp hv).2.1 hcount
  rw [if_neg hcount]
  by_cases hfinite : (literalValue run).isFinite = true
  · rw [if_pos hfinite, take_of_append _ h]
    exact .piece h (.number hrun (hiff.mpr ⟨hpoints, hcount, hfinite⟩))
  · rw [if_neg hfinite]
    exact refuse _ _ hwhole fun hv => hfinite (hiff.mp hv).2.2

theorem outcome_superscript {run rest : List Char} (h : cursor.rest = run ++ rest)
    (hrun : IsSpan isSuperscript run rest) : cursor.Outcome (cursor.superscript run) := by
  rw [superscript]
  rcases hvalue : overflowLength? 0 run with _ | count
  · simp only [take_of_append _ h]
    exact .piece h (.superscript hrun hvalue)
  · refine .fault ?_
    rw [h]
    exact .exponent hrun hvalue

theorem outcome_token (hblank : ∀ c, cursor.rest.head? = some c → isBlank c = false) :
    cursor.Outcome cursor.token := by
  obtain ⟨column, text⟩ := cursor
  rcases text with _ | ⟨c, rest⟩
  · exact .stop rfl
  have hone : (Cursor.mk column (c :: rest)).rest = [c] ++ rest := rfl
  have single : ∀ kind, Piece [c] rest kind →
      (Cursor.mk column (c :: rest)).Outcome ((Cursor.mk column (c :: rest)).take kind 1) := by
    intro kind hpiece
    rw [show (1 : Nat) = [c].length from rfl, take_of_append kind hone]
    exact .piece hone hpiece
  have hspan : ∀ p : Char → Bool, (Cursor.mk column (c :: rest)).rest =
      (c :: rest).takeWhile p ++ (c :: rest).dropWhile p :=
    fun p => List.takeWhile_append_dropWhile.symm
  rcases hsymbol : symbol? c with _ | kind
  · by_cases hliteral : isLiteralChar c = true
    · simp only [token, hsymbol, if_pos hliteral]
      exact outcome_number (hspan _) (isSpan_takeWhile hliteral)
    by_cases hsuperscript : isSuperscript c = true
    · simp only [token, hsymbol, if_neg hliteral, if_pos hsuperscript]
      exact outcome_superscript (hspan _) (isSpan_takeWhile hsuperscript)
    by_cases hletter : isIdentifierStart c = true
    · simp only [token, hsymbol, if_neg hliteral, if_neg hsuperscript, if_pos hletter]
      exact single _
        (.letter hsymbol (by simpa using hliteral) (by simpa using hsuperscript) hletter)
    · simp only [token, hsymbol, if_neg hliteral, if_neg hsuperscript, if_neg hletter]
      have := hblank c rfl
      exact .fault (.character (by simp_all [isLexical]))
  · simp only [token, hsymbol]
    exact single _ (.symbol hsymbol)

section Found

variable {column : Nat} {gap run rest : List Char} {kind : TokenKind}

/-- **The token at the head of a text is the piece that stands there.** -/
theorem token_of_piece (h : Piece run rest kind) : (Cursor.mk column (run ++ rest)).token =
    (.ok ⟨kind, String.ofList run, column⟩, ⟨column + run.length, rest⟩) := by
  have htake : (Cursor.mk column (run ++ rest)).take kind run.length =
      (.ok ⟨kind, String.ofList run, column⟩, ⟨column + run.length, rest⟩) :=
    take_of_append kind rfl
  cases h with
  | symbol hc =>
    rw [token]
    simp only [List.singleton_append, hc]
    exact htake
  | number hrun hvalue =>
    obtain ⟨hpoints, hcount, hfinite⟩ := (isNumeral_iff hrun.ne_nil hrun.of_mem).mp hvalue
    obtain ⟨c, tail, rfl⟩ := List.exists_cons_of_ne_nil hrun.ne_nil
    have hc : isLiteralChar c = true := hrun.of_mem c List.mem_cons_self
    have hnumber : (Cursor.mk column (c :: tail ++ rest)).token =
        (Cursor.mk column (c :: tail ++ rest)).number
          ((c :: tail ++ rest).takeWhile isLiteralChar) := by
      rw [token]
      simp only [List.cons_append, (class_of_isLiteralChar hc).2, hc, if_true]
    rw [hnumber, ← hrun.eq_takeWhile, number]
    simp only [if_neg hpoints, if_neg hcount, if_pos hfinite]
    exact htake
  | superscript hrun hvalue =>
    obtain ⟨c, tail, rfl⟩ := List.exists_cons_of_ne_nil hrun.ne_nil
    have hc : isSuperscript c = true := hrun.of_mem c List.mem_cons_self
    obtain ⟨-, hsymbol, hliteral⟩ := class_of_isSuperscript hc
    have hsuperscript : (Cursor.mk column (c :: tail ++ rest)).token =
        (Cursor.mk column (c :: tail ++ rest)).superscript
          ((c :: tail ++ rest).takeWhile isSuperscript) := by
      rw [token]
      simp only [List.cons_append, hsymbol, hliteral, hc, if_true, Bool.false_eq_true, if_false]
    rw [hsuperscript, ← hrun.eq_takeWhile, superscript, hvalue]
    exact htake
  | letter hsymbol hliteral hsuperscript hletter =>
    rw [token]
    simp only [List.singleton_append, hsymbol, hliteral, hsuperscript, hletter, if_true,
      Bool.false_eq_true, if_false]
    exact htake

theorem skipBlanks_of_append {text : List Char} (hgap : ∀ c ∈ gap, isBlank c = true)
    (htext : ∀ c, text.head? = some c → isBlank c = false) :
    (Cursor.mk column (gap ++ text)).skipBlanks = ⟨column + gap.length, text⟩ := by
  have htake : (gap ++ text).takeWhile isBlank = gap := by
    rw [List.takeWhile_append_of_pos hgap]
    rcases text with _ | ⟨d, text⟩
    · simp
    · simp [htext d rfl]
  rw [skipBlanks, htake]
  exact advance_of_append rfl

/-- Behind blanks as well, unless the piece starts with a blank itself. -/
theorem next_of_piece (hgap : ∀ c ∈ gap, isBlank c = true) (h : Piece run rest kind)
    (hhead : ∀ c, run.head? = some c → isBlank c = false) :
    (Cursor.mk column (gap ++ (run ++ rest))).next =
      (.ok ⟨kind, String.ofList run, column + gap.length⟩,
        ⟨column + gap.length + run.length, rest⟩) := by
  obtain ⟨c, tail, rfl⟩ := List.exists_cons_of_ne_nil h.ne_nil
  have htext : ∀ d, (c :: tail ++ rest).head? = some d → isBlank d = false := fun d hd => hhead d hd
  rw [next, skipBlanks_of_append hgap htext]
  exact token_of_piece h

end Found

theorem exists_gap (cursor : Cursor) : ∃ gap, (∀ c ∈ gap, isBlank c = true) ∧
    cursor.rest = gap ++ cursor.skipBlanks.rest ∧
    cursor.skipBlanks.column = cursor.column + gap.length ∧
    ∀ c, cursor.skipBlanks.rest.head? = some c → isBlank c = false := by
  have happend : cursor.rest = cursor.rest.takeWhile isBlank ++ cursor.rest.dropWhile isBlank :=
    List.takeWhile_append_dropWhile.symm
  have hskip : cursor.skipBlanks =
      ⟨cursor.column + (cursor.rest.takeWhile isBlank).length, cursor.rest.dropWhile isBlank⟩ :=
    advance_of_append happend
  refine ⟨cursor.rest.takeWhile isBlank, fun c hc => List.mem_takeWhile_imp hc, ?_, ?_, ?_⟩
  · rw [hskip]
    exact happend
  · rw [hskip]
  · intro c hc
    have h := List.head?_dropWhile_not isBlank cursor.rest
    rw [hskip] at hc
    rw [hc] at h
    exact h

/-- **The scanner answers as the relation says.** -/
theorem scans_tokens (cursor : Cursor) : Scans cursor.column cursor.rest cursor.tokens := by
  induction cursor using Cursor.tokens.induct with
  | case1 cursor e after hn =>
    obtain ⟨gap, hgap, hrest, hcolumn, hblank⟩ := cursor.exists_gap
    have h := outcome_token hblank
    rw [tokens, hn, hrest]
    rw [← next, hn] at h
    cases h with
    | fault h => exact .fault hgap (hcolumn ▸ h)
  | case2 cursor t after hn ht =>
    obtain ⟨gap, hgap, hrest, hcolumn, hblank⟩ := cursor.exists_gap
    have h := outcome_token hblank
    rw [tokens, hn]
    rw [← next, hn] at h
    simp only [ht, dite_true]
    cases h with
    | stop h =>
      rw [hrest, h, List.append_nil, hcolumn]
      exact .stop hgap
    | piece _ hpiece => simp [hpiece.isEnd_eq] at ht
  | case3 cursor t after hn ht ih =>
    obtain ⟨gap, hgap, hrest, hcolumn, hblank⟩ := cursor.exists_gap
    have h := outcome_token hblank
    rw [tokens, hn]
    rw [← next, hn] at h
    simp only [dif_neg ht]
    cases h with
    | stop => exact absurd rfl ht
    | piece hskip hpiece =>
      rw [hrest, hskip, hcolumn]
      rw [hcolumn] at ih
      exact .token hgap hpiece ih

end Cursor

/-! ## The layout -/

/-- What stands before each token, in a text that starts in the given column. -/
def gapsBefore (column : Nat) (text : List Char) : List Token → List (List Char)
  | [] => []
  | t :: ts =>
    let start := t.column - column
    text.take start ::
      gapsBefore (t.column + t.lexeme.length) (text.drop (start + t.lexeme.length)) ts

/-- The characters of tokens, each with the gap before it. -/
def weave (gaps : List (List Char)) (ts : List Token) : List Char :=
  (gaps.zip ts).flatMap fun (gap, t) => gap ++ t.lexeme.toList

/-- **Tokens that lie in a text** that starts in the given column: none of its characters is lost,
but for blanks, and none is invented. -/
structure LaidOut (column : Nat) (text : List Char) (ts : List Token) : Prop where
  /-- The end of input is the last token and no other, in the column behind the text. -/
  ends : ∃ before, ts = before ++ [⟨.endOfInput, "", column + text.length⟩] ∧
    ∀ t ∈ before, t.kind.isEnd = false
  /-- Every other token has characters. -/
  lexeme_ne : ∀ t ∈ ts, t.kind.isEnd = false → t.lexeme ≠ ""
  /-- They stand in the text where its column says. -/
  slice : ∀ t ∈ ts, column ≤ t.column ∧
    t.lexeme.toList = (text.drop (t.column - column)).take t.lexeme.length
  /-- Tokens do not overlap, and stand in the order of the text. -/
  ordered : ts.Pairwise fun t u => t.column + t.lexeme.length ≤ u.column
  /-- A character outside of all tokens is blank. -/
  blank_outside : ∀ (i : Nat) (hi : i < text.length),
    (∀ t ∈ ts, column + i < t.column ∨ t.column + t.lexeme.length ≤ column + i) →
      isBlank text[i] = true
  /-- What stands between the tokens is blank. -/
  blank_gaps : ∀ gap ∈ gapsBefore column text ts, ∀ c ∈ gap, isBlank c = true
  /-- The tokens with the gaps between them are the text. -/
  weave_eq : weave (gapsBefore column text ts) ts = text

theorem drop_append_append (gap run rest : List Char) (n : Nat) :
    (gap ++ (run ++ rest)).drop (gap.length + run.length + n) = rest.drop n := by
  rw [Nat.add_assoc, List.drop_length_add_append, List.drop_length_add_append]

theorem laidOut_stop {column : Nat} {gap : List Char} (hgap : ∀ c ∈ gap, isBlank c = true) :
    LaidOut column gap [⟨.endOfInput, "", column + gap.length⟩] where
  ends := ⟨[], rfl, by simp⟩
  lexeme_ne := by simp [TokenKind.isEnd]
  slice := by simp
  ordered := List.pairwise_singleton _ _
  blank_outside i hi _ := hgap _ (List.getElem_mem hi)
  blank_gaps := by simpa [gapsBefore] using hgap
  weave_eq := by simp [weave, gapsBefore]

theorem LaidOut.cons {column : Nat} {gap run rest : List Char} {kind : TokenKind} {ts : List Token}
    (hgap : ∀ c ∈ gap, isBlank c = true) (hrun : run ≠ []) (hkind : kind.isEnd = false)
    (h : LaidOut (column + gap.length + run.length) rest ts) :
    LaidOut column (gap ++ (run ++ rest))
      (⟨kind, String.ofList run, column + gap.length⟩ :: ts) where
  ends := by
    obtain ⟨before, rfl, hbefore⟩ := h.ends
    refine ⟨⟨kind, String.ofList run, column + gap.length⟩ :: before, ?_,
      by simpa [hkind] using hbefore⟩
    simp [Nat.add_assoc]
  lexeme_ne := by
    simpa [hrun] using h.lexeme_ne
  slice := by
    refine List.forall_mem_cons.mpr ⟨?_, fun t ht => ?_⟩
    · simp
    · obtain ⟨hle, hslice⟩ := h.slice t ht
      have hoffset : t.column - column =
          gap.length + run.length + (t.column - (column + gap.length + run.length)) := by omega
      exact ⟨by omega, by rw [hslice, hoffset, drop_append_append]⟩
  ordered := by
    refine List.pairwise_cons.mpr ⟨fun t ht => ?_, h.ordered⟩
    simpa using (h.slice t ht).1
  blank_outside := by
    intro i hi hout
    obtain ⟨hfirst, hrest⟩ := List.forall_mem_cons.mp hout
    simp only [String.length_ofList] at hfirst
    rcases hfirst with hlt | hle
    · rw [List.getElem_append_left (by omega)]
      exact hgap _ (List.getElem_mem _)
    · have hi' : i - gap.length - run.length < rest.length := by
        simp only [List.length_append] at hi
        omega
      rw [List.getElem_append_right (by omega), List.getElem_append_right (by omega)]
      refine h.blank_outside _ hi' fun t ht => ?_
      have := hrest t ht
      omega
  blank_gaps := by
    have hdrop := drop_append_append gap run rest 0
    simp only [gapsBefore, Nat.add_sub_cancel_left, String.length_ofList, List.take_left]
    rw [← Nat.add_zero (gap.length + run.length), hdrop]
    exact List.forall_mem_cons.mpr ⟨hgap, h.blank_gaps⟩
  weave_eq := by
    have hdrop := drop_append_append gap run rest 0
    simp only [gapsBefore, Nat.add_sub_cancel_left, String.length_ofList, List.take_left, weave,
      List.zip_cons_cons, List.flatMap_cons, String.toList_ofList, List.append_assoc]
    rw [← Nat.add_zero (gap.length + run.length), hdrop]
    exact congrArg (fun later => gap ++ (run ++ later)) h.weave_eq

theorem Scans.laidOut {column : Nat} {text : List Char} {result : Except LexError (List Token)}
    (h : Scans column text result) {ts : List Token} (hts : result = .ok ts) :
    LaidOut column text ts := by
  induction h generalizing ts with
  | stop hgap =>
    obtain rfl := Except.ok.inj hts
    exact laidOut_stop hgap
  | @token column gap run rest kind result hgap hpiece h ih =>
    rcases result with e | later
    · simp [Except.map] at hts
    · obtain rfl := Except.ok.inj hts
      exact (ih rfl).cons hgap hpiece.ne_nil hpiece.isEnd_eq
  | fault => simp at hts

/-- **The tokens of a text lie in its composed form.** -/
theorem laidOut_tokens {text : String} {ts : List Token} (h : tokens text = .ok ts) :
    LaidOut 1 (composed text.toList) ts :=
  (Cursor.start text).scans_tokens.laidOut h

/-- A superscript between letters and signs, with blanks around. -/
theorem laidOut_tokens_square :
    let ts : List Token := [⟨.letter 'x', "x", 2⟩, ⟨.superscript 12, "¹²", 3⟩, ⟨.minus, "-", 6⟩,
      ⟨.letter 'x', "x", 7⟩, ⟨.endOfInput, "", 9⟩]
    tokens " x¹² -x " = .ok ts ∧ LaidOut 1 (composed " x¹² -x ".toList) ts := by
  have h : tokens " x¹² -x " = .ok [⟨.letter 'x', "x", 2⟩, ⟨.superscript 12, "¹²", 3⟩,
      ⟨.minus, "-", 6⟩, ⟨.letter 'x', "x", 7⟩, ⟨.endOfInput, "", 9⟩] := by
    with_unfolding_all rfl
  exact ⟨h, laidOut_tokens h⟩

end OneUnknown
