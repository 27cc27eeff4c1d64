import OneUnknown.Proofs.Token.Layout
import OneUnknown.Proofs.Token.Row

/-!
# What a text spells

The tokens of a text are found from its end: what is spelled by the rest is known, and a piece put
before it adds its own token, as long as the piece does not run into the rest. Columns and spellings
do not matter to what a row of tokens means, so only the kinds are kept.

* **`Spells`**: characters that are cut into tokens of given kinds;
* `Spells.blank`, `Spells.piece`: a blank, and a piece, in front of a text;
* `Spells.symbol`, `Spells.letter`: single characters;
* `IsLiteral`, **`Spells.number`**: literals;
* **`Spells.exists_body`**: the tokens of a text.
-/

namespace OneUnknown

/-- **The characters are cut into tokens of these kinds**, up to the end of input, wherever they
start. None of them is changed when the text is brought to its composed form. -/
structure Spells (text : List Char) (kinds : List TokenKind) : Prop where
  lt_firstMark : ∀ c ∈ text, c < firstMark
  exists_tokens : ∀ column, ∃ ts, Cursor.tokens ⟨column, text⟩ = .ok ts ∧
    ts.map (·.kind) = kinds ++ [.endOfInput]

namespace Cursor

theorem skipBlanks_cons_of_blank {c : Char} (hc : isBlank c = true) (column : Nat)
    (rest : List Char) :
    (Cursor.mk column (c :: rest)).skipBlanks = (Cursor.mk (column + 1) rest).skipBlanks := by
  simp [skipBlanks, advance, hc, Nat.add_comm, Nat.add_left_comm]

theorem tokens_of_next {cursor after : Cursor} {t : Token} {ts : List Token}
    (hn : cursor.next = (.ok t, after)) (ht : t.kind.isEnd = false) (hts : after.tokens = .ok ts) :
    cursor.tokens = .ok (t :: ts) := by
  rw [tokens, hn]
  simp [ht, hts, Except.map]

theorem tokens_eq_of_next_eq {cursor cursor' : Cursor} (h : cursor.next = cursor'.next) :
    cursor.tokens = cursor'.tokens := by
  rw [tokens, tokens, h]

end Cursor

namespace Spells

variable {rest : List Char} {kinds : List TokenKind} {c : Char}

theorem nil : Spells [] [] := by
  refine ⟨fun c hc => absurd hc List.not_mem_nil, fun column => ?_⟩
  have hn : (Cursor.mk column []).next = (.ok ⟨.endOfInput, "", column⟩, ⟨column, []⟩) := rfl
  refine ⟨[⟨.endOfInput, "", column⟩], ?_, rfl⟩
  rw [Cursor.tokens, hn]
  rfl

theorem blank (hmark : c < firstMark) (hc : isBlank c = true) (h : Spells rest kinds) :
    Spells (c :: rest) kinds := by
  refine ⟨List.forall_mem_cons.mpr ⟨hmark, h.lt_firstMark⟩, fun column => ?_⟩
  obtain ⟨ts, hts, hkinds⟩ := h.exists_tokens (column + 1)
  refine ⟨ts, ?_, hkinds⟩
  rw [← hts]
  apply Cursor.tokens_eq_of_next_eq
  rw [Cursor.next, Cursor.next, Cursor.skipBlanks_cons_of_blank hc]

/-- **A piece in front of the rest.** -/
theorem piece {run : List Char} {kind : TokenKind} (hmark : ∀ c ∈ run, c < firstMark)
    (hpiece : Piece run rest kind) (hhead : ∀ c, run.head? = some c → isBlank c = false)
    (h : Spells rest kinds) : Spells (run ++ rest) (kind :: kinds) := by
  refine ⟨List.forall_mem_append.mpr ⟨hmark, h.lt_firstMark⟩, fun column => ?_⟩
  obtain ⟨ts, hts, hkinds⟩ := h.exists_tokens (column + run.length)
  have hnext : (Cursor.mk column (run ++ rest)).next =
      (.ok ⟨kind, String.ofList run, column⟩, ⟨column + run.length, rest⟩) :=
    Cursor.next_of_piece (List.forall_mem_nil _) hpiece hhead
  exact ⟨_, Cursor.tokens_of_next hnext hpiece.isEnd_eq hts, by simp [hkinds]⟩

theorem symbol {kind : TokenKind} (hmark : c < firstMark) (hblank : isBlank c = false)
    (hc : symbol? c = some kind) (h : Spells rest kinds) : Spells (c :: rest) (kind :: kinds) :=
  piece (List.forall_mem_singleton.mpr hmark) (.symbol hc) (by simpa using hblank) h

theorem letter (hmark : c < firstMark) (hblank : isBlank c = false) (hsymbol : symbol? c = none)
    (hliteral : isLiteralChar c = false) (hsuperscript : isSuperscript c = false)
    (hletter : isIdentifierStart c = true) (h : Spells rest kinds) :
    Spells (c :: rest) (.letter c :: kinds) :=
  piece (List.forall_mem_singleton.mpr hmark) (.letter hsymbol hliteral hsuperscript hletter)
    (by simpa using hblank) h

end Spells

/-! ## Literals -/

/-- **Digits with at most one point among them**, the first character no point. -/
structure IsLiteral (run : List Char) : Prop where
  isDigit_head : ∃ c tail, run = c :: tail ∧ c.isDigit = true
  isLiteralChar_of_mem : ∀ c ∈ run, isLiteralChar c = true
  count_le_one : run.count '.' ≤ 1

theorem lt_firstMark_of_isLiteralChar {c : Char} (h : isLiteralChar c = true) : c < firstMark := by
  rcases Bool.or_eq_true_iff.mp h with hdigit | hpoint
  · obtain ⟨d, hd, rfl⟩ := exists_digitChar hdigit
    match d, hd with
    | 0, _ | 1, _ | 2, _ | 3, _ | 4, _ | 5, _ | 6, _ | 7, _ | 8, _ | 9, _ => decide
  · rw [beq_iff_eq.mp hpoint]
    decide

theorem Spells.number {run rest : List Char} {kinds : List TokenKind} (hrun : IsLiteral run)
    (hfinite : (literalValue run).isFinite = true)
    (hrest : ∀ c, rest.head? = some c → isLiteralChar c = false) (h : Spells rest kinds) :
    Spells (run ++ rest) (.number (literalValue run) :: kinds) := by
  obtain ⟨⟨c, tail, rfl, hdigit⟩, hall, hcount⟩ := hrun
  have hmark : ∀ d ∈ c :: tail, d < firstMark := fun d hd =>
    lt_firstMark_of_isLiteralChar (hall d hd)
  have hspan : IsSpan isLiteralChar (c :: tail) rest := ⟨List.cons_ne_nil c tail, hall, hrest⟩
  have hnumeral : IsNumeral (c :: tail) := ⟨⟨c, List.mem_cons_self, hdigit⟩, hcount, hfinite⟩
  have hblank : isBlank c = false := (isBlank_of_isDigit hdigit).1
  exact Spells.piece hmark (.number hspan hnumeral) (by simpa using hblank) h

/-! ## Texts -/

/-- **A text that spells tokens is read as these tokens**, up to the end of input. -/
theorem Spells.exists_body {text : String} {kinds : List TokenKind}
    (h : Spells text.toList kinds) :
    ∃ ts, tokens text = .ok ts ∧ (body ts).map (·.kind) = kinds := by
  obtain ⟨ts, hts, hkinds⟩ := h.exists_tokens 1
  have hok : tokens text = .ok ts := by
    rw [tokens, Cursor.start, composed_of_forall_lt h.lt_firstMark]
    exact hts
  obtain ⟨stop, -, hstop⟩ := exists_body_append hok
  rw [← hstop, List.map_append] at hkinds
  exact ⟨ts, hok, (List.append_inj' hkinds rfl).1⟩

end OneUnknown
