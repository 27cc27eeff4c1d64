import OneUnknown.Proofs.Equation.Blame
import OneUnknown.Proofs.Token.Language

/-!
# Errors point into the text

An error that knows its column points at a character of the composed text, or just behind it. What
the scanner refuses is found in the text at that column, and what the reader refuses is blamed on a
token.

* `Points`, **`points_ofTokens`**: an error in a row of tokens points at one of them;
* `LexError.part`, `Offence.part_begins`: the characters that an error of the scanner names;
* **`parse_error_column`**: where the errors of a text point.
-/

namespace OneUnknown

variable {K : Type} [Scalar K] {α : Type}

/-! ## Rows of tokens -/

/-- **An error points at a column of a kind**, if it points at all. The lack of an unknown is no
such error. -/
def Points (P : Nat → Prop) : SolveResult α → Prop :=
  Ends (fun e => e ≠ .noVariable ∧ ∀ column, e.column? = some column → P column) fun _ => True

theorem Blames.stands {P : Token → Prop} {e : SolveError} (h : Blames P e) :
    e ≠ .noVariable ∧ ∀ column, e.column? = some column → StandsAt P column := by
  have here : ∀ {t : Token}, P t → StandsAt P t.column := fun ht => ⟨_, ht, rfl⟩
  cases h <;> simp_all [SolveError.column?, Complaint.column?]

/-- **An error in a row of tokens that has an end points at one of them.** -/
theorem points_ofTokens (limit : Nat) {ts : List Token} {stop : Token} (hmem : stop ∈ ts)
    (hstop : stop.kind.isEnd = true) :
    Points (fun column => ∃ t ∈ ts, t.column = column) (Equation.ofTokens (K := K) limit ts) :=
  (ends_ofTokens limit hmem hstop).imp (fun _ he => he.stands) fun _ _ => trivial

/-! ## Errors of the scanner -/

/-- **The characters that an error of the scanner names**, a single one or those of a literal. -/
def LexError.part : LexError → List Char
  | unexpectedCharacter c _ => [c]
  | invalidNumber literal _ => literal.toList
  | exponentTooLarge literal _ => literal.toList

theorem refusedPart_begins {run : List Char} (h : run ≠ []) :
    refusedPart run ≠ [] ∧ refusedPart run <+: run := by
  unfold refusedPart
  split
  · rename_i hpoint
    refine ⟨by simp, ?_⟩
    rcases hpoint with rfl | htwo
    · exact List.prefix_rfl
    · exact List.IsPrefix.trans ⟨['.'], htwo.symm⟩ (List.take_prefix 2 run)
  · exact ⟨h, List.prefix_rfl⟩

theorem IsRun.prefix_drop {p : Char → Bool} {text run part : List Char} {start : Nat}
    (h : IsRun p text start run) (hpart : part <+: run) :
    start < text.length ∧ part <+: text.drop start := by
  obtain ⟨before, after, rfl, rfl, hspan, -⟩ := h
  have hlength := List.length_pos_iff.mpr hspan.ne_nil
  refine ⟨by simp; omega, ?_⟩
  rw [List.drop_left]
  exact hpart.trans (List.prefix_append run after)

/-- **What an offence names stands in the text at its column.** -/
theorem Offence.part_begins {column : Nat} {text : List Char} {e : LexError}
    (h : Offence column text e) : ∃ start, e.column = column + start ∧ start < text.length ∧
      e.part ≠ [] ∧ e.part <+: text.drop start := by
  rcases h with ⟨hc, -⟩ | ⟨hrun, -⟩ | ⟨hrun, hover, -⟩
  · rename_i i c
    obtain ⟨hi, rfl⟩ := List.getElem?_eq_some_iff.mp hc
    refine ⟨i, rfl, hi, by simp [LexError.part], ?_⟩
    rw [List.drop_eq_getElem_cons hi]
    exact ⟨text.drop (i + 1), rfl⟩
  · rename_i start run
    have hne : run ≠ [] := by
      obtain ⟨before, after, -, -, hspan, -⟩ := hrun
      exact hspan.ne_nil
    obtain ⟨hpart, hprefix⟩ := refusedPart_begins hne
    obtain ⟨hlt, hdrop⟩ := hrun.prefix_drop hprefix
    exact ⟨start, rfl, hlt, by simpa [LexError.part] using hpart, by simpa [LexError.part]⟩
  · rename_i start count run
    obtain ⟨hlt, hdrop⟩ := hrun.prefix_drop (List.take_prefix count run)
    refine ⟨start, rfl, hlt, ?_, by simpa [LexError.part]⟩
    intro hnil
    have htake : run.take count = [] := by simpa [LexError.part] using hnil
    simp [htake, exponentValue] at hover

/-! ## Texts -/

theorem LaidOut.column_mem {column : Nat} {text : List Char} {ts : List Token}
    (h : LaidOut column text ts) {t : Token} (ht : t ∈ ts) :
    column ≤ t.column ∧ t.column ≤ column + text.length := by
  refine ⟨(h.slice t ht).1, ?_⟩
  obtain ⟨before, rfl, -⟩ := h.ends
  rcases List.mem_append.mp ht with ht | ht
  · have := (List.pairwise_append.mp h.ordered).2.2 t ht _ List.mem_cons_self
    dsimp only at this
    omega
  · obtain rfl := List.mem_singleton.mp ht
    exact Nat.le_refl _

/-- **Where the errors of a text point.** The column is that of a character of the composed text, or
the one behind it. An error of the scanner names characters that stand there, and every other error
points at a token. -/
theorem parse_error_column {limit : Nat} {text : String} {e : SolveError} {column : Nat}
    (h : Equation.parse (K := K) limit text = .error e) (hcolumn : e.column? = some column) :
    (1 ≤ column ∧ column ≤ (composed text.toList).length + 1) ∧
    ((∃ e', tokens text = .error e' ∧ e = .malformed (.lexical e') ∧ e'.column = column ∧
        e'.part ≠ [] ∧ e'.part <+: (composed text.toList).drop (column - 1)) ∨
      ∃ ts, tokens text = .ok ts ∧ ∃ t ∈ ts, t.column = column) := by
  have hscans : Scans 1 (composed text.toList) (tokens text) := (Cursor.start text).scans_tokens
  unfold Equation.parse at h
  rcases htokens : tokens text with e' | ts
  · rw [htokens] at h
    obtain rfl := Except.error.inj h
    obtain rfl : e'.column = column := Option.some.inj hcolumn
    obtain ⟨start, hstart, hlt, hpart, hprefix⟩ := (hscans.leftmost htokens).1.part_begins
    have hdrop : e'.column - 1 = start := by omega
    exact ⟨by omega, .inl ⟨e', rfl, rfl, rfl, hpart, by rwa [hdrop]⟩⟩
  · rw [htokens] at h
    have hlaid := hscans.laidOut htokens
    obtain ⟨before, hends, -⟩ := hlaid.ends
    have hstop : ⟨.endOfInput, "", 1 + (composed text.toList).length⟩ ∈ ts := by simp [hends]
    have hpoints := points_ofTokens (K := K) limit hstop rfl
    simp only [h] at hpoints
    obtain ⟨t, ht, htcolumn⟩ := hpoints.2 column hcolumn
    have hbounds := hlaid.column_mem ht
    exact ⟨by omega, .inr ⟨ts, rfl, t, ht, htcolumn⟩⟩

/-- The sign of equality stands where a parenthesis has to be closed. -/
theorem parse_error_column_open_parenthesis :
    Equation.parse (K := Float) 64 "(x = 1" = .error (.malformed (.expectedClose 4)) ∧
      ∃ ts, tokens "(x = 1" = .ok ts ∧ ∃ t ∈ ts, t.column = 4 := by
  have h : Equation.parse (K := Float) 64 "(x = 1" = .error (.malformed (.expectedClose 4)) := by
    with_unfolding_all rfl
  obtain ⟨-, ⟨e, -, he, -⟩ | hts⟩ := parse_error_column h rfl
  · simp at he
  · exact ⟨h, hts⟩

end OneUnknown
