import OneUnknown.Proofs.Descent.Agreement
import OneUnknown.Proofs.Descent.Turns

/-!
# A run over any tokens

Nothing is asked of the tokens: there may be none, the end of input may be missing or stand among
them, and the numbers may be any. The row that is read is closed by an end of input, and this is
enough for every run over it to end within it.

* `equalsColumns_concat`, `body_concat`, `endColumn_concat`, **`ofTokens_closed`**: closing a row
  changes nothing for the reader;
* `outcome_equation`: the outcome of the run and its state;
* **`equation_safe`**: the run ends, stays within the row and never goes back.
-/

namespace OneUnknown.Descent

variable {K : Type} [Scalar K]

/-! ## Closing a row -/

section Closed

variable {ts : List Token} {stop : Token}

theorem equalsColumns_concat (hstop : stop.kind = .endOfInput) :
    equalsColumns (ts ++ [stop]) = equalsColumns ts := by
  have hequals : stop.kind.isEquals = false := by rw [hstop]; rfl
  simp [equalsColumns, List.filter_append, hequals]

theorem body_concat (hstop : stop.kind = .endOfInput) : body (ts ++ [stop]) = body ts := by
  have hend : stop.kind.isEnd = true := by rw [hstop]; rfl
  have hprefix := List.takeWhile_prefix (l := ts) fun t => !t.kind.isEnd
  unfold body
  rw [List.takeWhile_append]
  split
  · rename_i hall
    simp [hend, hprefix.eq_of_length hall]
  · rfl

theorem endColumn_concat {last : Token} (hlast : ts.getLast? = some last)
    (hstop : stop.kind = .endOfInput) (hcolumn : stop.column = last.endColumn) :
    endColumn (ts ++ [stop]) = endColumn ts := by
  have hend : stop.kind.isEnd = true := by rw [hstop]; rfl
  unfold endColumn
  rw [List.find?_append, hlast]
  cases ts.find? fun t => t.kind.isEnd with
  | some first => rfl
  | none => simp [hend, hcolumn]

end Closed

/-- **An end of input that is added changes nothing for the reader.** -/
theorem ofTokens_closed (limit : Nat) (ts : List Token) :
    Equation.ofTokens (K := K) limit (closed ts) = Equation.ofTokens limit ts := by
  unfold closed
  split
  · obtain rfl : ts = [] := List.getLast?_eq_none_iff.mp ‹_›
    rfl
  · rename_i last hlast
    split
    · rfl
    · rw [Equation.ofTokens, Equation.ofTokens, equalsColumns_concat rfl, body_concat rfl,
        endColumn_concat hlast rfl rfl]

/-! ## Safety -/

/-- The outcome of the run over any tokens, whatever turns it is given beyond their number, and
what holds of the state that it leaves. -/
theorem outcome_equation (limit : Nat) (ts : List Token) :
    ∃ s : State K,
      (∀ turns, (closed ts).length ≤ turns → outcome (equation (closed ts) limit turns) {} =
        ((Equation.ofTokens limit ts).mapError .refused, s)) ∧
      Sound (closed ts) s := by
  have hrow := isClosed_closed ts
  have hpos : 0 < (closed ts).length := by
    obtain ⟨stop, hlast, -⟩ := hrow
    exact List.length_pos_of_mem (List.mem_of_getLast? hlast)
  have hmeets : Meets (closed ts) ⟨0, none⟩
      (equation (closed ts) limit (closed ts).length : Descent K (Equation K)) _ _ :=
    meets_equation hrow (Nat.le_refl _)
  have hend := hmeets {} (sound_start hpos) rfl
  have hmore (turns : Nat) (hle : (closed ts).length ≤ turns) :=
    outcome_equation_of_le (K := K) (closed ts) limit hle {}
  rw [ofTokens_closed] at hend
  revert hend hmore
  rcases outcome (equation (closed ts) limit (closed ts).length) {} with ⟨(e | _ | _) | e, s⟩
  · rintro ⟨hs, he⟩ hmore
    exact ⟨s, fun turns hle => by rw [hmore turns hle nofun, he]; rfl, hs⟩
  · exact False.elim
  · exact False.elim
  · rintro ⟨hs, -, he⟩ hmore
    exact ⟨s, fun turns hle => by rw [hmore turns hle nofun, he]; rfl, hs⟩

/-- **The run over any tokens ends, stays within the row and never goes back.** Given as many turns
as there are tokens, or any more, it comes to the outcome that the reader comes to and leaves one
and the same state, so it is never in want of turns and never asks for a token that is not there.
The position changes only just before a lookup, and all lookups are recorded: each is within the
row, at the position of that time or just before it, and no position is below an earlier one. -/
theorem equation_safe (limit : Nat) (ts : List Token) :
    ∃ s : State K,
      (∀ turns, (closed ts).length ≤ turns → outcome (equation (closed ts) limit turns) {} =
        ((Equation.ofTokens limit ts).mapError .refused, s)) ∧
      s.position < (closed ts).length ∧
      (∀ l ∈ s.lookups, l.index < (closed ts).length ∧
        (l.index = l.position ∨ l.index + 1 = l.position) ∧ l.position ≤ s.position) ∧
      s.lookups.Pairwise fun later earlier => earlier.position ≤ later.position := by
  obtain ⟨s, hrun, hs⟩ := outcome_equation (K := K) limit ts
  refine ⟨s, hrun, hs.position_lt, fun l hl => ⟨?_, hs.index_eq l hl, hs.position_le l hl⟩,
    hs.monotone⟩
  have hlt := hs.position_lt
  have hle := hs.position_le l hl
  have hindex := hs.index_eq l hl
  omega

/-- An end of input within the tokens, with a parenthesis that is open before it. The first token is
looked up until it is passed and once more behind the position, and the end of input is looked up
and never passed. -/
theorem equation_safe_inner_end : ∃ s : State Float,
    outcome (equation (closed [⟨.openParen, "(", 1⟩, ⟨.endOfInput, "", 2⟩,
      ⟨.closeParen, ")", 3⟩]) 64 4) {} =
      (.error (.refused (.malformed (.expectedExpression 2))), s) ∧
    s.position = 1 ∧
    s.lookups.reverse.map (fun l => (l.position, l.index)) =
      [(0, 0), (0, 0), (0, 0), (1, 0), (1, 1), (1, 1), (1, 1), (1, 1)] ∧
    (∀ l ∈ s.lookups, l.index < 4 ∧ l.position ≤ s.position) := by
  obtain ⟨s, hrun, -, hlookups, -⟩ := equation_safe (K := Float) 64
    [⟨.openParen, "(", 1⟩, ⟨.endOfInput, "", 2⟩, ⟨.closeParen, ")", 3⟩]
  have hrecord : s = (outcome (equation (closed [⟨.openParen, "(", 1⟩, ⟨.endOfInput, "", 2⟩,
      ⟨.closeParen, ")", 3⟩]) 64 4) {}).2 := by
    rw [hrun 4 (by decide)]
  refine ⟨s, hrun 4 (by decide), by rw [hrecord]; decide +kernel, by rw [hrecord]; decide +kernel,
    fun l hl => ?_⟩
  obtain ⟨hlt, -, hle⟩ := hlookups l hl
  exact ⟨hlt, hle⟩

end OneUnknown.Descent
