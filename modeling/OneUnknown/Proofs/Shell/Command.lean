import OneUnknown.Proofs.Text.Trim
import OneUnknown.Shell

/-!
# Commands of the shell

A command is recognised by the first word of a line. Every other line is an equation.

* `firstWord_eq`, `eq_firstWord_or_exists`: the first word goes up to the first blank;
* `Command.word`, `Command.operand`: the first word of a line and what stands behind it;
* **`Command.ofLine_eq_solve`**: a line whose first word is none of `Command.words` is solved;
* `Command.ofLine_eq_exit_iff`, `Command.ofLine_eq_setKind_iff`: the lines that end a session and
  those that name its next kind.
-/

namespace OneUnknown

variable {line first rest : List Char} {blank : Char}

/-! ## The first word -/

theorem firstWord_eq (line : List Char) :
    firstWord line =
      (line.takeWhile fun c => !isBlank c, trim (line.dropWhile fun c => !isBlank c)) := by
  suffices h : cut? isBlank line = none ∧ line.takeWhile (!isBlank ·) = line ∧
      line.dropWhile (!isBlank ·) = [] ∨
      ∃ c after, isBlank c = true ∧ cut? isBlank line = some (line.takeWhile (!isBlank ·), after) ∧
        line.dropWhile (!isBlank ·) = c :: after by
    rcases h with ⟨hcut, htake, hdrop⟩ | ⟨c, after, hc, hcut, hdrop⟩
    · rw [firstWord, hcut, htake, hdrop, trim_nil]
    · rw [firstWord, hcut, hdrop, trim_cons_of_isBlank hc]
  induction line with
  | nil => exact .inl ⟨rfl, rfl, rfl⟩
  | cons c rest ih =>
    cases hc : isBlank c with
    | true => exact .inr ⟨c, rest, hc, by simp [cut?, hc], by simp [hc]⟩
    | false =>
      rcases ih with ⟨hcut, htake, hdrop⟩ | ⟨d, after, hd, hcut, hdrop⟩
      · exact .inl ⟨by simp [cut?, hc, hcut], by simp [hc, htake], by simp [hc, hdrop]⟩
      · exact .inr ⟨d, after, hd, by simp [cut?, hc, hcut], by simp [hc, hdrop]⟩

theorem firstWord_of_no_blank (hfirst : first.any isBlank = false) :
    firstWord first = (first, []) := by
  have hfirst' : ∀ c ∈ first, (!isBlank c) = true := by simpa using hfirst
  rw [firstWord_eq, List.takeWhile_eq_self_iff.mpr hfirst', List.dropWhile_eq_nil_iff.mpr hfirst',
    trim_nil]

theorem firstWord_append_blank (hfirst : first.any isBlank = false)
    (hblank : isBlank blank = true) (rest : List Char) :
    firstWord (first ++ blank :: rest) = (first, trim rest) := by
  have hfirst' : ∀ c ∈ first, (!isBlank c) = true := by simpa using hfirst
  rw [firstWord_eq, List.takeWhile_append_of_pos hfirst', List.dropWhile_append_of_pos hfirst',
    List.takeWhile_cons_of_neg (by simp [hblank]), List.dropWhile_cons_of_neg (by simp [hblank]),
    List.append_nil, trim_cons_of_isBlank hblank]

/-- **A line is its first word, or goes on after it with a blank.** -/
theorem eq_firstWord_or_exists (line : List Char) :
    line = (firstWord line).1 ∨ ∃ blank after, isBlank blank = true ∧
      line = (firstWord line).1 ++ blank :: after := by
  rw [firstWord]
  cases hcut : cut? isBlank line with
  | none => exact .inl rfl
  | some sides =>
    obtain ⟨before, after⟩ := sides
    obtain ⟨blank, hblank, heq, -⟩ := eq_append_of_cut? hcut
    exact .inr ⟨blank, after, hblank, heq⟩

/-! ## Commands -/

namespace Command

/-- The first word of a line without the blanks around it. -/
def word (line : List Char) : String := String.ofList (firstWord (trim line)).1

/-- What stands behind the first word. -/
def operand (line : List Char) : List Char := (firstWord (trim line)).2

/-- The first words of commands, and that of an empty line. -/
def words : List String := ["", "help", "?", "exit", "quit", "kinds", "config", "kind"]

/-- **A line with any other first word is solved.** -/
theorem ofLine_eq_solve (h : word line ∉ words) : ofLine line = .solve (trim line) := by
  simp only [words, List.mem_cons, List.not_mem_nil, or_false, not_or, word] at h
  unfold ofLine
  simp only []
  split <;> simp_all

/-- **The lines that end a session.** -/
theorem ofLine_eq_exit_iff : ofLine line = .exit ↔ word line = "exit" ∨ word line = "quit" := by
  unfold ofLine word
  simp only []
  split
  case h_8 heq =>
    rw [heq]
    by_cases hoperand : (firstWord (trim line)).2 = [] <;> simp [hoperand]
  all_goals simp_all

/-- **The lines that name the next kind.** -/
theorem ofLine_eq_setKind_iff :
    ofLine line = .setKind rest ↔ word line = "kind" ∧ operand line = rest ∧ rest ≠ [] := by
  unfold ofLine word operand
  simp only []
  split
  case h_8 heq =>
    rw [heq]
    by_cases hoperand : (firstWord (trim line)).2 = []
    · simp [hoperand, eq_comm]
    · simp only [List.isEmpty_iff, hoperand, ↓reduceIte, setKind.injEq, true_and]
      exact ⟨fun h => ⟨h, h ▸ hoperand⟩, fun h => h.1⟩
  all_goals simp_all

/-- A line with first word `text` is that word, or goes on after it with a blank. -/
theorem word_eq_iff (text : String) (htext : text.toList.any isBlank = false) :
    word line = text ↔ trim line = text.toList ∨
      ∃ blank after, isBlank blank = true ∧ trim line = text.toList ++ blank :: after := by
  rw [word, ← String.toList_inj, String.toList_ofList]
  constructor
  · intro h
    rw [← h]
    exact eq_firstWord_or_exists (trim line)
  · rintro (h | ⟨blank, after, hblank, h⟩)
    · rw [h, firstWord_of_no_blank htext]
    · rw [h, firstWord_append_blank htext hblank]

end Command

end OneUnknown
