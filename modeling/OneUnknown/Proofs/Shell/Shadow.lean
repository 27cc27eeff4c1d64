import OneUnknown.Proofs.Shell.Command
import OneUnknown.Proofs.Solver.Answered
import OneUnknown.Proofs.Text.Split

/-!
# No command shadows an equation

An equation has one letter at most. Every command that is a word begins with two different ones,
which composition keeps, since the third letter stands between them and all marks; and the question
mark and the colon are no tokens. So the shell solves every line that has an answer.

* `Command.exists_of_word`: a command stands at the start of its line;
* `Command.letters_of_mem`: its first letters differ;
* **`Command.word_not_mem_of_parse`**: no equation is a command;
* **`Shell.eval_of_solve`**: the reply to a line that has an answer.
-/

namespace OneUnknown

variable {line : List Char} {limit : Nat} {e : Equation Float}

namespace Command

/-! ## Words -/

theorem exists_of_word (line : List Char) : ∃ rest, trim line = (word line).toList ++ rest := by
  rw [word, String.toList_ofList]
  rcases eq_firstWord_or_exists (trim line) with heq | ⟨blank, after, -, heq⟩
  · exact ⟨[], by rw [List.append_nil, ← heq]⟩
  · exact ⟨blank :: after, heq⟩

theorem trim_eq_nil_of_word (h : word line = "") : trim line = [] := by
  rcases (word_eq_iff "" rfl).mp h with heq | ⟨blank, after, hblank, heq⟩
  · exact heq
  · have hhead := (isTrimmed_trim line).head blank (by rw [heq]; rfl)
    rw [hhead] at hblank
    exact Bool.noConfusion hblank

/-- **The first two letters of a command differ**, and a third one follows them. -/
theorem letters_of_mem {text : String}
    (h : text ∈ ["help", "exit", "quit", "kinds", "config", "kind"]) :
    ∃ a b c rest, text.toList = a :: b :: c :: rest ∧ a ≠ b ∧
      (isIdentifierStart a = true ∧ a.toNat < firstWhole) ∧
      (isIdentifierStart b = true ∧ b.toNat < firstWhole) ∧ c.toNat < firstWhole := by
  simp only [List.mem_cons, List.not_mem_nil, or_false] at h
  rcases h with rfl | rfl | rfl | rfl | rfl | rfl <;>
    exact ⟨_, _, _, _, rfl, by decide, by decide, by decide, by decide⟩

/-! ## Equations -/

/-- **No equation is a command.** -/
theorem word_not_mem_of_parse (h : Equation.parse limit (String.ofList (trim line)) = .ok e)
    (hne : trim line ≠ []) : word line ∉ words := by
  intro hword
  obtain ⟨tail, htail⟩ := exists_of_word line
  have hmark : word line ≠ "?" := by
    intro heq
    rw [heq] at htail
    refine (Equation.not_punctuation h (c := '?') ?_).2 rfl
    rw [String.toList_ofList, htail]
    exact List.mem_append_left _ (by decide)
  have hletters : word line ∈ ["help", "exit", "quit", "kinds", "config", "kind"] := by
    have hcases : ∀ text ∈ words, text = "" ∨ text = "?" ∨
        text ∈ ["help", "exit", "quit", "kinds", "config", "kind"] := by decide
    rcases hcases _ hword with heq | heq | hmem
    · exact absurd (trim_eq_nil_of_word heq) hne
    · exact absurd heq hmark
    · exact hmem
  obtain ⟨a, b, c, rest, htext, hab, ⟨ha, ha'⟩, ⟨hb, hb'⟩, hc⟩ := letters_of_mem hletters
  -- The two letters stay as they are: marks can only be joined to the third one.
  have hcomposed : composed (trim line) = [a, b] ++ composed (c :: (rest ++ tail)) := by
    rw [← composed_append (by simpa using ⟨ha', hb'⟩) hc, htail, htext]
    rfl
  refine hab (Equation.letter_unique h ?_ ha ?_ hb) <;>
  · rw [String.toList_ofList, hcomposed]
    simp

end Command

/-! ## The shell -/

namespace Shell

/-- **The reply to a line that has an answer** as an equation of the current kind is this answer.
The line is no command, and no part of it names a kind. -/
theorem eval_of_solve (shell : Shell) {answer : String}
    (h : solve shell.settings shell.kind (String.ofList line) = .ok answer) :
    Command.ofLine line = .solve (trim line) ∧
      shell.question (trim line) = (shell.kind, trim line) ∧
      shell.eval line = (.text answer, shell) := by
  obtain ⟨e, hparse⟩ := exists_parse_of_solve h
  rw [trimString, String.toList_ofList] at hparse
  have hne : trim line ≠ [] := by
    intro hnil
    simp [solve, trimString, hnil] at h
  have hcommand := Command.ofLine_eq_solve (Command.word_not_mem_of_parse hparse hne)
  have hcut : cut? (· == ':') (trim line) = none := by
    by_contra hsome
    obtain ⟨⟨name, equation⟩, hcut⟩ := Option.ne_none_iff_exists'.mp hsome
    obtain ⟨colon, hcolon, heq, -⟩ := eq_append_of_cut? hcut
    refine (Equation.not_punctuation hparse (c := colon) ?_).1 (beq_iff_eq.mp hcolon)
    rw [String.toList_ofList, heq]
    simp
  have hquestion : shell.question (trim line) = (shell.kind, trim line) := by
    rw [question, hcut]
  have hsolve : solve shell.settings shell.kind (String.ofList (trim line)) = .ok answer := by
    rw [← h]
    simp only [solve, trimString, String.toList_ofList, trim_trim]
  refine ⟨hcommand, hquestion, ?_⟩
  rw [eval, hcommand]
  simp only [solveLine, hquestion, hsolve]

/-- A line with blanks in front, as an equation of the kind with which a shell starts. -/
theorem eval_solved_quadratic :
    solve {} .quadratic (String.ofList "  x^2-5x+6=0".toList) = .ok "x = 3, x = 2" ∧
    eval { settings := {} } "  x^2-5x+6=0".toList =
      (.text "x = 3, x = 2", { settings := {} }) := by
  have hsolve : solve {} .quadratic (String.ofList "  x^2-5x+6=0".toList) =
      .ok "x = 3, x = 2" := by
    have hok : (solve {} .quadratic (String.ofList "  x^2-5x+6=0".toList)).toOption.map id =
      some "x = 3, x = 2" := by decide +kernel
    obtain ⟨answer, hanswer, rfl⟩ := exists_ok_of_toOption_map hok
    exact hanswer
  exact ⟨hsolve, (eval_of_solve { settings := {} } hsolve).2.2⟩

end Shell

end OneUnknown
