import OneUnknown.Proofs.Batch.Report
import OneUnknown.Proofs.Kind.Spelling
import OneUnknown.Proofs.Shell.Command
import OneUnknown.Proofs.Solver.TextCheck

/-!
# Lines that name their kind

A line with a kind, a colon and an equation means the same to the shell and to a batch, although
each of them takes lines apart in its own way: the shell looks at the first word and then for a
colon, a batch looks for the colon first.

* `EquationKind.any_isBlank_name`: the name of a kind is one word;
* **`BatchLine.word_not_mem`**: it is not the first word of a command;
* `exists_batchRecords_eq`: the record of a line in those of its batch;
* **`Shell.eval_of_batchLine`**: the reply and the record of a line.
-/

namespace OneUnknown

/-! ## Names of kinds -/

namespace EquationKind

variable {name : List Char} {kind : EquationKind}

/-- **The name of a kind is one word.** -/
theorem any_isBlank_name (h : ofName? name = some kind) : (trim name).any isBlank = false := by
  refine List.any_eq_false.mpr fun c hc hblank => ?_
  rcases isAlpha_or_of_mem_name h c hc with halpha | rfl | rfl
  · rw [isBlank_of_isAlpha halpha] at hblank
    exact Bool.noConfusion hblank
  · exact absurd hblank (by decide)
  · exact absurd hblank (by decide)

theorem trim_ne_of_mem_words (h : ofName? name = some kind) {word : String}
    (hword : word ∈ Command.words) : trim name ≠ word.toList := by
  intro heq
  have hplain := plainName_of_ofName? h
  rw [heq] at hplain
  have hne : ∀ kind ∈ all, ∀ word ∈ Command.words,
      plainName word.toList ≠ plainName kind.tag.toList := by decide
  exact hne kind (mem_all kind) word hword hplain

end EquationKind

/-! ## Lines -/

namespace BatchLine

variable {line text : List Char} {kind : EquationKind}

/-- **A line with a kind and an equation has not the first word of a command.** If no blank stands
before its colon the word goes beyond the colon, and otherwise it is the name of the kind. -/
theorem word_not_mem (h : ofLine line = .equation kind text) :
    Command.word line ∉ Command.words := by
  intro hword
  obtain ⟨name, equation, hcut, hkind, -⟩ := exists_cut_of_ofLine h
  obtain ⟨colon, hcolon, hline, -⟩ := eq_append_of_cut? hcut
  obtain rfl : colon = ':' := beq_iff_eq.mp hcolon
  obtain ⟨front, back, hname, hfront, hback⟩ := exists_trim_eq name
  have hnil : front = [] := by
    cases front with
    | nil => rfl
    | cons d front =>
      have hd : isBlank d = false := by
        refine (isTrimmed_trim line).head d ?_
        rw [hline, hname]
        rfl
      exact absurd (hfront d List.mem_cons_self) (by simp [hd])
  rw [hnil, List.nil_append] at hname
  have hone := EquationKind.any_isBlank_name hkind
  cases back with
  | nil =>
    have hmem : ':' ∈ (Command.word line).toList := by
      have hone' : ∀ c ∈ trim name, (!isBlank c) = true := by simpa using hone
      rw [List.append_nil] at hname
      rw [Command.word, String.toList_ofList, hline, hname, firstWord_eq,
        List.takeWhile_append_of_pos hone', List.takeWhile_cons_of_pos (by decide)]
      simp
    have hnone : ∀ word ∈ Command.words, ':' ∉ word.toList := by decide
    exact hnone _ hword hmem
  | cons blank back =>
    refine EquationKind.trim_ne_of_mem_words hkind hword ?_
    rw [Command.word, String.toList_ofList, hline, hname, List.append_assoc, List.cons_append,
      firstWord_append_blank hone (hback blank List.mem_cons_self)]
    rw [← hname]

end BatchLine

/-! ## Records -/

theorem recordsFrom_append (settings : Settings) (number : Nat)
    (before after : List (List Char)) :
    recordsFrom settings number (before ++ after) =
      recordsFrom settings number before ++
        recordsFrom settings (number + before.length) after := by
  induction before generalizing number with
  | nil => rfl
  | cons line before ih =>
    rw [List.cons_append, recordsFrom, ih, recordsFrom, List.append_assoc, List.length_cons,
      Nat.add_right_comm, Nat.add_assoc number]

/-- **The record of a line is one of its batch**, with the number of the line. -/
theorem exists_batchRecords_eq {settings : Settings} {source : String} {i : Nat}
    {line : List Char} {record : BatchRecord} (hline : (lines source.toList)[i]? = some line)
    (hrecord : BatchRecord.of? settings (i + 1) line = some record) :
    ∃ earlier later, batchRecords settings source = earlier ++ record :: later := by
  obtain ⟨hlt, hget⟩ := List.getElem?_eq_some_iff.mp hline
  refine ⟨recordsFrom settings 1 ((lines source.toList).take i),
    recordsFrom settings (i + 2) ((lines source.toList).drop (i + 1)), ?_⟩
  have hsplit : lines source.toList =
      (lines source.toList).take i ++ line :: (lines source.toList).drop (i + 1) := by
    rw [← hget, List.getElem_cons_drop, List.take_append_drop]
  have hlength : 1 + ((lines source.toList).take i).length = i + 1 := by
    rw [List.length_take_of_le (by omega), Nat.add_comm]
  rw [batchRecords, hsplit, recordsFrom_append, ← hsplit, hlength, recordsFrom, hrecord]
  rfl

theorem of?_of_batchLine {line text : List Char} {kind : EquationKind} (settings : Settings)
    (number : Nat) (h : BatchLine.ofLine line = .equation kind text) :
    BatchRecord.of? settings number line = some
      { line := number
        question := kind.tag ++ ": " ++ String.ofList text
        outcome := answerText (solve settings kind (String.ofList text))
        failed := !(solve settings kind (String.ofList text)).toBool
        unreadable := false } := by
  rw [BatchRecord.of?, h]

/-! ## The shell and a batch -/

namespace Shell

variable {line text : List Char} {kind : EquationKind}

theorem solveLine_of_batchLine (shell : Shell) (h : BatchLine.ofLine line = .equation kind text) :
    shell.solveLine (trim line) = match solve shell.settings kind (String.ofList text) with
      | .ok answer => answer
      | .error e =>
        String.ofList (trimEnd (renderError shell.colours (String.ofList text) e).toList) := by
  obtain ⟨name, equation, hcut, hkind, rfl⟩ := BatchLine.exists_cut_of_ofLine h
  have hquestion : shell.question (trim line) = (kind, trim equation) := by
    rw [question, hcut]
    simp only [hkind]
  rcases hsolve : solve shell.settings kind (String.ofList (trim equation)) with error | answer
  · simp only [solveLine, hquestion, hsolve]
  · simp only [solveLine, hquestion, hsolve]

/-- **The reply of a shell to a line and its record in a batch.** The shell takes no line with a
kind and an equation for a command, and keeps its current kind; its reply is the answer that the
report shows, or the picture of the error for which the line counts as failed. -/
theorem eval_of_batchLine (shell : Shell) (h : BatchLine.ofLine line = .equation kind text) :
    Command.ofLine line = .solve (trim line) ∧ (shell.eval line).2 = shell ∧
    (∀ number, ∃ record, BatchRecord.of? shell.settings number line = some record ∧
      record.line = number ∧
      (∀ answer, solve shell.settings kind (String.ofList text) = .ok answer →
        (shell.eval line).1 = .text answer ∧ record.failed = false ∧
        record.text = kind.tag ++ ": " ++ String.ofList text ++ " => " ++ answer ++ "\n") ∧
      ∀ e, solve shell.settings kind (String.ofList text) = .error e →
        (shell.eval line).1 = .text (String.ofList
          (trimEnd (renderError shell.colours (String.ofList text) e).toList)) ∧
        record.failed = true ∧
        record.text =
          kind.tag ++ ": " ++ String.ofList text ++ " => " ++ e.userMessage ++ "\n") ∧
    ∀ source i, (lines source.toList)[i]? = some line → ∃ earlier record later,
      BatchRecord.of? shell.settings (i + 1) line = some record ∧
      batchRecords shell.settings source = earlier ++ record :: later := by
  have hcommand : Command.ofLine line = .solve (trim line) :=
    Command.ofLine_eq_solve (BatchLine.word_not_mem h)
  have hreply : shell.eval line = (.text (shell.solveLine (trim line)), shell) := by
    rw [eval, hcommand]
  refine ⟨hcommand, by rw [hreply], fun number => ?_, fun source i hline => ?_⟩
  · refine ⟨_, of?_of_batchLine shell.settings number h, rfl, fun answer hanswer => ?_,
      fun e he => ?_⟩
    · rw [hreply, solveLine_of_batchLine shell h]
      simp only [hanswer]
      exact ⟨trivial, rfl, rfl⟩
    · rw [hreply, solveLine_of_batchLine shell h]
      simp only [he]
      exact ⟨trivial, rfl, rfl⟩
  · have hrecord := of?_of_batchLine shell.settings (i + 1) h
    obtain ⟨earlier, later, heq⟩ := exists_batchRecords_eq hline hrecord
    exact ⟨earlier, _, later, hrecord, heq⟩

/-- A line that names its kind loosely. -/
theorem eval_loosely_named :
    BatchLine.ofLine " LI-near : 2x = 4".toList = .equation .linear "2x = 4".toList ∧
    (eval { settings := {} } " LI-near : 2x = 4".toList).1 = .text "x = 2" ∧
    ∃ record, BatchRecord.of? {} 1 " LI-near : 2x = 4".toList = some record ∧
      record.text = "linear: 2x = 4 => x = 2\n" := by
  have h : BatchLine.ofLine " LI-near : 2x = 4".toList = .equation .linear "2x = 4".toList := rfl
  have hsolve : solve {} .linear (String.ofList "2x = 4".toList) = .ok "x = 2" := by
    have hok : (solve {} .linear (String.ofList "2x = 4".toList)).toOption.map id =
      some "x = 2" := by decide +kernel
    obtain ⟨answer, hanswer, rfl⟩ := exists_ok_of_toOption_map hok
    exact hanswer
  obtain ⟨-, -, hrecord, -⟩ := eval_of_batchLine { settings := {} } h
  obtain ⟨record, hof, -, hok, -⟩ := hrecord 1
  obtain ⟨hreply, -, htext⟩ := hok "x = 2" hsolve
  exact ⟨h, hreply, record, hof, htext⟩

end Shell

end OneUnknown
