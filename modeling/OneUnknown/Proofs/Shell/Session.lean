import OneUnknown.Proofs.Shell.Command

/-!
# A session as the run of a machine

A shell remembers its current kind and nothing else, and only a line that names a kind changes it.
What it writes is said for all lines at once: no line after the one that ends the session matters.

* `Shell.namedKind?`, `Shell.endsSession`: what a line does to a session;
* **`Shell.eval_snd`**: one step, **`Shell.after_eq`**: all steps;
* `promptText`, `Shell.asked`, `Reply.printed`: what is printed, character by character;
* `Shell.run_cons`, **`Shell.run_eq`**: what is printed while lines are read, for any shell;
* **`Shell.session`**: the same of a shell that starts.
-/

namespace OneUnknown

namespace Shell

variable {line : List Char} {kind : EquationKind}

/-! ## What a line does -/

/-- The kind that a line makes the current one: it is the word `kind` and a name of the kind. -/
def namedKind? (line : List Char) : Option EquationKind :=
  if Command.word line = "kind" then EquationKind.ofName? (Command.operand line) else none

theorem namedKind?_eq_some_iff : namedKind? line = some kind ↔
    ∃ blank name, isBlank blank = true ∧ trim line = "kind".toList ++ blank :: name ∧
      EquationKind.ofName? name = some kind := by
  have hno : "kind".toList.any isBlank = false := by decide
  have htrim : ∀ name, EquationKind.ofName? (trim name) = EquationKind.ofName? name := by
    intro name
    simp only [EquationKind.ofName?, trim_trim]
  rw [namedKind?, Option.ite_none_right_eq_some, Command.word_eq_iff "kind" hno]
  constructor
  · rintro ⟨heq | ⟨blank, name, hblank, heq⟩, hkind⟩
    · rw [Command.operand, heq, firstWord_of_no_blank hno] at hkind
      exact absurd hkind (by simp [show EquationKind.ofName? [] = none by decide])
    · rw [Command.operand, heq, firstWord_append_blank hno hblank, htrim] at hkind
      exact ⟨blank, name, hblank, heq, hkind⟩
  · rintro ⟨blank, name, hblank, heq, hkind⟩
    refine ⟨.inr ⟨blank, name, hblank, heq⟩, ?_⟩
    rw [Command.operand, heq, firstWord_append_blank hno hblank, htrim, hkind]

/-- The line ends the session: its first word says so. -/
def endsSession (line : List Char) : Bool :=
  Command.word line = "exit" || Command.word line = "quit"

theorem endsSession_iff : endsSession line = true ↔
    ∃ text ∈ ["exit", "quit"], trim line = text.toList ∨
      ∃ blank after, isBlank blank = true ∧ trim line = text.toList ++ blank :: after := by
  simp only [List.mem_cons, List.not_mem_nil, or_false, exists_eq_or_imp, exists_eq_left]
  rw [← Command.word_eq_iff "exit" (by decide), ← Command.word_eq_iff "quit" (by decide)]
  simp [endsSession]

/-- **One step**: only a line that names a kind changes the shell. -/
theorem eval_snd (shell : Shell) (line : List Char) :
    (shell.eval line).2 = { shell with kind := (namedKind? line).getD shell.kind } := by
  have hname : ∀ name, Command.ofLine line = .setKind name →
      namedKind? line = EquationKind.ofName? name := by
    intro name h
    obtain ⟨hword, rfl, -⟩ := Command.ofLine_eq_setKind_iff.mp h
    rw [namedKind?, if_pos hword]
  have hnone : (∀ name, Command.ofLine line ≠ .setKind name) → namedKind? line = none := by
    intro h
    rw [namedKind?]
    split
    case isTrue hword =>
      have hoperand : Command.operand line = [] := by
        by_contra hne
        exact h _ (Command.ofLine_eq_setKind_iff.mpr ⟨hword, rfl, hne⟩)
      rw [hoperand]
      decide
    case isFalse => rfl
  rw [eval]
  cases hcommand : Command.ofLine line with
  | setKind name =>
    rw [hname name hcommand]
    rcases hkind : EquationKind.ofName? name with _ | kind <;> simp [hkind]
  | _ => rw [hnone (by simp [hcommand])]; rfl

theorem eval_fst_eq_exit_iff (shell : Shell) (line : List Char) :
    (shell.eval line).1 = .exit ↔ endsSession line = true := by
  have hends : endsSession line = true ↔ Command.ofLine line = .exit := by
    rw [Command.ofLine_eq_exit_iff]
    simp [endsSession]
  rw [hends, eval]
  cases Command.ofLine line with
  | setKind name => rcases hkind : EquationKind.ofName? name with _ | kind <;> simp [hkind]
  | _ => simp

/-! ## All lines -/

/-- The shell after it has read lines. -/
def after (shell : Shell) (lines : List (List Char)) : Shell :=
  lines.foldl (fun shell line => (shell.eval line).2) shell

@[simp] theorem after_nil (shell : Shell) : shell.after [] = shell := rfl

@[simp] theorem after_cons (shell : Shell) (line : List Char) (lines : List (List Char)) :
    shell.after (line :: lines) = (shell.eval line).2.after lines := rfl

/-- The last kind that lines name, or the given one if they name none. -/
def lastKind (kind : EquationKind) (lines : List (List Char)) : EquationKind :=
  (lines.filterMap namedKind?).getLast?.getD kind

theorem lastKind_cons (kind : EquationKind) (line : List Char) (lines : List (List Char)) :
    lastKind kind (line :: lines) = lastKind ((namedKind? line).getD kind) lines := by
  cases h : namedKind? line with
  | none => simp [lastKind, h]
  | some named => simp [lastKind, h, List.getLast?_cons]

/-- **All steps**: the current kind is the last one that was named. -/
theorem after_eq (shell : Shell) (lines : List (List Char)) :
    shell.after lines = { shell with kind := lastKind shell.kind lines } := by
  induction lines generalizing shell with
  | nil => rfl
  | cons line lines ih => rw [after_cons, ih, lastKind_cons, eval_snd]

end Shell

/-! ## What is printed -/

/-- The prompt of a kind. -/
def promptText (colours : Bool) (kind : EquationKind) : String :=
  if colours then
    "\x1b[1;38;2;0;200;255m⟦" ++ kind.tag ++ "⟧\x1b[0m \x1b[38;2;255;240;0m›\x1b[0m "
  else "⟦" ++ kind.tag ++ "⟧ › "

/-- What a reply prints: a line, unless it is empty. -/
def Reply.printed : Reply → String
  | text content => if content = "" then "" else content ++ "\n"
  | exit => ""

namespace Shell

/-- What a shell prints before it reads a line. -/
def asked (prompting : Bool) (shell : Shell) : String :=
  if prompting then promptText shell.colours shell.kind else ""

/-- The lines before the first one that ends the session. -/
def answered (lines : List (List Char)) : List (List Char) :=
  lines.takeWhile fun line => !endsSession line

theorem prompt_eq (shell : Shell) : shell.prompt = promptText shell.colours shell.kind := by
  have hpainted : ∀ kind : EquationKind,
      Style.current.paint true ("⟦" ++ kind.tag ++ "⟧") ++ " " ++
        Style.caret.paint true "›" ++ " " = promptText true kind := by
    intro kind
    cases kind <;> decide +kernel
  rw [prompt]
  cases shell.colours with
  | false => simp [promptText, Style.paint, String.append_assoc]
  | true => exact hpainted shell.kind

theorem replyText_eq (content : String) : replyText content = (Reply.text content).printed := by
  simp [replyText, Reply.printed]

/-- **One line**: the shell asks for it, and prints the reply and reads on, unless the line ends the
session. -/
theorem run_cons (prompting : Bool) (shell : Shell) (line : List Char) (rest : List (List Char)) :
    run prompting shell (line :: rest) =
      if endsSession line then (asked prompting shell, true)
      else
        let later := run prompting (shell.eval line).2 rest
        (asked prompting shell ++ (shell.eval line).1.printed ++ later.1, later.2) := by
  have hexit := eval_fst_eq_exit_iff shell line
  rw [run, prompt_eq]
  rcases heval : shell.eval line with ⟨content | _, next⟩
  · rw [heval] at hexit
    have hends : ¬ endsSession line = true := fun h => by simpa using hexit.mpr h
    rw [if_neg hends, ← replyText_eq]
    rfl
  · rw [heval] at hexit
    rw [if_pos (hexit.mp rfl)]
    rfl

/-- **All lines**: a prompt and a reply for each line that is answered, and one more prompt. -/
theorem run_eq (prompting : Bool) (shell : Shell) (lines : List (List Char)) :
    run prompting shell lines =
      (String.join ((answered lines).mapIdx fun i line =>
          asked prompting (shell.after (lines.take i)) ++
            ((shell.after (lines.take i)).eval line).1.printed) ++
        asked prompting (shell.after (answered lines)), lines.any endsSession) := by
  induction lines generalizing shell with
  | nil => simp [run, answered, asked, prompt_eq]
  | cons line rest ih =>
    rw [run_cons]
    cases hends : endsSession line with
    | true => simp [answered, hends]
    | false => simp [answered, hends, ih, String.append_assoc]

theorem run_take (prompting : Bool) (shell : Shell) (lines : List (List Char)) :
    run prompting shell (lines.take ((answered lines).length + 1)) =
      run prompting shell lines := by
  induction lines generalizing shell with
  | nil => rfl
  | cons line rest ih =>
    rw [List.take_succ_cons, run_cons, run_cons]
    cases hends : endsSession line with
    | true => rfl
    | false =>
      have hlength : (answered (line :: rest)).length = (answered rest).length + 1 := by
        simp [answered, hends]
      rw [hlength, ih]

/-! ## A shell that starts -/

/-- **A session as the run of a machine.** The current kind is the last one that a line has named,
and a quadratic one before; a line names a kind if it is the word `kind` and, behind a blank, a name
of it. The reply to a line depends on the kind alone. What is printed is a prompt and a reply for
each line up to the one that ends the session, whose first word is `exit` or `quit`, then a prompt,
and a line feed if the input has ended the session; and nothing for the lines after it. -/
theorem session (settings : Settings) (colours prompting : Bool) (lines : List (List Char)) :
    let start : Shell := { settings := settings, colours := colours }
    let shellAfter (earlier : List (List Char)) : Shell :=
      { settings := settings, colours := colours, kind := lastKind .quadratic earlier }
    let prompt (earlier : List (List Char)) : String :=
      if prompting then promptText colours (lastKind .quadratic earlier) else ""
    start.after lines = shellAfter lines ∧
    (∀ line kind, namedKind? line = some kind ↔
      ∃ blank name, isBlank blank = true ∧ trim line = "kind".toList ++ blank :: name ∧
        EquationKind.ofName? name = some kind) ∧
    (∀ line, endsSession line = true ↔
      ∃ word ∈ ["exit", "quit"], trim line = word.toList ∨
        ∃ blank after, isBlank blank = true ∧ trim line = word.toList ++ blank :: after) ∧
    (∃ reply : EquationKind → List Char → Reply, ∀ earlier line,
      ((start.after earlier).eval line).1 = reply (lastKind .quadratic earlier) line) ∧
    transcript prompting start lines =
      String.join ((answered lines).mapIdx fun i line =>
        prompt (lines.take i) ++
          match ((shellAfter (lines.take i)).eval line).1 with
          | .text content => if content = "" then "" else content ++ "\n"
          | .exit => "") ++
      prompt (answered lines) ++
      (if prompting = true ∧ ∀ line ∈ lines, endsSession line = false then "\n" else "") ∧
    transcript prompting start (lines.take ((answered lines).length + 1)) =
      transcript prompting start lines := by
  intro start shellAfter prompt
  have hafter : ∀ earlier, start.after earlier = shellAfter earlier := after_eq start
  refine ⟨hafter lines, fun _ _ => namedKind?_eq_some_iff, fun _ => endsSession_iff,
    ⟨fun kind line => (Shell.eval ⟨settings, colours, kind⟩ line).1, fun earlier line => ?_⟩, ?_,
    ?_⟩
  · rw [hafter]
  · have hended : prompting = true ∧ (∀ line ∈ lines, endsSession line = false) ↔
        (prompting && !lines.any endsSession) = true := by
      simp [List.any_eq_false]
    have hasked : ∀ earlier, asked prompting (shellAfter earlier) = prompt earlier := fun _ => rfl
    rw [transcript, run_eq]
    simp only [hafter, hasked, hended]
    cases prompting && !lines.any endsSession with
    | true => rfl
    | false => exact String.append_empty.symm
  · rw [transcript, run_take]
    rfl

/-- A session that changes its kind: nothing is printed for the empty line, and the equation behind
the line that ends the session is not read. -/
theorem session_kind_change :
    let start : Shell := { settings := {} }
    let lines := ["kind linear", "", "3x = 1", "quit now", "x = 5"].map String.toList
    (start.after lines).kind = .linear ∧
    transcript true start lines =
      "⟦quadratic⟧ › kind set to linear\n⟦linear⟧ › ⟦linear⟧ › x = 1/3\n⟦linear⟧ › " ∧
    transcript false start (lines.take 3) = "kind set to linear\nx = 1/3\n" := by
  intro start lines
  obtain ⟨hafter, -, -, -, hprinted, -⟩ := session {} false true lines
  obtain ⟨-, -, -, -, hsilent, -⟩ := session {} false false (lines.take 3)
  refine ⟨?_, ?_, ?_⟩
  · rw [hafter]
    decide +kernel
  · rw [hprinted]
    decide +kernel
  · rw [hsilent]
    decide +kernel

end Shell

end OneUnknown
