import OneUnknown.Batch
import OneUnknown.Proofs.Solver.OneLine

/-!
# The report of a batch

A batch is worked off line by line: what is reported of a line, and whether it failed, does not
depend on the lines around it. No record has a line feed but at its end, so the lines of the report
are the records.

* **`BatchLine.Fails`**, `reportLine?`: a line on its own;
* `reportLine?_eq_none_iff`: the lines that have no record;
* `batchReport_recordsFrom`, `failureCount_recordsFrom`: the records of some lines;
* **`batchReport_accounts`**: the report and the count of a source.
-/

namespace OneUnknown

variable {settings : Settings} {line : List Char}

/-! ## A line on its own -/

namespace BatchLine

/-- **The line counts as a failure**: it could not be read or not be solved. -/
def Fails (settings : Settings) : BatchLine → Prop
  | comment => False
  | equation kind text => ∃ e, solve settings kind (String.ofList text) = .error e
  | invalid _ => True

theorem fails_equation_iff {kind : EquationKind} {text : List Char} :
    Fails settings (equation kind text) ↔
      (solve settings kind (String.ofList text)).toBool = false := by
  rw [Fails]
  rcases solve settings kind (String.ofList text) with e | answer <;> simp [Except.toBool]

instance (settings : Settings) (line : BatchLine) : Decidable (Fails settings line) :=
  match line with
  | comment => .isFalse id
  | equation _ _ => decidable_of_iff _ fails_equation_iff.symm
  | invalid _ => .isTrue trivial

theorem ofLine_eq_comment_iff :
    ofLine line = comment ↔ trim line = [] ∨ (trim line).head? = some '#' := by
  unfold ofLine
  simp only [Bool.or_eq_true, List.isEmpty_iff, decide_eq_true_eq]
  split
  case isTrue h => exact iff_of_true rfl h
  case isFalse h =>
    refine iff_of_false (fun heq => ?_) h
    split at heq
    · cases heq
    · split at heq <;> cases heq

theorem exists_cut_of_ofLine {kind : EquationKind} {text : List Char}
    (h : ofLine line = equation kind text) :
    ∃ name equation, cut? (· == ':') (trim line) = some (name, equation) ∧
      EquationKind.ofName? name = some kind ∧ text = trim equation := by
  unfold ofLine at h
  simp only [] at h
  split at h
  · cases h
  · split at h
    case h_1 => cases h
    case h_2 name equation hcut =>
      split at h
      case h_1 kind' hkind =>
        simp only [BatchLine.equation.injEq] at h
        obtain ⟨rfl, rfl⟩ := h
        exact ⟨name, equation, hcut, hkind, rfl⟩
      case h_2 => cases h

theorem isOneLine_of_ofLine (hline : '\n' ∉ line) {message : String}
    (h : ofLine line = invalid message) : IsOneLine message := by
  have htrim : '\n' ∉ trim line := fun hmem => hline (mem_of_mem_trim hmem)
  unfold ofLine at h
  dsimp only at h
  split at h
  · cases h
  · split at h
    · obtain rfl := BatchLine.invalid.inj h
      exact isOneLine_append.mpr
        ⟨isOneLine_append.mpr ⟨by decide, isOneLine_ofList.mpr htrim⟩, by decide⟩
    case h_2 name text hcut =>
      obtain ⟨colon, -, heq, -⟩ := eq_append_of_cut? hcut
      have hname : '\n' ∉ trim name := by
        intro hmem
        rw [heq] at htrim
        exact htrim (List.mem_append_left _ (mem_of_mem_trim hmem))
      split at h
      · cases h
      · obtain rfl := BatchLine.invalid.inj h
        exact isOneLine_append.mpr
          ⟨isOneLine_append.mpr ⟨by decide, isOneLine_ofList.mpr hname⟩, by decide⟩

end BatchLine

/-- **What is reported of a line**, without the line feed: what it asked and what came of it. -/
def reportLine? (settings : Settings) (line : List Char) : Option String :=
  match BatchLine.ofLine line with
  | .comment => none
  | .invalid message => some (String.ofList (trim line) ++ " => " ++ message)
  | .equation kind text =>
    let equation := String.ofList text
    some (kind.tag ++ ": " ++ equation ++ " => " ++ answerText (solve settings kind equation))

theorem reportLine?_eq_none_iff :
    reportLine? settings line = none ↔ trim line = [] ∨ (trim line).head? = some '#' := by
  rw [← BatchLine.ofLine_eq_comment_iff]
  unfold reportLine?
  split <;> simp_all

theorem isOneLine_of_reportLine? (hline : '\n' ∉ line) {reported : String}
    (h : reportLine? settings line = some reported) : IsOneLine reported := by
  have htrim : '\n' ∉ trim line := fun hmem => hline (mem_of_mem_trim hmem)
  have harrow : IsOneLine " => " := by decide
  unfold reportLine? at h
  split at h
  · cases h
  case h_2 message hof =>
    obtain rfl := Option.some.inj h
    simp only [isOneLine_append, isOneLine_ofList]
    exact ⟨⟨htrim, harrow⟩, BatchLine.isOneLine_of_ofLine hline hof⟩
  case h_3 kind text hof =>
    obtain ⟨name, equation, hcut, -, rfl⟩ := BatchLine.exists_cut_of_ofLine hof
    obtain ⟨colon, -, heq, -⟩ := eq_append_of_cut? hcut
    have hequation : '\n' ∉ trim equation := by
      intro hmem
      rw [heq] at htrim
      exact htrim (List.mem_append_right _ (List.mem_cons_of_mem _ (mem_of_mem_trim hmem)))
    have hcolon : IsOneLine ": " := by decide
    obtain rfl := Option.some.inj h
    simp only [isOneLine_append, isOneLine_ofList]
    exact ⟨⟨⟨⟨isOneLine_tag kind, hcolon⟩, hequation⟩, harrow⟩,
      isOneLine_answerText_solve settings kind _⟩

/-! ## The records of some lines -/

theorem map_text_of? (settings : Settings) (number : Nat) (line : List Char) :
    (BatchRecord.of? settings number line).map (·.text) =
      (reportLine? settings line).map (· ++ "\n") := by
  unfold BatchRecord.of? reportLine?
  rcases BatchLine.ofLine line with _ | ⟨kind, text⟩ | message <;>
    simp only [Option.map_none, Option.map_some, BatchRecord.text]

theorem countP_failed_of? (settings : Settings) (number : Nat) (line : List Char) :
    (BatchRecord.of? settings number line).toList.countP (·.failed) =
      if (BatchLine.ofLine line).Fails settings then 1 else 0 := by
  unfold BatchRecord.of?
  rcases BatchLine.ofLine line with _ | ⟨kind, text⟩ | message
  · rfl
  · simp only [BatchLine.fails_equation_iff, Option.toList_some, List.countP_singleton,
      Bool.not_eq_eq_eq_not, Bool.not_true]
  · rfl

/-- **The report of some lines** shows what is reported of each of them. -/
theorem batchReport_recordsFrom (settings : Settings) (number : Nat) (ls : List (List Char)) :
    batchReport (recordsFrom settings number ls) =
      String.join ((ls.filterMap (reportLine? settings)).map (· ++ "\n")) := by
  unfold batchReport
  congr 1
  induction ls generalizing number with
  | nil => rfl
  | cons line ls ih =>
    have htext := map_text_of? settings number line
    rw [recordsFrom, List.map_append, ih, List.filterMap_cons, ← Option.toList_map, htext]
    rcases reportLine? settings line with _ | reported <;> rfl

theorem failureCount_recordsFrom (settings : Settings) (number : Nat) (ls : List (List Char)) :
    failureCount (recordsFrom settings number ls) =
      ls.countP fun line => (BatchLine.ofLine line).Fails settings := by
  induction ls generalizing number with
  | nil => rfl
  | cons line ls ih =>
    rw [recordsFrom, failureCount, List.countP_append, countP_failed_of?, ← failureCount, ih,
      List.countP_cons, Nat.add_comm]
    simp only [decide_eq_true_eq]

/-! ## A source -/

/-- **The report of a batch accounts for every line.** Taken apart at its line feeds it consists of
what is reported of each line that is neither blank nor a comment, in their order; as many lines
failed as could not be read or solved; and two sources, with a line feed between, are worked off one
after the other. -/
theorem batchReport_accounts (settings : Settings) (source : String) :
    (batchReport (batchRecords settings source)).toList.splitOn '\n' =
      ((lines source.toList).filterMap (reportLine? settings)).map String.toList ++ [[]] ∧
    (∀ line, reportLine? settings line = none ↔ trim line = [] ∨ (trim line).head? = some '#') ∧
    (∀ kind text, EndsOnOneLine (solve settings kind text) ∧
      IsOneLine (answerText (solve settings kind text))) ∧
    (∀ line message, '\n' ∉ line → BatchLine.ofLine line = .invalid message →
      IsOneLine message) ∧
    failureCount (batchRecords settings source) =
      (lines source.toList).countP (fun line => (BatchLine.ofLine line).Fails settings) ∧
    ∀ later : String,
      batchReport (batchRecords settings (source ++ "\n" ++ later)) =
        batchReport (batchRecords settings source) ++ batchReport (batchRecords settings later) ∧
      failureCount (batchRecords settings (source ++ "\n" ++ later)) =
        failureCount (batchRecords settings source) +
          failureCount (batchRecords settings later) := by
  have hline : ∀ reported ∈ (lines source.toList).filterMap (reportLine? settings),
      IsOneLine reported := by
    intro reported hmem
    obtain ⟨line, hline, hreported⟩ := List.mem_filterMap.mp hmem
    exact isOneLine_of_reportLine? (newline_not_mem_of_mem_lines hline) hreported
  refine ⟨?_, fun line => reportLine?_eq_none_iff, fun kind text =>
    ⟨endsOnOneLine_solve settings kind text, isOneLine_answerText_solve settings kind text⟩,
    fun line message hline h => BatchLine.isOneLine_of_ofLine hline h, ?_, fun later => ?_⟩
  · rw [batchRecords, batchReport_recordsFrom, splitOn_join_lines hline]
  · exact failureCount_recordsFrom settings 1 _
  · -- The line feed between may leave an empty line, which has no record.
    obtain ⟨gap, hgap, hlines⟩ := exists_lines_append source.toList later.toList
    have hsource : (source ++ "\n" ++ later).toList = source.toList ++ '\n' :: later.toList := by
      simp
    have hnone : gap.filterMap (reportLine? settings) = [] := by
      rcases hgap with rfl | rfl <;> rfl
    have hzero : gap.countP (fun line => (BatchLine.ofLine line).Fails settings) = 0 := by
      rcases hgap with rfl | rfl <;> rfl
    simp only [batchRecords, hsource, hlines, batchReport_recordsFrom, failureCount_recordsFrom,
      List.filterMap_append, List.countP_append, hnone, hzero, List.append_nil, List.map_append,
      String.join_append, Nat.add_zero, and_self]

end OneUnknown
