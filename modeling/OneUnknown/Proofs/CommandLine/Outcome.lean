import OneUnknown.Proofs.Batch.Report
import OneUnknown.Proofs.CommandLine.Run

/-!
# What a run writes and how it ends

Only two commands write: a batch that is asked to, and the one that writes a file of settings. Each
of them writes last of all, so that a run which fails has written nothing.

* **`EndsWriting`**: a run that fails, or has written one file as its last request;
* `save_endsWriting`, **`batch_cases`**, `initSettings_cases`: the commands that write;
* `tree_commandLine_cases`, `exists_of_changed`: the only file that a run changes;
* `files_of_failure?`, `read_of_batch`: what is in the files;
* `code_eq_zero_of_solve`, `code_eq_zero_of_batch`: exit codes;
* **`commandLine_outcome`**: files, outputs and exit codes of a run;
* `batch_into_directory`, `initSettings_over_batch`: a batch that exits with 1 although all its
  lines are solved, and settings that are written over a file.
-/

namespace OneUnknown

open FileTree (parts placesOn)

variable {context : Context} {world : World}

/-! ## Batches -/

theorem runIn_complainAll (warnings : List String) (next : Program) (world : World) :
    ((complainAll warnings next).runIn world).code = (next.runIn world).code ∧
      ((complainAll warnings next).runIn world).output = (next.runIn world).output ∧
      ((complainAll warnings next).runIn world).tree = (next.runIn world).tree ∧
      (complainAll warnings next).failure? world = next.failure? world := by
  induction warnings with
  | nil => exact ⟨rfl, rfl, rfl, rfl⟩
  | cons text warnings ih => exact ih

/-- **A run that fails and leaves all files as they were**, or does not fail and has written one
file as the last thing it did with files. -/
def EndsWriting (world : World) (program : Program) (path content : String) : Prop :=
  (∃ causes, program.failure? world = some causes ∧
    (program.runIn world).tree.files = world.tree.files) ∨
  (program.failure? world = none ∧
    world.tree.write world.here path content = ((program.runIn world).tree, .ok ()))

/-- The exit code for the lines of a source. -/
def batchCode (settings : Settings) (source : String) : Nat :=
  if failureCount (batchRecords settings source) = 0 then 0 else 1

theorem batchCode_eq_zero_iff {settings : Settings} {source : String} :
    batchCode settings source = 0 ↔
      ∀ line ∈ lines source.toList, ¬ (BatchLine.ofLine line).Fails settings := by
  have hcount : failureCount (batchRecords settings source) = 0 ↔
      ∀ line ∈ lines source.toList, ¬ (BatchLine.ofLine line).Fails settings := by
    rw [batchRecords, failureCount_recordsFrom, List.countP_eq_zero]
    simp only [decide_eq_true_eq]
  rw [← hcount, batchCode]
  split_ifs with h <;> simp [h]

/-- **Saving** either fails, or writes the file. -/
theorem save_endsWriting (world : World) (path content : String) (code : Nat) :
    EndsWriting world (save path content code) path content ∧
      ((save path content code).failure? world = none →
        ((save path content code).runIn world).code = code) := by
  unfold EndsWriting
  simp only [save, Program.runIn, Program.failure?]
  have hresult : (world.write path content).2 = (world.tree.write world.here path content).2 := rfl
  rw [hresult]
  rcases hwrite : world.tree.write world.here path content with ⟨tree, e | _⟩
  all_goals have htree : (world.write path content).1.tree = tree := congrArg Prod.fst hwrite
  · have hfiles := (congrArg FileTree.files htree).trans (FileTree.write_error hwrite)
    exact ⟨.inl ⟨_, rfl, hfiles⟩, fun h => by cases h⟩
  · exact ⟨.inr ⟨rfl, Prod.ext htree.symm rfl⟩, fun _ => rfl⟩

section Batch

variable {input : String} {settings : Settings} {source : String}

theorem batchCommand_prints (hread : world.read input = .ok source) :
    ((batchCommand input none settings).runIn world).output =
        batchReport (batchRecords settings source) ∧
      ((batchCommand input none settings).runIn world).code = batchCode settings source ∧
      (batchCommand input none settings).failure? world = none := by
  simp only [batchCommand, Program.runIn, Program.failure?, hread]
  obtain ⟨hcode, houtput, -, hfailure⟩ := runIn_complainAll
    (batchWarnings (batchRecords settings source))
    (.print (batchReport (batchRecords settings source)) (.done (batchCode settings source))) world
  refine ⟨houtput.trans ?_, hcode, hfailure⟩
  simp [Program.runIn]

/-- **A batch that is asked for a file** writes its report to it, or fails. -/
theorem batchCommand_endsWriting (out : String)
    (hread : world.read input = .ok source) :
    EndsWriting world (batchCommand input (some out) settings) out
        (batchReport (batchRecords settings source)) ∧
      ((batchCommand input (some out) settings).failure? world = none →
        ((batchCommand input (some out) settings).runIn world).code =
          batchCode settings source) := by
  unfold EndsWriting
  simp only [batchCommand, Program.runIn, Program.failure?, hread]
  obtain ⟨hcode, -, htree, hfailure⟩ := runIn_complainAll
    (batchWarnings (batchRecords settings source))
    (save out (batchReport (batchRecords settings source)) (batchCode settings source)) world
  unfold batchCode at hcode htree hfailure
  rw [hcode, htree, hfailure]
  exact save_endsWriting world out _ _

end Batch

/-! ## Runs that write nothing -/

theorem tree_loadSettings {named? : Option String} {next : Settings → Program}
    {asks : String → Prop} (h : ∀ settings, (next settings).Within asks fun _ => False) :
    ((loadSettings context named? next).runIn world).tree = world.tree := by
  rcases hused : settingsUsed context named? world with causes | ⟨said, settings⟩
  · rw [(loadSettings_of_error hused next).1]
  · rw [(loadSettings_of_ok hused next).1]
    exact Program.tree_runIn (h settings)

theorem Stop.tree_program (stop : Stop) (world : World) :
    (stop.program.runIn world).tree = world.tree ∧ stop.program.failure? world = none := by
  cases stop <;> exact ⟨rfl, rfl⟩

/-- **A command that is asked to write nothing** leaves all as it was. -/
theorem Invocation.tree_program {invocation : Invocation}
    (hinit : invocation.subcommand ≠ .initSettings) (hwrites : invocation.subcommand.writes = []) :
    ((invocation.program context).runIn world).tree = world.tree := by
  obtain ⟨next, hprogram, hwithin⟩ := Invocation.exists_command context hinit
  rw [hprogram]
  refine tree_loadSettings fun settings => (hwithin settings).imp (fun _ => id) fun path h => ?_
  rw [hwrites] at h
  exact List.not_mem_nil h

/-! ## Exit codes -/

theorem code_solveCommand {kind : EquationKind} {equation : String} {json : Bool}
    {settings : Settings} :
    (((solveCommand context kind equation json settings).runIn world).code = 0 ↔
      ∃ answer, solve settings kind equation = .ok answer) ∧
      (solveCommand context kind equation json settings).failure? world = none := by
  unfold solveCommand
  rcases solve settings kind equation with e | answer <;> cases json <;>
    simp [Program.runIn, Program.failure?, Except.toBool]

/-- **What a batch comes to**: it fails, or all of its source has been worked off. -/
theorem batch_cases (context : Context) (world : World) (named? : Option String) (input : String)
    (output? : Option String) :
    let program := (⟨named?, .batch input output?⟩ : Invocation).program context
    (∃ causes, program.failure? world = some causes ∧
      (program.runIn world).tree.files = world.tree.files) ∨
    program.failure? world = none ∧ ∃ said settings source,
      settingsUsed context named? world = .ok (said, settings) ∧
      world.read input = .ok source ∧
      (program.runIn world).code = batchCode settings source ∧
      match output? with
      | none => (program.runIn world).output = batchReport (batchRecords settings source)
      | some out => world.tree.write world.here out (batchReport (batchRecords settings source)) =
          ((program.runIn world).tree, .ok ()) := by
  intro program
  rcases hused : settingsUsed context named? world with causes | ⟨said, settings⟩
  · obtain ⟨hrun, hfailure⟩ := loadSettings_of_error hused (batchCommand input output?)
    exact .inl ⟨causes, hfailure, by rw [show program.runIn world = _ from hrun]⟩
  · obtain ⟨hrun, hfailure⟩ := loadSettings_of_ok hused (batchCommand input output?)
    rw [show program.runIn world = _ from hrun, show program.failure? world = _ from hfailure]
    rcases hread : world.read input with e | source
    · refine .inl ⟨["reading " ++ input, e.message], ?_, ?_⟩
      · simp [batchCommand, Program.failure?, hread]
      · simp [batchCommand, Program.runIn, hread]
    · rcases output? with _ | out
      · obtain ⟨houtput, hcode, hnone⟩ := @batchCommand_prints world input settings source hread
        exact .inr ⟨hnone, said, settings, source, rfl, rfl, hcode, houtput⟩
      · obtain ⟨hends, hcode⟩ := @batchCommand_endsWriting world input settings source out hread
        rcases hends with hfails | ⟨hnone, hwritten⟩
        · exact .inl hfails
        · exact .inr ⟨hnone, said, settings, source, rfl, rfl, hcode hnone, hwritten⟩

/-- **What writing a file of settings comes to**: it fails, or the file has been written, and its
path led to nothing before. -/
theorem initSettings_cases (context : Context) (world : World) (named? : Option String) :
    let program := (⟨named?, .initSettings⟩ : Invocation).program context
    (∃ causes, program.failure? world = some causes ∧
      (program.runIn world).tree.files = world.tree.files) ∨
    program.failure? world = none ∧ ∃ path content,
      named?.or (context.home?.map homeSettings) = some path ∧
      world.tree.has world.here path = false ∧
      world.tree.write world.here path content = ((program.runIn world).tree, .ok ()) := by
  intro program
  have hprogram : program = initSettingsCommand context named? := rfl
  rw [hprogram]
  unfold initSettingsCommand
  split
  · exact .inl ⟨_, rfl, rfl⟩
  · rename_i path hpath
    simp only [Program.failure?, Program.runIn]
    split
    · exact .inl ⟨_, rfl, rfl⟩
    · rename_i hhas
      rcases (save_endsWriting world path _ 0).1 with hfails | ⟨hnone, hwritten⟩
      · exact .inl hfails
      · exact .inr ⟨hnone, path, _, hpath, by simpa using hhas, hwritten⟩

/-! ## All runs -/

variable {arguments : List String} {named? : Option String}

theorem tree_commandLine_cases (context : Context) (arguments : List String) (world : World) :
    ((commandLine context arguments).runIn world).tree = world.tree ∨
    (∃ named? input out,
      Invocation.ofArguments arguments = .ok ⟨named?, .batch input (some out)⟩) ∨
    ∃ named?, Invocation.ofArguments arguments = .ok ⟨named?, .initSettings⟩ := by
  rcases harguments : Invocation.ofArguments arguments with stop | ⟨named?, subcommand⟩
  · rw [commandLine, harguments]
    exact .inl (stop.tree_program world).1
  · by_cases hinit : subcommand = .initSettings
    · exact .inr (.inr ⟨named?, by rw [hinit]⟩)
    · by_cases hwrites : subcommand.writes = []
      · rw [commandLine_of_ok harguments]
        exact .inl (Invocation.tree_program hinit hwrites)
      · refine .inr (.inl ?_)
        cases subcommand with
        | batch input output? =>
          rcases output? with _ | out
          · exact absurd rfl hwrites
          · exact ⟨named?, input, out, rfl⟩
        | _ => exact absurd rfl hwrites

/-- **The only file that a run changes** is the one that it is asked to write. -/
theorem exists_of_changed {place : Place}
    (h : ((commandLine context arguments).runIn world).tree.files.lookup place ≠
      world.tree.files.lookup place) :
    (∃ named? input out,
      Invocation.ofArguments arguments = .ok ⟨named?, .batch input (some out)⟩ ∧
      ((commandLine context arguments).runIn world).tree.locate world.here (parts out) =
        .ok place) ∨
    ∃ named? path, Invocation.ofArguments arguments = .ok ⟨named?, .initSettings⟩ ∧
      named?.or (context.home?.map homeSettings) = some path ∧
      ((commandLine context arguments).runIn world).tree.locate world.here (parts path) =
        .ok place ∧
      ((∀ q ∈ placesOn world.here (parts path), q <+: place ∨ world.tree.entry q = .directory) →
        world.tree.files.lookup place = none) := by
  rcases tree_commandLine_cases context arguments world with htree | ⟨named?, input, out, hbatch⟩ |
    ⟨named?, hinit⟩
  · rw [htree] at h
    exact absurd rfl h
  · rw [commandLine_of_ok hbatch] at h ⊢
    rcases batch_cases context world named? input (some out) with ⟨causes, -, hfiles⟩ |
      ⟨-, said, settings, source, -, -, -, hwritten⟩
    · rw [hfiles] at h
      exact absurd rfl h
    · obtain ⟨place', hlocate, -, -, hothers⟩ := FileTree.write_ok hwritten
      obtain rfl : place = place' := by_contra fun hne => h (hothers place hne)
      exact .inl ⟨named?, input, out, hbatch, hlocate⟩
  · rw [commandLine_of_ok hinit] at h ⊢
    rcases initSettings_cases context world named? with ⟨causes, -, hfiles⟩ |
      ⟨-, path, content, hpath, hhas, hwritten⟩
    · rw [hfiles] at h
      exact absurd rfl h
    · obtain ⟨place', hlocate, -, -, hothers⟩ := FileTree.write_ok hwritten
      obtain rfl : place = place' := by_contra fun hne => h (hothers place hne)
      exact .inr ⟨named?, path, hinit, hpath, hlocate,
        FileTree.lookup_eq_none_of_write hwritten hhas hlocate⟩

/-- **A run that ends by a failure** leaves all files as they were. -/
theorem files_of_failure? {causes : List String}
    (h : (commandLine context arguments).failure? world = some causes) :
    ((commandLine context arguments).runIn world).tree.files = world.tree.files := by
  rcases tree_commandLine_cases context arguments world with htree | ⟨named?, input, out, hbatch⟩ |
    ⟨named?, hinit⟩
  · rw [htree]
  · rw [commandLine_of_ok hbatch] at h ⊢
    rcases batch_cases context world named? input (some out) with ⟨-, -, hfiles⟩ | ⟨hnone, -⟩
    · exact hfiles
    · rw [hnone] at h
      cases h
  · rw [commandLine_of_ok hinit] at h ⊢
    rcases initSettings_cases context world named? with ⟨-, -, hfiles⟩ | ⟨hnone, -⟩
    · exact hfiles
    · rw [hnone] at h
      cases h

/-- **The file that a batch writes** holds what the batch prints if it is not asked to write. -/
theorem read_of_batch {input out : String} {plain : List String}
    (hout : Invocation.ofArguments arguments = .ok ⟨named?, .batch input (some out)⟩)
    (hplain : Invocation.ofArguments plain = .ok ⟨named?, .batch input none⟩)
    (hnone : (commandLine context arguments).failure? world = none) :
    ((commandLine context arguments).runIn world).tree.read world.here out =
        .ok ((commandLine context plain).runIn world).output ∧
      ((commandLine context arguments).runIn world).code =
        ((commandLine context plain).runIn world).code := by
  rw [commandLine_of_ok hout] at hnone ⊢
  rw [commandLine_of_ok hplain]
  rcases batch_cases context world named? input (some out) with ⟨causes, hcauses, -⟩ |
    ⟨-, said, settings, source, hused, hread, hcode, hwritten⟩
  · rw [hcauses] at hnone
    cases hnone
  · obtain ⟨hrun, -⟩ := loadSettings_of_ok hused (batchCommand input none)
    obtain ⟨houtput, hcode', -⟩ := @batchCommand_prints world input settings source hread
    obtain ⟨place, -, -, hcontent, -⟩ := FileTree.write_ok hwritten
    have hprinted : (⟨named?, .batch input none⟩ : Invocation).program context =
      loadSettings context named? (batchCommand input none) := rfl
    rw [hcontent, hcode, hprinted, hrun, houtput, hcode']
    exact ⟨rfl, rfl⟩

theorem code_eq_zero_of_solve {kind : EquationKind} {equation : String} {json : Bool}
    (h : Invocation.ofArguments arguments = .ok ⟨named?, .solve kind equation json⟩) :
    ((commandLine context arguments).runIn world).code = 0 ↔
      (commandLine context arguments).failure? world = none ∧ ∃ said settings answer,
        settingsUsed context named? world = .ok (said, settings) ∧
        solve settings kind equation = .ok answer := by
  have hprogram : (⟨named?, .solve kind equation json⟩ : Invocation).program context =
    loadSettings context named? (solveCommand context kind equation json) := rfl
  rw [commandLine_of_ok h, hprogram]
  rcases hused : settingsUsed context named? world with causes | ⟨said, settings⟩
  · obtain ⟨hrun, hfailure⟩ :=
      loadSettings_of_error hused (solveCommand context kind equation json)
    rw [hrun, hfailure]
    simp
  · obtain ⟨hrun, hfailure⟩ := loadSettings_of_ok hused (solveCommand context kind equation json)
    obtain ⟨hcode, hnone⟩ := @code_solveCommand context world kind equation json settings
    rw [hrun, hfailure, hnone]
    simp [hcode]

theorem code_eq_zero_of_batch {input : String} {output? : Option String}
    (h : Invocation.ofArguments arguments = .ok ⟨named?, .batch input output?⟩) :
    ((commandLine context arguments).runIn world).code = 0 ↔
      (commandLine context arguments).failure? world = none ∧ ∃ said settings source,
        settingsUsed context named? world = .ok (said, settings) ∧
        world.read input = .ok source ∧
        ∀ line ∈ lines source.toList, ¬ (BatchLine.ofLine line).Fails settings := by
  rw [commandLine_of_ok h]
  rcases batch_cases context world named? input output? with ⟨causes, hcauses, -⟩ |
    ⟨hnone, said, settings, source, hused, hread, hcode, -⟩
  · rw [(Program.runIn_of_failure? hcauses).1, hcauses]
    simp
  · rw [hnone, hcode, hused, hread, batchCode_eq_zero_iff]
    simp

/-- **What a run writes and how it ends.** No file is created or changed but the one that a batch is
asked to write, and the one of settings that is asked for, whose path led to nothing before; there
was no file then unless the path goes up again from a directory that was missing. The former is the
report that the batch prints if it is not asked to write it, and the exit code is the same. A run
that ends by a failure leaves all files as they were. Otherwise the exit code says whether the
equation was solved, or all equations of the batch. -/
theorem commandLine_outcome (context : Context) (arguments : List String) (world : World) :
    let program := commandLine context arguments
    let effects := program.runIn world
    (∀ place, effects.tree.files.lookup place ≠ world.tree.files.lookup place →
      (∃ named? input out,
        Invocation.ofArguments arguments = .ok ⟨named?, .batch input (some out)⟩ ∧
        effects.tree.locate world.here (parts out) = .ok place) ∨
      ∃ named? path, Invocation.ofArguments arguments = .ok ⟨named?, .initSettings⟩ ∧
        named?.or (context.home?.map homeSettings) = some path ∧
        effects.tree.locate world.here (parts path) = .ok place ∧
        ((∀ q ∈ placesOn world.here (parts path), q <+: place ∨ world.tree.entry q = .directory) →
          world.tree.files.lookup place = none)) ∧
    (∀ named? input out plain,
      Invocation.ofArguments arguments = .ok ⟨named?, .batch input (some out)⟩ →
      Invocation.ofArguments plain = .ok ⟨named?, .batch input none⟩ →
      program.failure? world = none →
      effects.tree.read world.here out = .ok ((commandLine context plain).runIn world).output ∧
        effects.code = ((commandLine context plain).runIn world).code) ∧
    (∀ causes, program.failure? world = some causes →
      effects.tree.files = world.tree.files ∧ effects.code = 1 ∧
        ∃ said, effects.errors = said ++ failureText causes) ∧
    (∀ named? kind equation json,
      Invocation.ofArguments arguments = .ok ⟨named?, .solve kind equation json⟩ →
      (effects.code = 0 ↔ program.failure? world = none ∧ ∃ said settings answer,
        settingsUsed context named? world = .ok (said, settings) ∧
        solve settings kind equation = .ok answer)) ∧
    ∀ named? input output?,
      Invocation.ofArguments arguments = .ok ⟨named?, .batch input output?⟩ →
      (effects.code = 0 ↔ program.failure? world = none ∧ ∃ said settings source,
        settingsUsed context named? world = .ok (said, settings) ∧
        world.read input = .ok source ∧
        ∀ line ∈ lines source.toList, ¬ (BatchLine.ofLine line).Fails settings) := by
  intro program effects
  refine ⟨fun place => exists_of_changed, fun _ _ _ _ => read_of_batch, fun causes hcauses => ?_,
    fun _ _ _ _ => code_eq_zero_of_solve, fun _ _ _ => code_eq_zero_of_batch⟩
  exact ⟨files_of_failure? hcauses, Program.runIn_of_failure? hcauses⟩

/-- A batch of one equation, and a directory. -/
def beforeBatch : World where
  tree := { files := [(["in.txt"], "linear: x = 1\n"), (["d", "keep.txt"], "")] }
  here := []
  input := ""

/-- A batch that is written into a new directory, one that cannot be read, and settings that are
written where there was no file. -/
theorem commandLine_outcome_written :
    let run (arguments : List String) := (commandLine { home? := none } arguments).runIn beforeBatch
    let batch := run ["batch", "in.txt", "-o", "new/out.txt"]
    let failed := run ["batch", "nope.txt", "-o", "new/out.txt"]
    let init := run ["--config", "eq.toml", "config", "--init"]
    (batch.tree.read [] "new/out.txt" = .ok "linear: x = 1 => x = 1\n" ∧ batch.code = 0 ∧
      ∀ place ≠ ["new", "out.txt"],
        batch.tree.files.lookup place = beforeBatch.tree.files.lookup place) ∧
    (failed.tree.files = beforeBatch.tree.files ∧ failed.code = 1) ∧
    init.tree.files.lookup ["eq.toml"] = ({} : Settings).toToml? ∧
    beforeBatch.tree.files.lookup ["eq.toml"] = none ∧
    ∀ place ≠ ["eq.toml"],
      init.tree.files.lookup place = beforeBatch.tree.files.lookup place := by
  intro run batch failed init
  have hbatch : Invocation.ofArguments ["batch", "in.txt", "-o", "new/out.txt"] =
      .ok ⟨none, .batch "in.txt" (some "new/out.txt")⟩ := by decide +kernel
  have hinit : Invocation.ofArguments ["--config", "eq.toml", "config", "--init"] =
      .ok ⟨some "eq.toml", .initSettings⟩ := by decide +kernel
  have hout : batch.tree.locate [] (parts "new/out.txt") = .ok ["new", "out.txt"] := by
    decide +kernel
  have hsettings : init.tree.locate [] (parts "eq.toml") = .ok ["eq.toml"] := by decide +kernel
  have hchanged : init.tree.files.lookup ["eq.toml"] = ({} : Settings).toToml? := by
    decide +kernel
  obtain ⟨hbatchFile, hreport, -, -, hcode⟩ := commandLine_outcome { home? := none }
    ["batch", "in.txt", "-o", "new/out.txt"] beforeBatch
  obtain ⟨-, -, hfailed, -, -⟩ := commandLine_outcome { home? := none }
    ["batch", "nope.txt", "-o", "new/out.txt"] beforeBatch
  obtain ⟨hinitFile, -⟩ := commandLine_outcome { home? := none }
    ["--config", "eq.toml", "config", "--init"] beforeBatch
  refine ⟨⟨?_, ?_, fun place hplace => ?_⟩, ?_, hchanged, ?_, fun place hplace => ?_⟩
  · have hplain : (run ["batch", "in.txt"]).output = "linear: x = 1 => x = 1\n" := by
      decide +kernel
    rw [← hplain]
    exact (hreport none "in.txt" "new/out.txt" ["batch", "in.txt"] hbatch (by decide +kernel)
      (by decide +kernel)).1
  · exact (hcode none "in.txt" (some "new/out.txt") hbatch).mpr
      ⟨by decide +kernel, "", {}, "linear: x = 1\n", rfl, rfl, by decide +kernel⟩
  · by_contra hne
    rcases hbatchFile place hne with ⟨_, _, _, h, hlocate⟩ | ⟨_, _, h, -⟩
    · cases hbatch.symm.trans h
      exact hplace (Except.ok.inj (hlocate.symm.trans hout))
    · cases hbatch.symm.trans h
  · obtain ⟨hfiles, hone, -⟩ := hfailed
      ["reading nope.txt", "No such file or directory (os error 2)"] (by decide +kernel)
    exact ⟨hfiles, hone⟩
  · have hne : init.tree.files.lookup ["eq.toml"] ≠ beforeBatch.tree.files.lookup ["eq.toml"] := by
      rw [hchanged]
      decide +kernel
    rcases hinitFile _ hne with ⟨_, _, _, h, -⟩ | ⟨_, _, h, hpath, -, hnone⟩
    · cases hinit.symm.trans h
    · cases hinit.symm.trans h
      cases hpath
      exact hnone (by decide +kernel)
  · by_contra hne
    rcases hinitFile place hne with ⟨_, _, _, h, -⟩ | ⟨_, _, h, hpath, hlocate, -⟩
    · cases hinit.symm.trans h
    · cases hinit.symm.trans h
      cases hpath
      exact hplace (Except.ok.inj (hlocate.symm.trans hsettings))

/-- **A batch without a failure may exit with 1**: the file that it is asked to write is a
directory. -/
theorem batch_into_directory :
    Invocation.ofArguments ["batch", "in.txt", "-o", "d"] =
        .ok ⟨none, .batch "in.txt" (some "d")⟩ ∧
      settingsUsed { home? := none } none beforeBatch = .ok ("", {}) ∧
      beforeBatch.read "in.txt" = .ok "linear: x = 1\n" ∧
      ¬ (((commandLine { home? := none } ["batch", "in.txt", "-o", "d"]).runIn
            beforeBatch).code = 0 ↔
          ∀ line ∈ lines "linear: x = 1\n".toList, ¬ (BatchLine.ofLine line).Fails {}) := by
  refine ⟨by decide +kernel, rfl, rfl, fun h => ?_⟩
  have hcode : ((commandLine { home? := none } ["batch", "in.txt", "-o", "d"]).runIn
      beforeBatch).code = 1 := by decide +kernel
  have hlines : ∀ line ∈ lines "linear: x = 1\n".toList, ¬ (BatchLine.ofLine line).Fails {} := by
    decide +kernel
  rw [hcode] at h
  exact absurd (h.mpr hlines) (by decide)

/-- **Settings may be written over a file**: a path that goes up again from a missing directory
leads to nothing until the directory is made. -/
theorem initSettings_over_batch :
    (beforeBatch.tree.has [] "new/../in.txt" = false ∧
      beforeBatch.tree.files.lookup ["in.txt"] = some "linear: x = 1\n") ∧
    let effects := (commandLine { home? := none }
      ["--config", "new/../in.txt", "config", "--init"]).runIn beforeBatch
    effects.code = 0 ∧ effects.tree.files.lookup ["in.txt"] = ({} : Settings).toToml? := by
  decide +kernel

end OneUnknown
