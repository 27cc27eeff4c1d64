import OneUnknown.CommandLine.Commands
import OneUnknown.Proofs.CommandLine.Writing

/-!
# What a run depends on and what it changes

A program depends on the files only through its requests, and changes them only through those that
write. So what can be said of one request goes over to a whole run.

* **`World.AgreeOutside`**: worlds that differ at one place only, and requests to them;
* **`Program.Within`**: the paths that a program may ask for and write to;
* `Program.tree_runIn`: a program that writes nothing;
* `Program.entry_runIn`, **`Program.runIn_agree`**: a program whose paths avoid a place;
* **`Program.failure?`**, `Program.runIn_of_failure?`: how a run ends;
* `settingsUsed`, **`runIn_loadSettings`**: loading settings, or failing;
* **`Invocation.exists_command`**: what a command does behind that.
-/

namespace OneUnknown

open FileTree (AgreeOutside Avoids parts)

@[simp] theorem Program.runIn_complain_nil (world : World) (program : Program) :
    (Program.complain "" program).runIn world = program.runIn world := by
  simp [Program.runIn]

/-! ## Worlds -/

namespace World

variable {p : Place} {world other : World} {path : String}

/-- **Worlds that differ at one place only.** -/
structure AgreeOutside (p : Place) (world other : World) : Prop where
  tree : FileTree.AgreeOutside p world.tree other.tree
  here : other.here = world.here
  input : other.input = world.input
  unreadable : other.unreadable = world.unreadable
  inputFault? : other.inputFault? = world.inputFault?

namespace AgreeOutside

theorem read_eq (h : AgreeOutside p world other) (hpath : Avoids p world.here (parts path)) :
    other.read path = world.read path := by
  have hsame := h.tree.sameAt hpath
  rw [read, read, h.here, h.unreadable, ← FileTree.read_congr hsame, ← FileTree.locate_congr hsame]

theorem conversation_eq (h : AgreeOutside p world other) (shell : Shell) :
    other.conversation shell = world.conversation shell := by
  rw [conversation, conversation, h.input, h.inputFault?]

theorem write (content : String) (h : AgreeOutside p world other)
    (hpath : Avoids p world.here (parts path)) :
    (other.write path content).2 = (world.write path content).2 ∧
      AgreeOutside p (world.write path content).1 (other.write path content).1 := by
  obtain ⟨hwritten, htree⟩ := FileTree.write_agree content h.tree hpath
  have hlocate := FileTree.locate_congr (htree.sameAt hpath)
  have hresult : (other.write path content).2 = (world.write path content).2 := by
    simp only [World.write, h.here, hwritten]
  refine ⟨hresult, ?_, h.here, h.input, ?_, h.inputFault?⟩
  · simpa only [World.write, h.here] using htree
  · simp only [World.write, h.here, h.unreadable, ← hwritten, ← hlocate]

end AgreeOutside

end World

/-! ## Requests -/

namespace Program

/-- **The paths that a program asks for and writes to**, whatever it is answered. -/
def Within (asks writes : String → Prop) : Program → Prop
  | done _ | fail _ | converse _ => True
  | print _ next | complain _ next => next.Within asks writes
  | readFile path next => asks path ∧ ∀ content, (next content).Within asks writes
  | .exists path next => asks path ∧ ∀ found, (next found).Within asks writes
  | writeFile path _ next => writes path ∧ ∀ written, (next written).Within asks writes

variable {asks writes asks' writes' : String → Prop} {program : Program} {world other : World}

theorem Within.imp (h : program.Within asks writes) (hasks : ∀ path, asks path → asks' path)
    (hwrites : ∀ path, writes path → writes' path) : program.Within asks' writes' := by
  induction program with
  | done | fail | converse => trivial
  | print _ _ ih | complain _ _ ih => exact ih h
  | readFile _ _ ih | «exists» _ _ ih => exact ⟨hasks _ h.1, fun answer => ih answer (h.2 answer)⟩
  | writeFile _ _ _ ih => exact ⟨hwrites _ h.1, fun answer => ih answer (h.2 answer)⟩

/-- **A program that writes nothing** leaves all as it was. -/
theorem tree_runIn (h : program.Within asks fun _ => False) :
    (program.runIn world).tree = world.tree := by
  induction program generalizing world with
  | done | fail | converse => rfl
  | print _ _ ih | complain _ _ ih => exact ih h
  | readFile _ _ ih | «exists» _ _ ih => exact ih _ (h.2 _)
  | writeFile => exact h.1.elim

variable {p q : Place}

/-- **A program whose paths avoid a place** leaves it as it was. -/
theorem entry_runIn (world : World)
    (h : program.Within (fun _ => True) fun path => Avoids p world.here (parts path))
    (hq : p <+: q) : (program.runIn world).tree.entry q = world.tree.entry q := by
  induction program generalizing world with
  | done | fail | converse => rfl
  | print _ _ ih | complain _ _ ih => exact ih world h
  | readFile _ _ ih | «exists» _ _ ih => exact ih _ world (h.2 _)
  | writeFile path content _ ih =>
    have hrest := ih (world.write path content).2 (world.write path content).1 (h.2 _)
    exact hrest.trans (FileTree.entry_write fun hmem => h.1 q hmem hq)

/-- **A program whose paths avoid a place** does the same whatever is there. -/
theorem runIn_agree (h : program.Within (fun path => Avoids p world.here (parts path))
      fun path => Avoids p world.here (parts path))
    (hworld : World.AgreeOutside p world other) :
    (program.runIn world).code = (program.runIn other).code ∧
      (program.runIn world).output = (program.runIn other).output ∧
      (program.runIn world).errors = (program.runIn other).errors ∧
      AgreeOutside p (program.runIn world).tree (program.runIn other).tree := by
  induction program generalizing world other with
  | done | fail => exact ⟨rfl, rfl, rfl, hworld.tree⟩
  | converse shell =>
    simp only [runIn]
    rw [hworld.conversation_eq]
    exact ⟨rfl, rfl, rfl, hworld.tree⟩
  | print text _ ih =>
    obtain ⟨hcode, houtput, herrors, hagree⟩ := ih h hworld
    exact ⟨hcode, congrArg (text ++ ·) houtput, herrors, hagree⟩
  | complain text _ ih =>
    obtain ⟨hcode, houtput, herrors, hagree⟩ := ih h hworld
    exact ⟨hcode, houtput, congrArg (text ++ ·) herrors, hagree⟩
  | readFile path _ ih =>
    simp only [runIn]
    rw [hworld.read_eq h.1]
    exact ih _ (h.2 _) hworld
  | «exists» path _ ih =>
    simp only [runIn]
    rw [hworld.here, ← FileTree.has_congr (hworld.tree.sameAt h.1)]
    exact ih _ (h.2 _) hworld
  | writeFile path content _ ih =>
    obtain ⟨hwritten, hwrite⟩ := hworld.write content h.1
    simp only [runIn]
    rw [hwritten]
    exact ih _ (h.2 _) hwrite

/-! ## Failures -/

/-- **The causes with which a run ends by a failure**, if it does. -/
def failure? (world : World) : Program → Option (List String)
  | done _ => none
  | fail causes => some causes
  | print _ next | complain _ next => failure? world next
  | readFile path next => failure? world (next (world.read path))
  | .exists path next => failure? world (next (world.tree.has world.here path))
  | writeFile path content next =>
    let result := world.write path content
    failure? result.1 (next result.2)
  | converse shell => (world.conversation shell).2.map fun e => [e.message]

/-- **A run that ends by a failure** says so last, and exits with 1. -/
theorem runIn_of_failure? {causes : List String} (h : program.failure? world = some causes) :
    (program.runIn world).code = 1 ∧
      ∃ said, (program.runIn world).errors = said ++ failureText causes := by
  induction program generalizing world with
  | done => cases h
  | converse shell =>
    obtain ⟨e, he, rfl⟩ := Option.map_eq_some_iff.mp h
    simp only [runIn, he]
    exact ⟨rfl, "", (String.empty_append).symm⟩
  | fail causes' =>
    obtain rfl := Option.some.inj h
    exact ⟨rfl, "", by simp [runIn]⟩
  | print _ _ ih => exact ih h
  | complain text _ ih =>
    obtain ⟨hcode, said, herrors⟩ := ih h
    exact ⟨hcode, text ++ said, by simp only [runIn, herrors, String.append_assoc]⟩
  | readFile _ _ ih | «exists» _ _ ih | writeFile _ _ _ ih =>
    simp only [runIn, failure?] at h ⊢
    exact ih _ h

end Program

/-! ## Settings -/

/-- **The settings that a command uses**, and what is said before; or else the causes for which the
program fails. -/
def settingsUsed (context : Context) (named? : Option String) (world : World) :
    Except (List String) (String × Settings) :=
  match named?, context.home? with
  | some path, _ => (settingsIn path (world.read path)).map ("", ·)
  | none, some home =>
    let path := homeSettings home
    if world.tree.has world.here path then
      match settingsIn path (world.read path) with
      | .ok settings => .ok ("", settings)
      | .error causes => .ok (passedOver path causes, {})
    else .ok ("", {})
  | none, none => .ok ("", {})

/-- What goes on with settings that have been loaded. -/
def continueWith (next : Settings → Program) : Except (List String) (String × Settings) → Program
  | .error causes => .fail causes
  | .ok (said, settings) => .complain said (next settings)

/-- **A run loads its settings** and goes on, or fails. -/
theorem runIn_loadSettings (context : Context) (named? : Option String)
    (next : Settings → Program) (world : World) :
    (loadSettings context named? next).runIn world =
        (continueWith next (settingsUsed context named? world)).runIn world ∧
      (loadSettings context named? next).failure? world =
        (continueWith next (settingsUsed context named? world)).failure? world := by
  unfold loadSettings settingsUsed
  rcases named? with _ | path
  · rcases context.home? with _ | home
    · simp [continueWith, Program.failure?]
    · simp only [Program.runIn, Program.failure?]
      split
      · rw [Program.runIn, Program.failure?]
        rcases settingsIn (homeSettings home) _ with causes | settings
        · exact ⟨rfl, rfl⟩
        · exact ⟨(Program.runIn_complain_nil world (next settings)).symm, rfl⟩
      · simp [continueWith, Program.failure?]
  · simp only [Program.runIn, Program.failure?]
    rcases settingsIn path _ with causes | settings <;>
      simp [continueWith, Program.failure?, Except.map]

theorem loadSettings_of_error {context : Context} {named? : Option String} {world : World}
    {causes : List String} (h : settingsUsed context named? world = .error causes)
    (next : Settings → Program) :
    (loadSettings context named? next).runIn world =
        { code := 1, errors := failureText causes, tree := world.tree } ∧
      (loadSettings context named? next).failure? world = some causes := by
  obtain ⟨hrun, hfailure⟩ := runIn_loadSettings context named? next world
  rw [hrun, hfailure, h]
  exact ⟨rfl, rfl⟩

theorem loadSettings_of_ok {context : Context} {named? : Option String} {world : World}
    {said : String} {settings : Settings}
    (h : settingsUsed context named? world = .ok (said, settings)) (next : Settings → Program) :
    (loadSettings context named? next).runIn world =
        { (next settings).runIn world with
          errors := said ++ ((next settings).runIn world).errors } ∧
      (loadSettings context named? next).failure? world = (next settings).failure? world := by
  obtain ⟨hrun, hfailure⟩ := runIn_loadSettings context named? next world
  rw [hrun, hfailure, h]
  exact ⟨rfl, rfl⟩

/-! ## Commands -/

/-- The files that a command is asked to read. -/
def Subcommand.asks : Subcommand → List String
  | .batch input _ => [input]
  | _ => []

/-- The files that a command is asked to write. -/
def Subcommand.writes : Subcommand → List String
  | .batch _ output? => output?.toList
  | _ => []

section Within

variable {asks writes : String → Prop}

theorem within_complainAll {next : Program} (warnings : List String) :
    (complainAll warnings next).Within asks writes ↔ next.Within asks writes := by
  induction warnings with
  | nil => rfl
  | cons warning warnings ih => exact ih

theorem batchCommand_within (input : String) (output? : Option String) (settings : Settings) :
    (batchCommand input output? settings).Within (· = input) (· ∈ output?) := by
  refine ⟨rfl, fun content => ?_⟩
  rcases content with e | source
  · trivial
  · dsimp only
    rw [within_complainAll]
    rcases output? with _ | out
    · trivial
    · refine ⟨rfl, fun written => ?_⟩
      rcases written with e | _ <;> trivial

end Within

theorem commandLine_of_ok {context : Context} {arguments : List String} {invocation : Invocation}
    (h : Invocation.ofArguments arguments = .ok invocation) :
    commandLine context arguments = invocation.program context := by
  rw [commandLine, h]

/-- **Every command but the one that writes settings** loads settings first, and then it asks for
its own files alone. -/
theorem Invocation.exists_command (context : Context) {invocation : Invocation}
    (h : invocation.subcommand ≠ .initSettings) :
    ∃ next : Settings → Program,
      invocation.program context = loadSettings context invocation.settingsFile? next ∧
      ∀ settings, (next settings).Within (· ∈ invocation.subcommand.asks)
        (· ∈ invocation.subcommand.writes) := by
  obtain ⟨named?, subcommand⟩ := invocation
  cases subcommand with
  | solve kind equation json =>
    refine ⟨solveCommand context kind equation json, rfl, fun settings => ?_⟩
    unfold solveCommand
    dsimp only
    split
    · trivial
    · split <;> trivial
  | batch input output? =>
    refine ⟨batchCommand input output?, rfl, fun settings => ?_⟩
    exact (batchCommand_within input output? settings).imp
      (fun path h => by simp [Subcommand.asks, h]) fun path h => by
        simpa [Subcommand.writes] using h
  | kinds => exact ⟨fun _ => kindsCommand context, rfl, fun _ => trivial⟩
  | showSettings =>
    refine ⟨showSettingsCommand, rfl, fun settings => ?_⟩
    unfold showSettingsCommand
    split <;> trivial
  | initSettings => exact absurd rfl h
  | shell => exact ⟨shellCommand context, rfl, fun _ => trivial⟩

end OneUnknown
