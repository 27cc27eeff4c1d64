import OneUnknown.Proofs.CommandLine.Run

/-!
# Settings that cannot be loaded

A named file of settings is needed: a run that cannot load it fails at once. The file in the home
directory is not: a run that cannot load it goes on as if there were none, and only says so.

* **`FileTree.Without`**, `FileTree.remove`: a tree without what is at a place;
* `Unloadable`, `exists_settingsIn_eq_error`: files that give no settings;
* `FileTree.has_without`: a path to what is missing;
* **`commandLine_unloadable_settings`**: all or nothing.
-/

namespace OneUnknown

open FileTree (AgreeOutside Avoids parts)

/-! ## Trees without a place -/

namespace FileTree

variable {tree other : FileTree} {here place : Place}

/-- **The tree without what is at a place**, and otherwise the same. -/
structure Without (place : Place) (tree other : FileTree) : Prop where
  agree : AgreeOutside place tree other
  missing : ∀ q, place <+: q → other.entry q = .missing

/-- The tree without what a directory has under a name. The directory stays. -/
def remove (tree : FileTree) (directory : Place) (name : String) : FileTree where
  files := tree.files.filter fun file => ¬ directory ++ [name] <+: file.1
  directories := directory :: tree.directories.filter fun other => ¬ directory ++ [name] <+: other

theorem lookup_remove (tree : FileTree) (directory : Place) (name : String) (q : Place) :
    (tree.remove directory name).files.lookup q =
      if directory ++ [name] <+: q then none else tree.files.lookup q := by
  refine (lookup_filter (fun other => ¬ directory ++ [name] <+: other) tree.files q).trans ?_
  by_cases hq : directory ++ [name] <+: q <;> simp [hq]

theorem leads_remove {directory q : Place} {name : String}
    (hdir : tree.entry directory = .directory) :
    (tree.remove directory name).Leads q ↔ tree.Leads q ∧ ¬ directory ++ [name] <+: q := by
  constructor
  · rintro (rfl | ⟨file, hfile, hbelow⟩ | ⟨other, hother, hbelow⟩)
    · exact ⟨.inl rfl, by simp⟩
    · obtain ⟨hfile, hkept⟩ := List.mem_filter.mp hfile
      exact ⟨.inr (.inl ⟨file, hfile, hbelow⟩), fun hq => of_decide_eq_true hkept (hq.trans hbelow)⟩
    · rcases List.mem_cons.mp hother with rfl | hother
      · refine ⟨leads_of_above hdir hbelow, fun hq => ?_⟩
        have := (hq.trans hbelow).length_le
        rw [List.length_append, List.length_singleton] at this
        omega
      · obtain ⟨hother, hkept⟩ := List.mem_filter.mp hother
        exact ⟨.inr (.inr ⟨other, hother, hbelow⟩),
          fun hq => of_decide_eq_true hkept (hq.trans hbelow)⟩
  · rintro ⟨hleads, hq⟩
    -- What leads to a removed place leads to the directory, which stays.
    have hdirectory : ∀ {below : Place}, q <+: below → directory ++ [name] <+: below →
        (tree.remove directory name).Leads q := by
      intro below hbelow hremoved
      have hbelow := (List.prefix_or_prefix_of_prefix hbelow hremoved).resolve_right hq
      refine .inr (.inr ⟨directory, List.mem_cons_self,
        (List.prefix_concat_iff.mp hbelow).resolve_left ?_⟩)
      rintro rfl
      exact hq (List.prefix_refl _)
    rcases hleads with rfl | ⟨file, hfile, hbelow⟩ | ⟨other, hother, hbelow⟩
    · exact .inl rfl
    · by_cases hremoved : directory ++ [name] <+: file.1
      · exact hdirectory hbelow hremoved
      · exact .inr (.inl ⟨file, List.mem_filter.mpr ⟨hfile, decide_eq_true hremoved⟩, hbelow⟩)
    · by_cases hremoved : directory ++ [name] <+: other
      · exact hdirectory hbelow hremoved
      · exact .inr (.inr ⟨other, List.mem_cons_of_mem _
          (List.mem_filter.mpr ⟨hother, decide_eq_true hremoved⟩), hbelow⟩)

theorem without_remove {directory : Place} {name : String}
    (hdir : tree.entry directory = .directory) :
    Without (directory ++ [name]) tree (tree.remove directory name) where
  agree q hq := by
    refine entry_congr ?_ ?_
    · rw [lookup_remove, if_neg hq]
    · rw [leads_remove hdir, and_iff_left hq]
  missing q hq := by
    refine entry_of_not_leads ?_ ?_
    · rw [lookup_remove, if_pos hq]
    · rw [leads_remove hdir]
      exact fun h => h.2 hq

theorem has_without {path : String} (h : Without place tree other)
    (hplace : tree.locate here (parts path) = .ok place) : other.has here path = false := by
  unfold has
  rcases hother : other.locate here (parts path) with e | q
  · rfl
  · have hq : q = place := (eq_foldl_of_locate hother).trans (eq_foldl_of_locate hplace).symm
    simp only [hq, h.missing place (List.prefix_refl place)]

end FileTree

/-! ## Files that give no settings -/

/-- The file at a path is missing, or cannot be read, or its content gives no settings. -/
def Unloadable (world : World) (path : String) : Prop :=
  ∀ text, world.read path = .ok text → ∃ e, Settings.ofToml text = .error e

theorem exists_settingsIn_eq_error {world : World} {path : String} (h : Unloadable world path) :
    ∃ causes, settingsIn path (world.read path) = .error causes := by
  rcases hread : world.read path with e | text
  · exact ⟨_, rfl⟩
  · obtain ⟨e, he⟩ := h text hread
    exact ⟨_, by rw [settingsIn, he]; rfl⟩

/-! ## All or nothing -/

/-- **Two runs that come to the same settings**, in worlds that differ in one place only, end alike
if what they go on with avoids that place. Only what was said of the settings may differ. -/
theorem loadSettings_without {context : Context} {named? : Option String} {world : World}
    {other : FileTree} {place : Place} {said said' : String} {settings : Settings}
    {next : Settings → Program}
    (h : settingsUsed context named? world = .ok (said, settings))
    (h' : settingsUsed context named? { world with tree := other } = .ok (said', settings))
    (hpaths : (next settings).Within (fun path => Avoids place world.here (parts path))
      fun path => Avoids place world.here (parts path))
    (hother : FileTree.Without place world.tree other) :
    let effects := (loadSettings context named? next).runIn world
    let effects' := (loadSettings context named? next).runIn { world with tree := other }
    effects.code = effects'.code ∧ effects.output = effects'.output ∧
      (∃ common, effects.errors = said ++ common ∧ effects'.errors = said' ++ common) ∧
      FileTree.Without place effects.tree effects'.tree ∧
      ∀ q, place <+: q → effects.tree.entry q = world.tree.entry q := by
  have hwrites : (next settings).Within (fun _ => True)
      fun path => Avoids place world.here (parts path) :=
    hpaths.imp (fun _ _ => trivial) fun _ => id
  have hworld : World.AgreeOutside place world { world with tree := other } :=
    ⟨hother.agree, rfl, rfl, rfl, rfl⟩
  obtain ⟨hcode, houtput, herrors, hagree⟩ := Program.runIn_agree hpaths hworld
  have hkept := fun q (hq : place <+: q) => Program.entry_runIn world hwrites hq
  have hkept' := fun q (hq : place <+: q) =>
    Program.entry_runIn { world with tree := other } hwrites hq
  intro effects effects'
  have heffects := (loadSettings_of_ok h next).1
  have heffects' := (loadSettings_of_ok h' next).1
  rw [show effects = _ from heffects, show effects' = _ from heffects']
  exact ⟨hcode, houtput, ⟨_, rfl, congrArg (said' ++ ·) herrors.symm⟩,
    ⟨hagree, fun q hq => (hkept' q hq).trans (hother.missing q hq)⟩, hkept⟩

/-- **Settings that cannot be loaded** are all or nothing. A run that is told to use them fails with
their causes: it prints nothing and leaves all files as they were, whatever it was to do. A run that
would only find them in the home directory, and is not asked to do anything with that file, goes on
with the usual settings: it prints, writes and answers the same as if there were no such file. -/
theorem commandLine_unloadable_settings {context : Context} {arguments : List String}
    {invocation : Invocation} (h : Invocation.ofArguments arguments = .ok invocation)
    (hinit : invocation.subcommand ≠ .initSettings) (world : World) :
    (∀ path, invocation.settingsFile? = some path → Unloadable world path →
      ∃ causes, settingsIn path (world.read path) = .error causes ∧
        (commandLine context arguments).runIn world =
          { code := 1, errors := failureText causes, tree := world.tree } ∧
        ∀ next, (loadSettings context invocation.settingsFile? next).runIn world =
          (commandLine context arguments).runIn world) ∧
    ∀ home place, invocation.settingsFile? = none → context.home? = some home →
      world.tree.locate world.here (parts (homeSettings home)) = .ok place →
      world.tree.has world.here (homeSettings home) = true →
      Unloadable world (homeSettings home) →
      (∀ path ∈ invocation.subcommand.asks ++ invocation.subcommand.writes,
        Avoids place world.here (parts path)) →
      ∀ other, FileTree.Without place world.tree other →
        let effects := (commandLine context arguments).runIn world
        let effects' := (commandLine context arguments).runIn { world with tree := other }
        effects.code = effects'.code ∧ effects.output = effects'.output ∧
          (∃ warned, effects.errors = warned ++ effects'.errors) ∧
          FileTree.Without place effects.tree effects'.tree ∧
          ∀ q, place <+: q → effects.tree.entry q = world.tree.entry q := by
  obtain ⟨next, hprogram, hwithin⟩ := Invocation.exists_command context hinit
  rw [commandLine_of_ok h, hprogram]
  refine ⟨fun path hpath hbad => ?_, fun home place hnone hhome hplace hhas hbad havoids other
    hother => ?_⟩
  · obtain ⟨causes, hcauses⟩ := exists_settingsIn_eq_error hbad
    have hused : settingsUsed context invocation.settingsFile? world = .error causes := by
      unfold settingsUsed
      simp only [hpath, hcauses]
      rfl
    refine ⟨causes, hcauses, (loadSettings_of_error hused next).1, fun next' => ?_⟩
    rw [(loadSettings_of_error hused next').1, (loadSettings_of_error hused next).1]
  · obtain ⟨causes, hcauses⟩ := exists_settingsIn_eq_error hbad
    have hused : settingsUsed context invocation.settingsFile? world =
        .ok (passedOver (homeSettings home) causes, {}) := by
      unfold settingsUsed
      simp only [hnone, hhome, hhas, if_true, hcauses]
    have hused' : settingsUsed context invocation.settingsFile? { world with tree := other } =
        .ok ("", {}) := by
      unfold settingsUsed
      simp only [hnone, hhome, FileTree.has_without hother hplace,
        Bool.false_eq_true, if_false]
    have hpaths : (next {}).Within (fun path => Avoids place world.here (parts path))
        fun path => Avoids place world.here (parts path) :=
      (hwithin {}).imp (fun path hmem => havoids path (List.mem_append_left _ hmem))
        fun path hmem => havoids path (List.mem_append_right _ hmem)
    obtain ⟨hcode, houtput, ⟨common, herrors, herrors'⟩, hwithout, hkept⟩ :=
      loadSettings_without hused hused' hpaths hother
    refine ⟨hcode, houtput, ⟨passedOver (homeSettings home) causes, ?_⟩, hwithout, hkept⟩
    rw [herrors, herrors', String.empty_append]

/-- Files with settings in the home directory that have a number where a table has to be. -/
def brokenHome : World where
  tree := { files := [(["home", ".eqsolve", "config.toml"], "newton = 3\n"),
    (["in.txt"], "linear: 2x = 4\n")] }
  here := []
  input := ""

/-- A run that is told to use such settings, and one that finds them. -/
theorem commandLine_unloadable_settings_brokenHome :
    (∃ causes, (commandLine { home? := some "/home" }
        ["--config", "/home/.eqsolve/config.toml", "kinds"]).runIn brokenHome =
      { code := 1, errors := failureText causes, tree := brokenHome.tree }) ∧
    let program := commandLine { home? := some "/home" } ["batch", "in.txt", "-o", "out.txt"]
    let effects := program.runIn brokenHome
    let effects' := program.runIn
      { brokenHome with tree := brokenHome.tree.remove ["home", ".eqsolve"] "config.toml" }
    effects.code = effects'.code ∧ effects.output = effects'.output ∧
      FileTree.Without ["home", ".eqsolve", "config.toml"] effects.tree effects'.tree := by
  have hread : brokenHome.read "/home/.eqsolve/config.toml" =
      .ok "newton = 3\n" := rfl
  have hbad : Unloadable brokenHome "/home/.eqsolve/config.toml" := by
    intro text htext
    obtain rfl := Except.ok.inj (hread.symm.trans htext)
    rcases hload : Settings.ofToml "newton = 3\n" with e | settings
    · exact ⟨e, rfl⟩
    · have hfails : (Settings.ofToml "newton = 3\n").toBool = false := by decide +kernel
      rw [hload] at hfails
      cases hfails
  have hkinds : Invocation.ofArguments ["--config", "/home/.eqsolve/config.toml", "kinds"] =
      .ok ⟨some "/home/.eqsolve/config.toml", .kinds⟩ := by decide +kernel
  have hbatch : Invocation.ofArguments ["batch", "in.txt", "-o", "out.txt"] =
      .ok ⟨none, .batch "in.txt" (some "out.txt")⟩ := by decide +kernel
  have hhome : homeSettings "/home" = "/home/.eqsolve/config.toml" := by decide +kernel
  have hplace : brokenHome.tree.locate brokenHome.here (parts (homeSettings "/home")) =
      .ok ["home", ".eqsolve", "config.toml"] := by
    have hparts : parts (homeSettings "/home") = ["", "home", ".eqsolve", "config.toml"] := by
      decide +kernel
    rw [hparts]
    rfl
  have hhas : brokenHome.tree.has brokenHome.here (homeSettings "/home") = true := by
    decide +kernel
  have havoids : ∀ path ∈ (Subcommand.batch "in.txt" (some "out.txt")).asks ++
      (Subcommand.batch "in.txt" (some "out.txt")).writes,
      ∀ q ∈ FileTree.placesOn [] (parts path), ¬ ["home", ".eqsolve", "config.toml"] <+: q := by
    decide +kernel
  obtain ⟨causes, -, hnamed, -⟩ :=
    (@commandLine_unloadable_settings { home? := some "/home" } _ _ hkinds (by decide)
      brokenHome).1 _ rfl hbad
  obtain ⟨hcode, houtput, -, htree, -⟩ :=
    (@commandLine_unloadable_settings { home? := some "/home" } _ _ hbatch (by decide)
      brokenHome).2 "/home" _ rfl rfl hplace hhas (hhome ▸ hbad) havoids _
      (@FileTree.without_remove _ ["home", ".eqsolve"] "config.toml" rfl)
  exact ⟨⟨causes, hnamed⟩, hcode, houtput, htree⟩

end OneUnknown
