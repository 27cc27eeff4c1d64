import OneUnknown.Proofs.Toml.Tables
import OneUnknown.Proofs.Toml.Values

/-!
# Settings that were written are read again

A document of settings has three tables with a line for each setting. All of them are read as they
were written, so that the settings come back whole; and they are accepted just if they may be used.

* `ReadsAgain`, `seedsField`, `numberField`, `countField`: the lines of settings;
* `Settings.toList_of_toToml?`: their document;
* `Settings.read?_of_toToml?`: the tree that is read from it;
* **`Settings.ofEntries?_tree`**: the settings in that tree;
* **`Settings.ofToml_toToml`**: settings that are written, and those that are accepted.
-/

namespace OneUnknown

open Toml

/-! ## Lines -/

/-- The number is read again from what it is written as. Infinities and `NaN` always are. -/
def ReadsAgain (x : Float) : Prop :=
  x.isFinite = true → float? (tomlFloat x).toList = some (x, [])

/-- The line of seeds. -/
def seedsField (name : String) (seeds : List Float) : WrittenField :=
  ⟨name, (tomlSeeds seeds).toList, .array (seeds.map .float)⟩

/-- The line of a number. -/
def numberField (name : String) (x : Float) : WrittenField :=
  ⟨name, (tomlFloat x).toList, .float x⟩

/-- The line of a whole number. -/
def countField (name : String) (n : Nat) : WrittenField := ⟨name, digits n, .integer n⟩

namespace Toml.WrittenField.IsReadable

theorem number {x : Float} (hx : ReadsAgain x) (name : String) :
    (numberField name x).IsReadable := by
  obtain ⟨c, cs, htext, hc⟩ := exists_tomlFloat_eq x
  refine ⟨⟨c, cs, htext, hc.isPlain⟩, fun bound rest hbound => ?_⟩
  obtain ⟨bound, rfl⟩ := Nat.exists_eq_add_one_of_ne_zero (Nat.ne_zero_of_lt hbound)
  exact value?_tomlFloat hx (.inr (.inr rfl)) bound depthLimit rest

theorem count {n : Nat} (hn : n < tomlBound) (name : String) : (countField name n).IsReadable := by
  obtain ⟨d, ds, htext⟩ := List.exists_cons_of_ne_nil (digits_ne_nil n)
  have hd : BeginsNumber d := .inl (isDigit_of_mem_digits (htext ▸ List.mem_cons_self))
  refine ⟨⟨d, ds, htext, hd.isPlain⟩, fun bound rest hbound => ?_⟩
  obtain ⟨bound, rfl⟩ := Nat.exists_eq_add_one_of_ne_zero (Nat.ne_zero_of_lt hbound)
  exact value?_digits hn (.inr (.inr rfl)) bound depthLimit rest

theorem seeds {seeds : List Float} (hseeds : ∀ seed ∈ seeds, ReadsAgain seed) (name : String) :
    (seedsField name seeds).IsReadable := by
  refine ⟨?_, fun bound rest hbound => ?_⟩
  · have hplain : IsPlain '[' := ⟨by decide, by decide, by decide, by decide⟩
    rcases seeds with _ | ⟨first, _ | ⟨second, seeds⟩⟩
    · exact ⟨'[', _, rfl, hplain⟩
    · exact ⟨'[', (tomlFloat first).toList ++ [']'], by simp [seedsField, tomlSeeds], hplain⟩
    · refine ⟨'[', seedLines (first :: second :: seeds) [], ?_, hplain⟩
      rw [← toList_tomlSeeds, List.append_nil]
      rfl
  · have hlength : seeds.length ≤ (seedsField name seeds).text.length := length_le_tomlSeeds seeds
    exact value?_tomlSeeds hseeds (by omega) _ ('\n' :: rest)

end Toml.WrittenField.IsReadable

/-! ## The document -/

/-- The lines of the table `newton`. -/
def NewtonSettings.fields (s : NewtonSettings) : List WrittenField :=
  [seedsField "seeds" s.seeds, countField "max_iterations" s.maxIterations,
    numberField "tolerance" s.tolerance]

/-- The lines of a document of settings. -/
def Settings.lines (s : Settings) : List Char :=
  tableLines "newton" s.newton.fields <|
    '\n' :: (tableLines "format" [countField "decimal_places" s.decimalPlaces] <|
      '\n' :: tableLines "parser" [countField "max_degree" s.maxDegree] [])

/-- The tree of a document of settings. -/
def Settings.tree (s : Settings) : Entries :=
  [("newton", .table .header (s.newton.fields.map WrittenField.entry)),
    ("format", .table .header [("decimal_places", .integer s.decimalPlaces)]),
    ("parser", .table .header [("max_degree", .integer s.maxDegree)])]

theorem isName_of_mem : ∀ name ∈ ["newton", "seeds", "max_iterations", "tolerance", "format",
    "decimal_places", "parser", "max_degree"], IsName name := by
  simp only [List.forall_mem_cons, IsName]
  simp
  repeat' apply And.intro
  all_goals decide

variable {s : Settings} {text : String}

theorem Settings.toList_of_toToml? (h : s.toToml? = some text) : text.toList = s.lines := by
  unfold toToml? at h
  split at h
  · obtain rfl := Option.some.inj h
    simp [lines, NewtonSettings.fields, seedsField, countField, numberField, tableLines, headerLine,
      fieldLine]
  · cases h

/-- **The tree is read from the document.** -/
theorem Settings.read?_of_toToml? (hiterations : s.newton.maxIterations < tomlBound)
    (hplaces : s.decimalPlaces < tomlBound) (hdegree : s.maxDegree < tomlBound)
    (htolerance : ReadsAgain s.newton.tolerance) (hseeds : ∀ seed ∈ s.newton.seeds, ReadsAgain seed)
    (h : s.toToml? = some text) : Toml.read? text = some s.tree := by
  have hmark : ∀ rest, s.lines ≠ '\uFEFF' :: rest :=
    fun rest heq => absurd (List.cons.inj heq).1 (by decide)
  have hlength : 8 ≤ s.lines.length := by
    have hname : "newton".toList.length = 6 := by decide
    simp only [lines, tableLines, headerLine, List.length_cons, List.length_append, hname]
    omega
  obtain ⟨bound, hbound⟩ : ∃ bound, s.lines.length + 1 = bound + 1 + 1 + 1 + 1 + 1 + 3 + 1 :=
    ⟨s.lines.length - 8, by omega⟩
  have hnewton : ∀ field ∈ s.newton.fields, IsName field.name ∧ field.IsReadable := by
    simp only [NewtonSettings.fields, List.forall_mem_cons]
    exact ⟨⟨isName_of_mem "seeds" (by simp), .seeds hseeds _⟩,
      ⟨isName_of_mem "max_iterations" (by simp), .count hiterations _⟩,
      ⟨isName_of_mem "tolerance" (by simp), .number htolerance _⟩, List.forall_mem_nil _⟩
  have hdistinct : ["seeds", "max_iterations", "tolerance"].Nodup := by decide
  have hcount : ∀ {name n}, IsName name → n < tomlBound →
      ∀ field ∈ [countField name n], IsName field.name ∧ field.IsReadable := by
    intro name n hname hn field hmem
    obtain rfl := List.mem_singleton.mp hmem
    exact ⟨hname, .count hn name⟩
  have hread : statementsWithin (s.lines.length + 1) {} s.lines = some ⟨s.tree, ["parser"]⟩ := by
    rw [hbound]
    refine (statementsWithin_tableLines (isName_of_mem "newton" (by simp)) rfl hnewton hdistinct
      _).trans ?_
    rw [statementsWithin_newline]
    refine (statementsWithin_tableLines (isName_of_mem "format" (by simp)) rfl
      (hcount (isName_of_mem "decimal_places" (by simp)) hplaces) (List.nodup_singleton _)
      _).trans ?_
    rw [statementsWithin_newline]
    exact statementsWithin_tableLines (isName_of_mem "parser" (by simp)) rfl
      (hcount (isName_of_mem "max_degree" (by simp)) hdegree) (List.nodup_singleton _) _
  unfold Toml.read?
  rw [toList_of_toToml? h]
  split
  · rename_i heq
    exact (hmark _ heq).elim
  · exact congrArg (Option.map Document.entries) hread

/-! ## The settings that are read -/

theorem floatsOf?_map_float (xs : List Float) : floatsOf? (.array (xs.map .float)) = some xs := by
  induction xs with
  | nil => rfl
  | cons x xs ih =>
    simp only [floatsOf?] at ih
    simp only [floatsOf?, List.map_cons, List.mapM_cons, ih]
    rfl

theorem countOf?_integer {bits n : Nat} (h : n < 2 ^ bits) :
    countOf? bits (.integer n) = some n := by
  have hpow : (n : Int) < Nat.pow 2 bits := Int.ofNat_lt.mpr h
  rw [countOf?, if_pos ⟨Int.natCast_nonneg n, hpow⟩, Int.toNat_natCast]

theorem fieldOr_some {α : Type} (usual : α) (decode : Node → Option α) (node : Node) :
    fieldOr usual decode (some node) = decode node := by
  rw [fieldOr]

theorem countIn?_table {bits n : Nat} (h : n < 2 ^ bits) (name : String) (usual : Nat) :
    countIn? name bits usual (.table .header [(name, .integer n)]) = some n := by
  simp [countIn?, fieldsOf?, find?, fieldOr_some, countOf?_integer h]

theorem NewtonSettings.ofNode?_fields {s : NewtonSettings} (h : s.maxIterations < 2 ^ 64)
    (usual : NewtonSettings) :
    ofNode? usual (.table .header (s.fields.map WrittenField.entry)) = some s := by
  simp [ofNode?, fields, fieldsOf?, find?, WrittenField.entry, seedsField, countField, numberField,
    List.lookup_cons, fieldOr_some, floatOf?, floatsOf?_map_float, countOf?_integer h]

/-- **The tree gives the settings back.** -/
theorem Settings.ofEntries?_tree (hiterations : s.newton.maxIterations < 2 ^ 64)
    (hplaces : s.decimalPlaces < 2 ^ 32) (hdegree : s.maxDegree < 2 ^ 64) :
    Settings.ofEntries? s.tree = some s := by
  simp [Settings.ofEntries?, tree, find?, List.lookup_cons, fieldOr_some,
    NewtonSettings.ofNode?_fields hiterations, countIn?_table hplaces, countIn?_table hdegree]

/-! ## Settings as text -/

theorem Settings.usable_of_ofToml (h : Settings.ofToml text = .ok s) : s.Usable := by
  unfold ofToml at h
  split at h
  · cases h
  · split at h
    · cases h
    · obtain rfl := Except.ok.inj h
      exact fault?_eq_none_iff.mp ‹_›

/-- **Settings are read again as they were written**, or refused for their first fault; and what is
accepted from any text may be used. The whole numbers are those of their types that a document has.
Of the finite numbers it is taken for granted that the shortest decimal reads back. -/
theorem Settings.ofToml_toToml (hiterations : s.newton.maxIterations < tomlBound)
    (hplaces : s.decimalPlaces < 2 ^ 32) (hdegree : s.maxDegree < tomlBound)
    (htolerance : ReadsAgain s.newton.tolerance)
    (hseeds : ∀ seed ∈ s.newton.seeds, ReadsAgain seed) :
    (∃ text, s.toToml? = some text ∧ Settings.ofToml text =
      match s.fault? with
      | none => .ok s
      | some fault => .error (.refused fault)) ∧
    ∀ text accepted, Settings.ofToml text = .ok accepted → accepted.Usable := by
  have hbound : tomlBound = 2 ^ 63 := rfl
  refine ⟨?_, fun text accepted => usable_of_ofToml⟩
  obtain ⟨text, htext⟩ : ∃ text, s.toToml? = some text := ⟨_, if_pos ⟨hiterations, hdegree⟩⟩
  have hread := read?_of_toToml? hiterations (by omega) hdegree htolerance hseeds htext
  have hsettings : (Toml.read? text).bind Settings.ofEntries? = some s := by
    rw [hread]
    exact ofEntries?_tree (by omega) hplaces (by omega)
  refine ⟨text, htext, ?_⟩
  simp only [ofToml, hsettings]
  rcases s.fault? with _ | fault <;> rfl

/-- Settings whose seeds are a negative zero and an infinity. -/
def Settings.unbounded : Settings := { newton := { seeds := [-0, 1 / 0] } }

theorem Settings.readsAgain_usual : ReadsAgain ({} : Settings).newton.tolerance ∧
    (∀ seed ∈ ({} : Settings).newton.seeds, ReadsAgain seed) ∧
      ∀ seed ∈ unbounded.newton.seeds, ReadsAgain seed := by
  simp only [unbounded, List.forall_mem_cons]
  refine ⟨?_, ⟨?_, ?_, ?_, ?_, ?_, List.forall_mem_nil _⟩, ?_, ?_, List.forall_mem_nil _⟩
  all_goals
    unfold ReadsAgain
    decide +kernel

/-- The usual settings are accepted, and those with an infinite seed are refused. -/
theorem Settings.ofToml_toToml_usual :
    (∃ text, ({} : Settings).toToml? = some text ∧ Settings.ofToml text = .ok {}) ∧
    ∃ text, unbounded.toToml? = some text ∧
      Settings.ofToml text = .error (.refused .seedNotFinite) := by
  have hbound : 100 < tomlBound ∧ 64 < tomlBound := by decide
  obtain ⟨htolerance, husual, hunbounded⟩ := readsAgain_usual
  constructor
  · have hfault : ({} : Settings).fault? = none := by decide +kernel
    obtain ⟨text, htext, hread⟩ :=
      (ofToml_toToml hbound.1 (by decide) hbound.2 htolerance husual).1
    rw [hfault] at hread
    exact ⟨text, htext, hread⟩
  · have hfault : unbounded.fault? = some .seedNotFinite := by decide +kernel
    obtain ⟨text, htext, hread⟩ :=
      (ofToml_toToml (s := unbounded) hbound.1 (by decide) hbound.2 htolerance hunbounded).1
    rw [hfault] at hread
    exact ⟨text, htext, hread⟩

end OneUnknown
