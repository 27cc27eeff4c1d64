import OneUnknown.Number.Shortest
import OneUnknown.Settings
import OneUnknown.Toml.Document

/-!
# Settings as text

Settings are kept in a TOML document with the tables `newton`, `format` and `parser`. What a
document leaves out keeps its usual value, and what it has besides is disregarded.

* `tomlFloat`, `tomlSeeds`, **`Settings.toToml?`**: settings as a document;
* `NewtonSettings.ofNode?`, `Settings.ofEntries?`: settings from the tree of a document;
* **`SettingsError`**, **`Settings.ofToml`**: settings from text, if they may be used.
-/

namespace OneUnknown

open Toml (Node Entries)

/-! ## Writing -/

/-- The number has no fraction. -/
def isWhole (x : Float) : Bool :=
  (Dyadic.ofFloat? x).any fun d => d.numerator % d.denominator == 0

/-- A number in a document: always with a point or a name, so that it is no integer. -/
def tomlFloat (x : Float) : String :=
  if x.isNaN then "nan" else if isWhole x then plainText x ++ ".0" else plainText x

/-- The seeds in a document. Several stand on lines of their own. -/
def tomlSeeds : List Float → String
  | [] => "[]"
  | [seed] => "[" ++ tomlFloat seed ++ "]"
  | seeds => "[\n" ++ String.join (seeds.map fun seed => "    " ++ tomlFloat seed ++ ",\n") ++ "]"

/-- The least number that is no integer of a document. -/
def tomlBound : Nat := Nat.pow 2 63

/-- What is said if a number of the settings cannot be written. -/
def unwritableSettings : String :=
  "serializing solver config: out-of-range value for u64 type"

/-- **Settings as a document**, if their whole numbers can be written. -/
def Settings.toToml? (s : Settings) : Option String :=
  if s.newton.maxIterations < tomlBound ∧ s.maxDegree < tomlBound then
    some ("[newton]\nseeds = " ++ tomlSeeds s.newton.seeds ++
      "\nmax_iterations = " ++ natText s.newton.maxIterations ++
      "\ntolerance = " ++ tomlFloat s.newton.tolerance ++
      "\n\n[format]\ndecimal_places = " ++ natText s.decimalPlaces ++
      "\n\n[parser]\nmax_degree = " ++ natText s.maxDegree ++ "\n")
  else none

/-! ## Reading -/

/-- A number; integers count as numbers. -/
def floatOf? : Node → Option Float
  | .float x => some x
  | .integer n => some (Float.ofInt n)
  | _ => none

/-- A whole number of at most the given number of bits. -/
def countOf? (bits : Nat) : Node → Option Nat
  | .integer n => if 0 ≤ n ∧ n < Nat.pow 2 bits then some n.toNat else none
  | _ => none

/-- A list of numbers. -/
def floatsOf? : Node → Option (List Float)
  | .array items => items.mapM floatOf?
  | _ => none

/-- **The fields of a record**, looked up by name. A record may also be written as an array, whose
items are its fields in order; a date is a record without any of the fields. -/
def fieldsOf? (names : List String) : Node → Option (String → Option Node)
  | .table _ entries => some (Toml.find? entries)
  | .array items => some (Toml.find? (names.zip items))
  | .tables rows => some (Toml.find? (names.zip (rows.map (Node.table .header))))
  | .date _ => some fun _ => none
  | _ => none

/-- A field, or its usual value if it is left out. -/
def fieldOr {α : Type} (usual : α) (decode : Node → Option α) : Option Node → Option α
  | none => some usual
  | some node => decode node

/-- The table `newton`. -/
def NewtonSettings.ofNode? (usual : NewtonSettings) (node : Node) : Option NewtonSettings := do
  let field ← fieldsOf? ["seeds", "max_iterations", "tolerance"] node
  let seeds ← fieldOr usual.seeds floatsOf? (field "seeds")
  let maxIterations ← fieldOr usual.maxIterations (countOf? 64) (field "max_iterations")
  let tolerance ← fieldOr usual.tolerance floatOf? (field "tolerance")
  return { seeds, maxIterations, tolerance }

/-- A table whose only setting is a whole number. -/
def countIn? (name : String) (bits usual : Nat) (node : Node) : Option Nat := do
  let field ← fieldsOf? [name] node
  fieldOr usual (countOf? bits) (field name)

/-- **The settings in a tree.** -/
def Settings.ofEntries? (entries : Entries) : Option Settings := do
  let usual : Settings := {}
  let field := Toml.find? entries
  let newton ← fieldOr usual.newton (NewtonSettings.ofNode? usual.newton) (field "newton")
  let decimalPlaces ←
    fieldOr usual.decimalPlaces (countIn? "decimal_places" 32 usual.decimalPlaces) (field "format")
  let maxDegree ←
    fieldOr usual.maxDegree (countIn? "max_degree" 64 usual.maxDegree) (field "parser")
  return { newton, decimalPlaces, maxDegree }

/-! ## Settings from text -/

/-- **Why a text gives no settings.** -/
inductive SettingsError where
  /-- It is no TOML document, or a setting is not of its kind. -/
  | unreadable
  /-- The settings may not be used. -/
  | refused (fault : SettingsFault)

/-- What is said about settings that cannot be read. -/
def unreadableSettings : String := "parsing solver config"

/-- **The settings that a text gives**, if they may be used. -/
def Settings.ofToml (text : String) : Except SettingsError Settings :=
  match (Toml.read? text).bind Settings.ofEntries? with
  | none => .error .unreadable
  | some settings =>
    match settings.fault? with
    | some fault => .error (.refused fault)
    | none => .ok settings

end OneUnknown
