import OneUnknown.Number.Numeral

/-!
# Colours and weights on a terminal

Parts of the output are set off by colour where the terminal shows colours, and are plain text
elsewhere.

* `Colour`, `Style`: what may set a text off;
* **`Style.paint`**: a text in a style, with or without colours;
* the styles of this program: `Style.error`, `Style.alert` and so on.
-/

namespace OneUnknown

/-! ## Styles -/

/-- A colour of the foreground. -/
inductive Colour where
  | red
  | green
  | brightRed
  | brightWhite
  | mixed (r g b : Nat)

/-- The numbers by which a terminal knows a colour. -/
def Colour.codes : Colour → List Nat
  | red => [31]
  | green => [32]
  | brightRed => [91]
  | brightWhite => [97]
  | mixed r g b => [38, 2, r, g, b]

/-- **A style**: a weight and a colour. -/
structure Style where
  bold : Bool := false
  dimmed : Bool := false
  colour? : Option Colour := none

namespace Style

/-- The numbers by which a terminal knows a style, weights first. -/
def codes (style : Style) : List Nat :=
  (if style.bold then [1] else []) ++ (if style.dimmed then [2] else []) ++
    (style.colour?.map Colour.codes).getD []

/-- The sequence that begins a style. -/
def start (style : Style) : String :=
  "\x1b[" ++ ";".intercalate (style.codes.map natText) ++ "m"

/-- A text in which `start` stands behind every sequence that ends a style. -/
def resume (start : List Char) : List Char → List Char
  | '\x1b' :: '[' :: '0' :: 'm' :: rest => '\x1b' :: '[' :: '0' :: 'm' :: start ++ resume start rest
  | c :: rest => c :: resume start rest
  | [] => []

/-- **A text in a style.** Where a style ends inside the text, this one begins again. -/
def paint (colours : Bool) (style : Style) (text : String) : String :=
  if colours then
    style.start ++ String.ofList (resume style.start.toList text.toList) ++ "\x1b[0m"
  else text

/-! ## The styles of this program -/

/-- The word that introduces an error about an equation. -/
def error : Style := { bold := true, colour? := some .brightRed }

/-- The wording of an error. -/
def wording : Style := { colour? := some .brightWhite }

/-- What points at the place of an error. -/
def marker : Style := { colour? := some .brightRed }

/-- What stays in the background. -/
def faint : Style := { dimmed := true }

/-- What is available. -/
def available : Style := { colour? := some .green }

/-- The word that introduces an error about a command. -/
def alert : Style := { bold := true, colour? := some .red }

/-- The kind that is current. -/
def current : Style := { bold := true, colour? := some (.mixed 0 200 255) }

/-- The sign behind which a person types. -/
def caret : Style := { colour? := some (.mixed 255 240 0) }

/-- The name of the shell in its help. -/
def title : Style := { bold := true, colour? := some (.mixed 0 255 180) }

/-- A heading, and a hint. -/
def heading : Style := { colour? := some (.mixed 130 0 200) }

/-- The frame around the name of the shell. -/
def frame : Style := { colour? := some (.mixed 0 200 255) }

/-- The name of the shell when it starts. -/
def banner : Style := { bold := true, colour? := some (.mixed 255 240 0) }

end Style

end OneUnknown
