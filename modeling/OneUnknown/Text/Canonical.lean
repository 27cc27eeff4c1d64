import OneUnknown.Text.CombiningClass
import OneUnknown.Text.Decomposition

/-!
# The composed canonical form of a text

Texts that differ only in how accents are spelled mean the same. An equation is read in its
composed form, the normalization form NFC: characters are taken apart, the marks of each group
are put in order of their class, and what can be joined is joined again.

* `Hangul.decompose?`, `Hangul.compose?`: syllables, which are computed;
* `decompose`, `reorder`, `recompose`: the three passes, on code points;
* **`composed`**: the composed form of a list of characters;
* `composed_of_forall_lt`: a text below the first combining mark is its own composed form.
-/

namespace OneUnknown

/-! ## Hangul syllables -/

namespace Hangul

/-- The letters of a syllable: a leading consonant, a vowel and perhaps a trailing consonant. -/
def decompose? (code : Nat) : Option (List Nat) :=
  if 0xAC00 ≤ code ∧ code ≤ 0xD7A3 then
    let index := code - 0xAC00
    let leading := 0x1100 + index / 588
    let vowel := 0x1161 + index % 588 / 28
    if index % 28 = 0 then some [leading, vowel]
    else some [leading, vowel, 0x11A7 + index % 28]
  else none

/-- The syllable of a consonant and a vowel, or of a syllable and a trailing consonant. -/
def compose? (first second : Nat) : Option Nat :=
  if 0x1100 ≤ first ∧ first ≤ 0x1112 ∧ 0x1161 ≤ second ∧ second ≤ 0x1175 then
    some (0xAC00 + ((first - 0x1100) * 21 + (second - 0x1161)) * 28)
  else if 0xAC00 ≤ first ∧ first ≤ 0xD7A3 ∧ (first - 0xAC00) % 28 = 0 ∧
      0x11A8 ≤ second ∧ second ≤ 0x11C2 then
    some (first + (second - 0x11A7))
  else none

end Hangul

/-! ## Decomposition -/

/-- **The full decomposition** of a code point. No spelling is more than three steps away. -/
def decompose (code : Nat) : List Nat :=
  match Hangul.decompose? code with
  | some letters => letters
  | none => ((canonicalStep code).flatMap canonicalStep).flatMap canonicalStep

/-! ## Canonical order -/

/-- Moves a mark behind the marks of lower class that follow it. -/
def place (code : Nat) : List Nat → List Nat
  | [] => [code]
  | next :: rest =>
    if combiningClass next ≠ 0 ∧ combiningClass next < combiningClass code then
      next :: place code rest
    else code :: next :: rest

/-- **Orders the marks of every group** by class; marks of one class keep their order. -/
def reorder (codes : List Nat) : List Nat := codes.foldr place []

/-! ## Composition -/

/-- The code point that two code points join into, if there is one. -/
def join? (first second : Nat) : Option Nat :=
  match Hangul.compose? first second with
  | some syllable => some syllable
  | none => wholeOf? joinedPairs first second

/-- A group under composition: the character that starts it and the marks that stayed apart. -/
structure Group where
  base : Nat
  marks : List Nat := []

namespace Group

/-- The spelling of a group. -/
def codes (group : Group) : List Nat := group.base :: group.marks

/-- A mark stays apart if one of its class or a higher one stands between it and the base. -/
def blocks (group : Group) (mark : Nat) : Bool :=
  match group.marks.getLast? with
  | some last => combiningClass mark ≤ combiningClass last
  | none => false

/-- The group in which the code point has been joined to the base. -/
def join? (group : Group) (code : Nat) : Option Group :=
  if group.blocks code then none
  else (OneUnknown.join? group.base code).map fun whole => { group with base := whole }

end Group

/-- Joins what can be joined, given the group that is being built. -/
def recomposeFrom : Option Group → List Nat → List Nat
  | none, [] => []
  | some group, [] => group.codes
  | none, code :: rest =>
    if combiningClass code = 0 then recomposeFrom (some { base := code }) rest
    else code :: recomposeFrom none rest
  | some group, code :: rest =>
    match group.join? code with
    | some joined => recomposeFrom (some joined) rest
    | none =>
      if combiningClass code = 0 then group.codes ++ recomposeFrom (some { base := code }) rest
      else recomposeFrom (some { group with marks := group.marks ++ [code] }) rest

/-- **Joins bases and marks** wherever nothing stands between them. -/
def recompose (codes : List Nat) : List Nat := recomposeFrom none codes

/-! ## The composed form -/

/-- The least combining mark; below it every character is composed already. -/
def firstMark : Char := '\u0300'

/-- **The composed form of a text**, normalization form NFC. -/
def composed (text : List Char) : List Char :=
  if text.all (· < firstMark) then text
  else (recompose (reorder ((text.map Char.toNat).flatMap decompose))).map Char.ofNat

theorem composed_of_forall_lt {text : List Char} (h : ∀ c ∈ text, c < firstMark) :
    composed text = text := by
  rw [composed, if_pos]
  simpa using h

end OneUnknown
