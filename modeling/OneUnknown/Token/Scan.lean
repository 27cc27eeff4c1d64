import OneUnknown.Number.Numeral
import OneUnknown.Text.Blank
import OneUnknown.Text.Canonical
import OneUnknown.Text.IdentifierStart
import OneUnknown.Token

/-!
# The tokens of a text

A text is brought to its composed form and cut into tokens from the left. Blanks separate tokens
and mean nothing themselves. Digits and points that stand together are one number, superscript
digits that stand together are one exponent, and every other token is a single character.

* `symbol?`, `superscriptDigit?`, `isLiteralChar`: the classes of characters;
* `Cursor`: a place in a text, `Cursor.next`: the token found there and the place behind it;
* `Cursor.length_rest_of_next`: a token other than the end uses up characters;
* **`tokens`**: all tokens of a text, or its leftmost error.
-/

namespace OneUnknown

/-! ## Classes of characters -/

/-- The sign that a character stands for. -/
def symbol? : Char → Option TokenKind
  | '+' => some .plus
  | '-' | '−' => some .minus
  | '*' | '×' | '·' => some .star
  | '/' | '÷' => some .slash
  | '^' => some .caret
  | '=' => some .equals
  | '(' => some .openParen
  | ')' => some .closeParen
  | _ => none

/-- The digit that a superscript stands for. -/
def superscriptDigit? : Char → Option Nat
  | '⁰' => some 0
  | '¹' => some 1
  | '²' => some 2
  | '³' => some 3
  | '⁴' => some 4
  | '⁵' => some 5
  | '⁶' => some 6
  | '⁷' => some 7
  | '⁸' => some 8
  | '⁹' => some 9
  | _ => none

/-- A superscript digit. -/
def isSuperscript (c : Char) : Bool := (superscriptDigit? c).isSome

/-- A digit or a decimal point. -/
def isLiteralChar (c : Char) : Bool := c.isDigit || c == '.'

/-! ## Numbers and exponents -/

/-- The greatest exponent, the last one of 32 bits. -/
def maxExponent : Nat := Nat.pow 2 32 - 1

/-- The value of superscript digits that follow a value already read. -/
def superscriptValue (value : Nat) (ds : List Char) : Nat :=
  ds.foldl (fun value c => 10 * value + (superscriptDigit? c).getD 0) value

/-- How many superscript digits it takes to exceed the greatest exponent, if they do. -/
def overflowLength? (value : Nat) : List Char → Option Nat
  | [] => none
  | c :: rest =>
    let next := 10 * value + (superscriptDigit? c).getD 0
    if maxExponent < next then some 1 else (overflowLength? next rest).map (· + 1)

/-! ## One token -/

/-- **A place in a text**: the characters still to be read and the column of the first of them. -/
structure Cursor where
  column : Nat
  rest : List Char

namespace Cursor

/-- The start of a text, in its composed form. -/
def start (text : String) : Cursor := ⟨1, composed text.toList⟩

/-- The place `count` characters further on. -/
def advance (cursor : Cursor) (count : Nat) : Cursor :=
  ⟨cursor.column + count, cursor.rest.drop count⟩

/-- The place of the next character that is not blank. -/
def skipBlanks (cursor : Cursor) : Cursor :=
  cursor.advance (cursor.rest.takeWhile isBlank).length

/-- The token of the given kind and length found here. -/
def take (cursor : Cursor) (kind : TokenKind) (count : Nat) : Except LexError Token × Cursor :=
  (.ok ⟨kind, String.ofList (cursor.rest.take count), cursor.column⟩, cursor.advance count)

/-- The number found here, whose characters are `run`. A lone point is refused by itself; of a
literal with a second point all characters are refused together. -/
def number (cursor : Cursor) (run : List Char) : Except LexError Token × Cursor :=
  let refuse (count : Nat) : Except LexError Token × Cursor :=
    (.error (.invalidNumber (String.ofList (run.take count)) cursor.column), cursor.advance count)
  let value := literalValue run
  if run = ['.'] ∨ run.take 2 = ['.', '.'] then refuse 1
  else if 1 < run.count '.' then refuse run.length
  else if value.isFinite then cursor.take (.number value) run.length
  else refuse run.length

/-- The exponent found here, whose superscript digits are `run`. -/
def superscript (cursor : Cursor) (run : List Char) : Except LexError Token × Cursor :=
  match overflowLength? 0 run with
  | some count =>
    (.error (.exponentTooLarge (String.ofList (run.take count)) cursor.column),
      cursor.advance (count - 1))
  | none => cursor.take (.superscript (superscriptValue 0 run)) run.length

/-- The token found here, where no blank stands. -/
def token (cursor : Cursor) : Except LexError Token × Cursor :=
  match cursor.rest with
  | [] => cursor.take .endOfInput 0
  | c :: _ =>
    match symbol? c with
    | some kind => cursor.take kind 1
    | none =>
      if isLiteralChar c then cursor.number (cursor.rest.takeWhile isLiteralChar)
      else if isSuperscript c then cursor.superscript (cursor.rest.takeWhile isSuperscript)
      else if isIdentifierStart c then cursor.take (.letter c) 1
      else (.error (.unexpectedCharacter c cursor.column), cursor)

/-- **The next token**, or an error, and the place from which reading goes on. -/
def next (cursor : Cursor) : Except LexError Token × Cursor := cursor.skipBlanks.token

/-! ## Progress -/

section

variable {cursor after : Cursor} {t : Token}

theorem length_rest_advance (cursor : Cursor) (count : Nat) :
    (cursor.advance count).rest.length = cursor.rest.length - count := by
  simp [advance]

theorem length_rest_skipBlanks_le (cursor : Cursor) :
    cursor.skipBlanks.rest.length ≤ cursor.rest.length := by
  simp [skipBlanks, advance]

theorem eq_advance_of_take {kind : TokenKind} {count : Nat}
    (h : cursor.take kind count = (.ok t, after)) : after = cursor.advance count := by
  simp only [take, Prod.mk.injEq] at h
  exact h.2.symm

theorem eq_advance_of_number {run : List Char} (h : cursor.number run = (.ok t, after)) :
    after = cursor.advance run.length := by
  simp only [number] at h
  split at h
  · simp at h
  · split at h
    · simp at h
    · split at h
      · exact eq_advance_of_take h
      · simp at h

theorem eq_advance_of_superscript {run : List Char}
    (h : cursor.superscript run = (.ok t, after)) : after = cursor.advance run.length := by
  simp only [superscript] at h
  split at h
  · simp at h
  · exact eq_advance_of_take h

theorem length_rest_of_token (h : cursor.token = (.ok t, after)) (ht : t.kind.isEnd = false) :
    after.rest.length < cursor.rest.length := by
  unfold token at h
  split at h
  · simp only [take, Prod.mk.injEq, Except.ok.injEq] at h
    rw [← h.1] at ht
    simp [TokenKind.isEnd] at ht
  · rename_i c rest hrest
    have shorter : ∀ count, 0 < count → after = cursor.advance count →
        after.rest.length < cursor.rest.length := by
      rintro count hc rfl
      rw [length_rest_advance, hrest]
      simp only [List.length_cons]
      omega
    split at h
    · exact shorter 1 (by omega) (eq_advance_of_take h)
    · split at h
      · rename_i hc
        exact shorter _ (by simp [hrest, hc]) (eq_advance_of_number h)
      · split at h
        · rename_i hc
          exact shorter _ (by simp [hrest, hc]) (eq_advance_of_superscript h)
        · split at h
          · exact shorter 1 (by omega) (eq_advance_of_take h)
          · simp at h

theorem length_rest_of_next (h : cursor.next = (.ok t, after)) (ht : t.kind.isEnd = false) :
    after.rest.length < cursor.rest.length :=
  Nat.lt_of_lt_of_le (length_rest_of_token h ht) (length_rest_skipBlanks_le cursor)

end

/-! ## All tokens -/

/-- **The tokens from here on**, up to the end of input or the first error. -/
def tokens (cursor : Cursor) : Except LexError (List Token) :=
  match _h : cursor.next with
  | (.error e, _) => .error e
  | (.ok t, after) =>
    if _ht : t.kind.isEnd then .ok [t] else after.tokens.map (t :: ·)
termination_by cursor.rest.length
decreasing_by exact length_rest_of_next _h (by simpa using _ht)

end Cursor

/-- **The tokens of a text**, the end of input included, or its leftmost error. -/
def tokens (text : String) : Except LexError (List Token) := (Cursor.start text).tokens

end OneUnknown
