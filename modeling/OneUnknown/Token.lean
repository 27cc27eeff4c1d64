import OneUnknown.Number.Numeral
import OneUnknown.Number.Shortest

/-!
# Tokens of an equation

An equation is a row of numbers, variables, superscript exponents and signs, closed by the end of
input. Every token knows its spelling and the column of its first character, counted from 1 in
the composed text.

* `TokenKind`, `Token`: what a token is and where it stands;
* **`LexError`**: the three ways in which a text is no row of tokens, with their wording.
-/

namespace OneUnknown

/-! ## Tokens -/

/-- **What a token is.** Numbers, letters and superscripts carry their value. -/
inductive TokenKind where
  | number (value : Float)
  | letter (name : Char)
  | superscript (value : Nat)
  | plus
  | minus
  | star
  | slash
  | caret
  | equals
  | openParen
  | closeParen
  | endOfInput

namespace TokenKind

/-- The name of a kind, the sign itself where it is one. -/
def name : TokenKind → String
  | number _ => "number"
  | letter _ => "variable"
  | superscript _ => "superscript exponent"
  | plus => "+"
  | minus => "-"
  | star => "*"
  | slash => "/"
  | caret => "^"
  | equals => "="
  | openParen => "("
  | closeParen => ")"
  | endOfInput => "end of input"

/-- The kind that closes a row of tokens. -/
def isEnd : TokenKind → Bool
  | endOfInput => true
  | _ => false

/-- The sign between the two sides of an equation. -/
def isEquals : TokenKind → Bool
  | equals => true
  | _ => false

/-- A token with its value, for display. -/
def text : TokenKind → String
  | number value => "Number(" ++ plainText value ++ ")"
  | letter name => "Variable('" ++ name.toString ++ "')"
  | superscript value => "Superscript(" ++ natText value ++ ")"
  | kind => kind.name

end TokenKind

/-- **A token**: its kind, its spelling and the column where it starts. -/
structure Token where
  kind : TokenKind
  lexeme : String
  column : Nat

namespace Token

/-- The token with its column, for display. -/
def text (t : Token) : String := t.kind.text ++ " @" ++ natText t.column

/-- The column behind a token. -/
def endColumn (t : Token) : Nat := t.column + t.lexeme.length

end Token

/-! ## Errors -/

/-- **Why a text is no row of tokens**, with the column of the offending character or literal. -/
inductive LexError where
  /-- No token starts with this character. -/
  | unexpectedCharacter (c : Char) (column : Nat)
  /-- A point without digits, a second point, or a value out of range. -/
  | invalidNumber (literal : String) (column : Nat)
  /-- A superscript beyond the greatest exponent, as far as it was read. -/
  | exponentTooLarge (literal : String) (column : Nat)

namespace LexError

/-- The column of the offending character or literal. -/
def column : LexError → Nat
  | unexpectedCharacter _ column => column
  | invalidNumber _ column => column
  | exponentTooLarge _ column => column

/-- The wording of an error. -/
def message : LexError → String
  | unexpectedCharacter c column =>
    "Unexpected character '" ++ c.toString ++ "' at column " ++ natText column
  | invalidNumber literal column =>
    "Invalid number literal '" ++ literal ++ "' at column " ++ natText column
  | exponentTooLarge literal column =>
    "Exponent '" ++ literal ++ "' is too large at column " ++ natText column

end LexError

end OneUnknown
