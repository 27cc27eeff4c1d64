import OneUnknown.Number.Numeral
import OneUnknown.Toml.Node

/-!
# The words of TOML

Blanks, comments, keys, texts, numbers and dates. Every function reads one thing at the start of
the characters and returns it with the characters behind it, or nothing if it is not there.

* `Read`: such a function;
* `skipBlanks`, `skipComment`, `lineEnd?`, `skipLayout`: what separates words;
* `simpleKey?`, `text?`: keys and texts;
* `date?`, `float?`, `integer?`, **`number?`**: what begins with a digit or a sign.
-/

namespace OneUnknown.Toml

/-- **Reads something at the start of the characters.** -/
abbrev Read (α : Type) := List Char → Option (α × List Char)

/-- The characters behind a given beginning. -/
def behind? : List Char → List Char → Option (List Char)
  | [], cs => some cs
  | w :: word, c :: cs => if w = c then behind? word cs else none
  | _ :: _, [] => none

/-- The characters up to the first one without the property, and the others. -/
def span (p : Char → Bool) (cs : List Char) : List Char × List Char :=
  (cs.takeWhile p, cs.dropWhile p)

/-! ## Blanks, comments and lines -/

/-- A space or a tab. -/
def isSpace (c : Char) : Bool := c == ' ' || c == '\t'

/-- A character that may stand in a comment: no control character but the tab. -/
def isPrintable (c : Char) : Bool := c == '\t' || (' ' ≤ c && c ≠ '\x7f')

/-- The characters behind spaces and tabs. -/
def skipBlanks (cs : List Char) : List Char := cs.dropWhile isSpace

/-- The characters behind a line feed, or behind a carriage return and a line feed. -/
def newline? : List Char → Option (List Char)
  | '\n' :: rest => some rest
  | '\r' :: '\n' :: rest => some rest
  | _ => none

/-- The characters behind a comment, if there is one. -/
def skipComment : List Char → List Char
  | '#' :: rest => rest.dropWhile isPrintable
  | cs => cs

/-- The characters of the next line, if nothing but a comment stands on this one. -/
def lineEnd? (cs : List Char) : Option (List Char) :=
  match skipComment (skipBlanks cs) with
  | [] => some []
  | rest => newline? rest

/-- The characters behind blanks, comments and line ends, given a bound on their lines. -/
def skipLayoutWithin : Nat → List Char → List Char
  | 0, cs => cs
  | bound + 1, cs =>
    match newline? (skipComment (skipBlanks cs)) with
    | some rest => skipLayoutWithin bound rest
    | none => skipBlanks cs

/-- The characters behind blanks, comments and line ends. -/
def skipLayout (cs : List Char) : List Char := skipLayoutWithin cs.length cs

/-- The characters behind blanks and line ends, given a bound on their lines. -/
def skipBlankLinesWithin : Nat → List Char → List Char
  | 0, cs => cs
  | bound + 1, cs =>
    match newline? (skipBlanks cs) with
    | some rest => skipBlankLinesWithin bound rest
    | none => skipBlanks cs

/-- The characters behind blanks and line ends. -/
def skipBlankLines (cs : List Char) : List Char := skipBlankLinesWithin cs.length cs

/-! ## Texts -/

/-- A hexadecimal digit's value. -/
def hexValue? (c : Char) : Option Nat :=
  if '0' ≤ c ∧ c ≤ '9' then some (c.toNat - 48)
  else if 'a' ≤ c ∧ c ≤ 'f' then some (c.toNat - 87)
  else if 'A' ≤ c ∧ c ≤ 'F' then some (c.toNat - 55)
  else none

/-- The character whose code point is written with `count` hexadecimal digits. -/
def codePoint? (count : Nat) : Read Char := fun cs => do
  let ds ← (cs.take count).mapM hexValue?
  let code := ds.foldl (fun code d => 16 * code + d) 0
  if ds.length = count ∧ code.isValidChar then
    return (Char.ofNat code, cs.drop count)
  else none

/-- The character that an escape stands for, behind its backslash. -/
def escape? : Read Char
  | 'b' :: rest => some ('\x08', rest)
  | 't' :: rest => some ('\t', rest)
  | 'n' :: rest => some ('\n', rest)
  | 'f' :: rest => some ('\x0c', rest)
  | 'r' :: rest => some ('\r', rest)
  | '"' :: rest => some ('"', rest)
  | '\\' :: rest => some ('\\', rest)
  | 'u' :: rest => codePoint? 4 rest
  | 'U' :: rest => codePoint? 8 rest
  | _ => none

/-- The characters behind a backslash that joins lines: behind the line end and all blanks and
line ends after it. -/
def joinedLine? (cs : List Char) : Option (List Char) :=
  (newline? (skipBlanks cs)).map skipBlankLines

/-- How a text is written: the quote around it, whether backslashes escape, and whether it may
have several lines. -/
structure TextStyle where
  quote : Char
  escapes : Bool
  multiline : Bool

/-- The number of quotes that close a text. -/
def TextStyle.closing (style : TextStyle) : Nat := if style.multiline then 3 else 1

/-- The rest of a text, given a bound on its length. Up to two quotes may stand right before the
three that close a text of several lines. -/
def textWithin (style : TextStyle) : Nat → Read (List Char)
  | 0, _ => none
  | bound + 1, cs =>
    let quotes := (cs.takeWhile (· == style.quote)).length
    if style.closing ≤ quotes then
      let inside := if style.multiline then min (quotes - 3) 2 else 0
      some (List.replicate inside style.quote, cs.drop (inside + style.closing))
    else do
      let (c?, rest) ← match cs with
        | [] => none
        | '\\' :: rest =>
          if !style.escapes then some (some '\\', rest)
          else match style.multiline, joinedLine? rest with
            | true, some rest => some (none, rest)
            | _, _ => (escape? rest).map fun (c, rest) => (some c, rest)
        | c :: rest =>
          if isPrintable c then some (some c, rest)
          else if !style.multiline then none
          else (newline? cs).map fun rest => (some '\n', rest)
      let (more, rest) ← textWithin style bound rest
      return (c?.toList ++ more, rest)

/-- A text in the given style. A line end right behind three quotes is left out. -/
def textIn? (style : TextStyle) : Read (List Char) := fun cs => do
  let rest ← behind? (List.replicate style.closing style.quote) cs
  let rest := if style.multiline then (newline? rest).getD rest else rest
  textWithin style (rest.length + 1) rest

/-- A text on one line. -/
def lineText? : Read (List Char) := fun cs =>
  match cs with
  | '"' :: _ => textIn? ⟨'"', true, false⟩ cs
  | '\'' :: _ => textIn? ⟨'\'', false, false⟩ cs
  | _ => none

/-- **A text** in any style. -/
def text? : Read (List Char) := fun cs =>
  match cs with
  | '"' :: '"' :: '"' :: _ => textIn? ⟨'"', true, true⟩ cs
  | '\'' :: '\'' :: '\'' :: _ => textIn? ⟨'\'', false, true⟩ cs
  | _ => lineText? cs

/-! ## Keys -/

/-- A character that a key may have without quotes. -/
def isKeyChar (c : Char) : Bool := c.isAlphanum || c == '_' || c == '-'

/-- One part of a key. -/
def simpleKey? : Read String := fun cs =>
  match cs with
  | '"' :: _ | '\'' :: _ => (lineText? cs).map fun (key, rest) => (String.ofList key, rest)
  | _ =>
    let (key, rest) := span isKeyChar cs
    if key.isEmpty then none else some (String.ofList key, rest)

/-- The greatest depth that is read. -/
def depthLimit : Nat := 79

/-- The parts of a key, divided by dots and given a bound on their number, and what is behind. -/
def keyWithin : Nat → Read (List String)
  | 0, _ => none
  | bound + 1, cs => do
    let (part, rest) ← simpleKey? (skipBlanks cs)
    match skipBlanks rest with
    | '.' :: rest =>
      let (parts, rest) ← keyWithin bound rest
      return (part :: parts, rest)
    | rest => return ([part], rest)

/-- **A key**: its parts before the last one, and the last one. -/
def key? : Read (List String × String) := fun cs => do
  let (parts, rest) ← keyWithin depthLimit cs
  let last ← parts.getLast?
  return ((parts.dropLast, last), rest)

/-! ## Numbers -/

/-- Digits behind one that has been read, of which an underscore may divide any two. -/
def moreDigits (p : Char → Bool) : List Char → List Char × List Char
  | '_' :: d :: rest =>
    if p d then
      let (ds, rest) := moreDigits p rest
      (d :: ds, rest)
    else ([], '_' :: d :: rest)
  | d :: rest =>
    if p d then
      let (ds, rest) := moreDigits p rest
      (d :: ds, rest)
    else ([], d :: rest)
  | [] => ([], [])

/-- A row of digits; underscores between them are left out. -/
def digits? (p : Char → Bool) : Read (List Char)
  | d :: rest =>
    if p d then
      let (ds, rest) := moreDigits p rest
      some (d :: ds, rest)
    else none
  | [] => none

/-- A sign, if there is one: whether it is a minus. -/
def sign : List Char → Bool × List Char
  | '-' :: rest => (true, rest)
  | '+' :: rest => (false, rest)
  | cs => (false, cs)

/-- A decimal numeral without idle zeros in front. -/
def numeral? : Read (List Char)
  | '0' :: rest => some (['0'], rest)
  | cs => digits? Char.isDigit cs

/-- The digits behind a point, if there is one. -/
def fraction? : Read (List Char)
  | '.' :: rest => digits? Char.isDigit rest
  | cs => some ([], cs)

/-- The power of ten behind an `e`, if there is one. -/
def exponent? : Read Int
  | c :: rest =>
    if c = 'e' ∨ c = 'E' then do
      let (negative, rest) := sign rest
      let (ds, rest) ← digits? Char.isDigit rest
      return ((if negative then -(ofDigits ds : Int) else ofDigits ds), rest)
    else some (0, c :: rest)
  | [] => some (0, [])

/-- Infinity and `nan`, with or without a sign. -/
def specialFloat? : Read Float := fun cs =>
  let (negative, cs) := sign cs
  let signed (x : Float) : Float := if negative then -x else x
  match behind? ['i', 'n', 'f'] cs, behind? ['n', 'a', 'n'] cs with
  | some rest, _ => some (signed (1 / 0), rest)
  | none, some rest => some (signed (0 / 0), rest)
  | none, none => none

/-- **A floating-point number**: a numeral with a fraction or a power of ten. It must not exceed
the range upwards. -/
def float? : Read Float := fun cs => do
  let (negative, unsigned) := sign cs
  let (whole, afterWhole) ← numeral? unsigned
  let (fraction, afterFraction) ← fraction? afterWhole
  let (power, rest) ← exponent? afterFraction
  let magnitude := nearestFloat (ofDigits (whole ++ fraction)) (power - fraction.length)
  let value := if negative then -magnitude else magnitude
  if rest.length = afterWhole.length || value == 1 / 0 then none
  else return (value, rest)

/-- A number in a base other than ten, behind its mark. -/
def based? (base : Nat) : Read Int := fun cs => do
  let isDigit (c : Char) : Bool := (hexValue? c).any (· < base)
  let (ds, rest) ← digits? isDigit cs
  let value := ds.foldl (fun value c => base * value + (hexValue? c).getD 0) 0
  return ((value : Int), rest)

/-- An integer of any size. -/
def anyInteger? : Read Int := fun cs =>
  match cs with
  | '0' :: 'x' :: rest => based? 16 rest
  | '0' :: 'o' :: rest => based? 8 rest
  | '0' :: 'b' :: rest => based? 2 rest
  | _ => do
    let (negative, rest) := sign cs
    let (ds, rest) ← numeral? rest
    return ((if negative then -(ofDigits ds : Int) else ofDigits ds), rest)

/-- **An integer** of 64 bits. -/
def integer? : Read Int := fun cs => do
  let (value, rest) ← anyInteger? cs
  if -(Nat.pow 2 63 : Int) ≤ value ∧ value < Nat.pow 2 63 then return (value, rest) else none

/-! ## Dates -/

/-- A number with exactly `count` digits, within bounds. -/
def fixedNumber? (count least greatest : Nat) : Read Nat := fun cs =>
  let ds := cs.take count
  let value := ofDigits ds
  if ds.length = count ∧ ds.all Char.isDigit ∧ least ≤ value ∧ value ≤ greatest then
    some (value, cs.drop count)
  else none

/-- The number of days of a month. -/
def daysIn (year month : Nat) : Nat :=
  if month = 2 then
    if year % 4 = 0 ∧ (year % 100 ≠ 0 ∨ year % 400 = 0) then 29 else 28
  else if month = 4 ∨ month = 6 ∨ month = 9 ∨ month = 11 then 30
  else 31

/-- What is behind a day of the calendar. -/
def afterDay? (cs : List Char) : Option (List Char) := do
  let (year, rest) ← fixedNumber? 4 0 9999 cs
  let rest ← behind? ['-'] rest
  let (month, rest) ← fixedNumber? 2 1 12 rest
  let rest ← behind? ['-'] rest
  let (_, rest) ← fixedNumber? 2 1 (daysIn year month) rest
  return rest

/-- What is behind a time of the day, whose seconds may have a fraction. -/
def afterTime? (cs : List Char) : Option (List Char) := do
  let (_, rest) ← fixedNumber? 2 0 23 cs
  let rest ← behind? [':'] rest
  let (_, rest) ← fixedNumber? 2 0 59 rest
  let rest ← behind? [':'] rest
  let (_, rest) ← fixedNumber? 2 0 60 rest
  match rest with
  | '.' :: d :: more => if d.isDigit then return more.dropWhile Char.isDigit else return rest
  | _ => return rest

/-- What is behind the distance from universal time, if there is one. -/
def afterOffset? (cs : List Char) : Option (List Char) :=
  match cs with
  | 'Z' :: rest | 'z' :: rest => some rest
  | '+' :: rest | '-' :: rest => do
    let (_, rest) ← fixedNumber? 2 0 23 rest
    let rest ← behind? [':'] rest
    let (_, rest) ← fixedNumber? 2 0 59 rest
    return rest
  | _ => some cs

/-- What is behind a day and, if it follows, a time. -/
def afterDate? (cs : List Char) : Option (List Char) := do
  let rest ← afterDay? cs
  match rest with
  | c :: more =>
    if c = 'T' ∨ c = 't' ∨ c = ' ' then
      match afterTime? more with
      | some rest => afterOffset? rest
      | none => return rest
    else return rest
  | [] => return rest

/-- **A date**, a time, or both. -/
def date? : Read String := fun cs => do
  let rest ← (afterDate? cs).or (afterTime? cs)
  return (String.ofList (cs.take (cs.length - rest.length)), rest)

/-! ## What begins with a digit or a sign -/

/-- **A date or a number.** -/
def number? : Read Node := fun cs =>
  match date? cs, specialFloat? cs, float? cs, integer? cs with
  | some (day, rest), _, _, _ => some (.date day, rest)
  | none, some (x, rest), _, _ => some (.float x, rest)
  | none, none, some (x, rest), _ => some (.float x, rest)
  | none, none, none, some (n, rest) => some (.integer n, rest)
  | none, none, none, none => none

end OneUnknown.Toml
