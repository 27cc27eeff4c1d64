/-!
# Decimal numerals

Natural numbers and integers as rows of decimal digits, and the floating-point number nearest to a
decimal.

* `digitChar`, `digitValue`: one digit;
* **`digits`**, **`ofDigits`**: a number and its numeral, inverse to each other
  (`ofDigits_digits`);
* `padded`: a numeral of at least a given length;
* `natText`, `intText`: the texts of whole numbers;
* `nearestFloat`: the number nearest to `coefficient · 10 ^ exponent`;
* **`literalValue`**: the number that digits with at most one point among them stand for.
-/

namespace OneUnknown

/-! ## One digit -/

/-- The digit that stands for a number below ten. -/
def digitChar (d : Nat) : Char := Char.ofNat (48 + d)

/-- The number that a digit stands for. -/
def digitValue (c : Char) : Nat := c.toNat - 48

theorem digitValue_digitChar {d : Nat} (h : d < 10) : digitValue (digitChar d) = d := by
  match d, h with
  | 0, _ | 1, _ | 2, _ | 3, _ | 4, _ | 5, _ | 6, _ | 7, _ | 8, _ | 9, _ => rfl

/-! ## Numerals -/

/-- **The numeral of a number**, without leading zeros. -/
def digits (n : Nat) : List Char :=
  if n < 10 then [digitChar n] else digits (n / 10) ++ [digitChar (n % 10)]
termination_by n
decreasing_by omega

/-- **The number that a row of digits stands for.** -/
def ofDigits (ds : List Char) : Nat := ds.foldl (fun value c => 10 * value + digitValue c) 0

theorem ofDigits_append_singleton (ds : List Char) (c : Char) :
    ofDigits (ds ++ [c]) = 10 * ofDigits ds + digitValue c := by
  simp [ofDigits]

theorem ofDigits_digits (n : Nat) : ofDigits (digits n) = n := by
  induction n using digits.induct with
  | case1 n h => rw [digits, if_pos h]; simp [ofDigits, digitValue_digitChar h]
  | case2 n h ih =>
    rw [digits, if_neg h, ofDigits_append_singleton, ih, digitValue_digitChar (by omega)]
    omega

theorem digits_ne_nil (n : Nat) : digits n ≠ [] := by
  rw [digits]; split <;> simp

/-- A numeral with zeros in front, so that it has at least `width` digits. -/
def padded (width n : Nat) : List Char :=
  List.replicate (width - (digits n).length) '0' ++ digits n

/-! ## Texts -/

/-- The text of a natural number. -/
def natText (n : Nat) : String := String.ofList (digits n)

/-- The text of an integer. -/
def intText (n : Int) : String := if n < 0 then "-" ++ natText n.natAbs else natText n.natAbs

/-! ## Literals -/

/-- **The number nearest to `coefficient · 10 ^ exponent`**, infinite when there is none in range.
Exponents far outside the range are decided by the length of the coefficient alone. -/
def nearestFloat (coefficient : Nat) (exponent : Int) : Float :=
  let length := (digits coefficient).length
  if coefficient = 0 || length + exponent < -400 then 0
  else if 400 < length + exponent then 1 / 0
  else if 0 ≤ exponent then Float.ofScientific coefficient false exponent.toNat
  else Float.ofScientific coefficient true (-exponent).toNat

/-- The digits before and after the point; a text without a point has none after it. -/
def splitPoint (text : List Char) : List Char × List Char :=
  (text.takeWhile (· ≠ '.'), (text.dropWhile (· ≠ '.')).drop 1)

/-- **The number nearest to what a literal says.** -/
def literalValue (text : List Char) : Float :=
  let (whole, fraction) := splitPoint text
  nearestFloat (ofDigits (whole ++ fraction)) (-fraction.length)

end OneUnknown
