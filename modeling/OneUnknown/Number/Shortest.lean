import OneUnknown.Number.Dyadic
import OneUnknown.Number.Numeral

/-!
# The shortest decimal that reads back

A floating-point number stands for every real number nearer to it than to its neighbours. The
shortest decimal in that interval is the multiple of the greatest possible power of ten; of two
such multiples the nearer is taken, and of two equally near the greater.

* `Decimal`: a whole number times a power of ten;
* `Interval`: the reals that round to a number, scaled to whole numbers;
* `Interval.gridPoint?`: the multiple of a power of ten that lies in the interval;
* **`Decimal.shortest`**: the multiple for the greatest power that has one;
* **`plainText`**: its text in positional notation.
-/

namespace OneUnknown

/-! ## Decimals -/

/-- A decimal fraction `coefficient · 10 ^ exponent`. -/
structure Decimal where
  coefficient : Nat
  exponent : Int

/-- Positional notation with `places` digits after the point. -/
def pointed (places coefficient : Nat) : List Char :=
  let ds := padded (places + 1) coefficient
  if places = 0 then ds
  else ds.take (ds.length - places) ++ '.' :: ds.drop (ds.length - places)

/-- The text of a decimal in positional notation. -/
def Decimal.text (d : Decimal) : List Char :=
  if 0 ≤ d.exponent then digits (d.coefficient * Nat.pow 10 d.exponent.toNat)
  else pointed (-d.exponent).toNat d.coefficient

/-! ## The interval of a number -/

/-- The reals that round to a number: `low / unit` to `high / unit` about `middle / unit`. The
ends belong to it when `closed`. -/
structure Interval where
  low : Nat
  middle : Nat
  high : Nat
  unit : Nat
  closed : Bool

namespace Interval

/-- **The interval of a positive number.** The neighbour below a power of two is half as far as the
one above, except at the lowest exponent; a tie between neighbours goes to the even one. -/
def ofDyadic (d : Dyadic) : Interval :=
  let below := if d.significand = Nat.pow 2 52 ∧ -1074 < d.exponent then 1 else 2
  let scale := Nat.pow 2 (d.exponent - 2).toNat
  { low := (4 * d.significand - below) * scale
    middle := 4 * d.significand * scale
    high := (4 * d.significand + 2) * scale
    unit := Nat.pow 2 (2 - d.exponent).toNat
    closed := d.significand % 2 == 0 }

/-- `p / q` lies in the interval. -/
def holds (i : Interval) (p q : Nat) : Bool :=
  let x := p * i.unit
  if i.closed then i.low * q ≤ x && x ≤ i.high * q else i.low * q < x && x < i.high * q

/-- **The multiple of `10 ^ exponent` in the interval** that is nearest to its middle, if there is
one. If any multiple lies in the interval, then one of the two next to the middle does. -/
def gridPoint? (i : Interval) (exponent : Int) : Option Decimal :=
  let up := Nat.pow 10 exponent.toNat
  let q := Nat.pow 10 (-exponent).toNat
  let down := i.middle * q / (i.unit * up)
  let excess := i.middle * q - down * i.unit * up
  match i.holds (down * up) q, i.holds ((down + 1) * up) q with
  | true, true =>
    if 2 * excess < i.unit * up then some ⟨down, exponent⟩ else some ⟨down + 1, exponent⟩
  | true, false => some ⟨down, exponent⟩
  | false, true => some ⟨down + 1, exponent⟩
  | false, false => none

/-- The grid point for the greatest power of ten from `10 ^ exponent` down that has one, among
`tries` powers. -/
def coarsest? (i : Interval) : Nat → Int → Option Decimal
  | 0, _ => none
  | tries + 1, exponent =>
    match i.gridPoint? exponent with
    | some point => some point
    | none => i.coarsest? tries (exponent - 1)

end Interval

/-! ## The shortest decimal -/

/-- **The shortest decimal** of the magnitude of a finite number. The search starts above the number
and ends at `10 ^ -1074` at the latest, of which every finite number is a multiple. -/
def Decimal.shortest (d : Dyadic) : Decimal :=
  if d.significand = 0 then ⟨0, 0⟩
  else
    let start := (digits (d.numerator / d.denominator)).length
    ((Interval.ofDyadic d).coarsest? (start + 1075) start).getD ⟨0, 0⟩

/-! ## Texts -/

/-- The text of a number whose magnitude is written by `text`. -/
def signedText (text : Dyadic → List Char) (x : Float) : String :=
  match Dyadic.ofFloat? x with
  | none => if x.isNaN then "NaN" else if x < 0 then "-inf" else "inf"
  | some d => String.ofList (if d.negative then '-' :: text d else text d)

/-- **The plain text of a number**: its shortest decimal, never with an exponent. -/
def plainText (x : Float) : String := signedText (fun d => (Decimal.shortest d).text) x

end OneUnknown
