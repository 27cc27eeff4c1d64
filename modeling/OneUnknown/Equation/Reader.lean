import OneUnknown.Equation
import OneUnknown.Token.Scan

/-!
# Reading an equation

Tokens are read one at a time from the left, and a value is built up as soon as it is complete. A
reader remembers, for every parenthesis that is open, the sum of the terms before, the product of
the factors before in the present term, and the minus signs before the present factor. So reading
is a fold over the tokens, and what has been read never changes.

A sign before a factor applies to the whole power that follows it. An exponent belongs to the
number, letter or parenthesis just before it. A letter or a parenthesis directly behind a factor
is multiplied with it; a number in that place is refused.

* `Level`, `Stage`, **`Reader`**: what is remembered;
* `Level.withFactor`, `Level.total`: a factor, and a term, taken into account;
* **`Reader.step`**: one token;
* **`Reader.finish`**: the end of input;
* **`Equation.ofTokens`**, **`Equation.parse`**: an equation from tokens, and from text.
-/

namespace OneUnknown

/-! ## What is remembered -/

/-- The sign between two terms. -/
inductive TermSign where
  | plus
  | minus

/-- What stands between two factors. Division remembers its column. -/
inductive FactorSign where
  | times
  | over (column : Nat)

/-- **An expression up to the present factor.** -/
structure Level (K : Type) [Scalar K] where
  /-- The sum of the terms before the present one, and the sign behind it. -/
  sum? : Option (Polynomial K × TermSign) := none
  /-- The product of the factors before the present one, and the sign behind it. -/
  product? : Option (Polynomial K × FactorSign) := none
  /-- The number of minus signs before the present factor. -/
  negations : Nat := 0

/-- **What may come next.** -/
inductive Stage (K : Type) [Scalar K] where
  /-- A factor has to begin. -/
  | operand
  /-- A number, a letter or a parenthesis has been read, which may be raised to a power. -/
  | base (p : Polynomial K)
  /-- The exponent of a power has to follow. -/
  | exponent (p : Polynomial K)
  /-- A power has been read. -/
  | power (p : Polynomial K)

/-- **An equation read so far.** -/
structure Reader (K : Type) [Scalar K] where
  /-- The unknown, if it has been met. -/
  unknown? : Option Char := none
  /-- The left side, once the sign of equality has been read. -/
  left? : Option (Polynomial K) := none
  /-- The levels around the open parentheses, the innermost first. -/
  outer : List (Level K) := []
  /-- The present level. -/
  level : Level K := {}
  /-- What may come next. -/
  stage : Stage K := .operand
  /-- The column of the token that was read last. -/
  column : Nat := 0

variable {K : Type} [Scalar K]

/-! ## Factors and terms -/

namespace Level

/-- The product of the present term with a further factor, its minus signs included. -/
def withFactor (level : Level K) (limit column : Nat) (p : Polynomial K) :
    SolveResult (Polynomial K) :=
  let factor := Nat.repeat Polynomial.neg level.negations p
  match level.product? with
  | none => .ok factor
  | some (product, .times) => boundedMul limit column product factor
  | some (product, .over slash) => divideBy slash product factor

/-- The sum of the level with its last term. -/
def total (level : Level K) (term : Polynomial K) : Polynomial K :=
  match level.sum? with
  | none => term
  | some (sum, .plus) => sum.add term
  | some (sum, .minus) => sum.sub term

end Level

/-- The natural number that an exponent stands for: it has no fraction and at most 32 bits, and
below zero it counts as zero. -/
def exponentOf? (value : Float) : Option Nat :=
  match Dyadic.ofFloat? value with
  | none => none
  | some d =>
    let whole := d.numerator / d.denominator
    if d.numerator % d.denominator ≠ 0 then none
    else if d.negative then some 0
    else if whole ≤ maxExponent then some whole
    else none

/-! ## One token -/

namespace Reader

/-- A token with which a factor begins. -/
def operand (reader : Reader K) (t : Token) : SolveResult (Reader K) :=
  match t.kind with
  | .number value =>
    .ok { reader with stage := .base (.constant (Scalar.ofFloat value)), column := t.column }
  | .letter name => do
    let unknown ← bindUnknown reader.unknown? name t.column
    return { reader with
      unknown? := some unknown, stage := .base (.monomial 1 1), column := t.column }
  | .openParen =>
    .ok { reader with
      outer := reader.level :: reader.outer, level := {}, stage := .operand, column := t.column }
  | .minus =>
    .ok { reader with
      level := { reader.level with negations := reader.level.negations + 1 }
      column := t.column }
  | .plus => .ok { reader with column := t.column }
  | _ => .error (.malformed (.expectedOperand t.lexeme t.column))

/-- The complaint about a token that neither continues nor closes the present expression. -/
def complaint (reader : Reader K) (t : Token) : Complaint :=
  if reader.outer.isEmpty then .unexpected t.lexeme t.column else .expectedClose t.column

/-- A token behind a complete power, given the product that ends with the power. -/
def afterProduct (reader : Reader K) (product : Polynomial K) (t : Token) :
    SolveResult (Reader K) :=
  let continued (sign : FactorSign) : Reader K :=
    { reader with
      level := { sum? := reader.level.sum?, product? := some (product, sign) }
      stage := .operand
      column := t.column }
  let added (sign : TermSign) : Reader K :=
    { reader with
      level := { sum? := some (reader.level.total product, sign) }
      stage := .operand
      column := t.column }
  match t.kind with
  | .star => .ok (continued .times)
  | .slash => .ok (continued (.over t.column))
  | .plus => .ok (added .plus)
  | .minus => .ok (added .minus)
  | .letter _ | .openParen => (continued .times).operand t
  | .number _ => .error (.malformed (.missingOperator t.lexeme t.column))
  | .closeParen =>
    match reader.outer with
    | [] => .error (.malformed (reader.complaint t))
    | level :: outer =>
      .ok { reader with
        outer := outer
        level := level
        stage := .base (reader.level.total product)
        column := t.column }
  | .equals =>
    if reader.outer.isEmpty && reader.left?.isNone then
      .ok { reader with
        left? := some (reader.level.total product)
        level := {}
        stage := .operand
        column := t.column }
    else .error (.malformed (reader.complaint t))
  | .caret | .superscript _ | .endOfInput => .error (.malformed (reader.complaint t))

/-- A token behind the complete power `p`. -/
def afterPower (limit : Nat) (reader : Reader K) (p : Polynomial K) (t : Token) :
    SolveResult (Reader K) := do
  reader.afterProduct (← reader.level.withFactor limit reader.column p) t

/-- The base `p` raised to a power by the token. -/
def raised (limit : Nat) (reader : Reader K) (p : Polynomial K) (exponent : Nat) (t : Token) :
    SolveResult (Reader K) := do
  let power ← raise limit t.column p exponent
  return { reader with stage := .power power, column := t.column }

/-- **Reads one token.** -/
def step (limit : Nat) (reader : Reader K) (t : Token) : SolveResult (Reader K) :=
  match reader.stage with
  | .operand => reader.operand t
  | .base p =>
    match t.kind with
    | .caret => .ok { reader with stage := .exponent p, column := t.column }
    | .superscript exponent => reader.raised limit p exponent t
    | _ => reader.afterPower limit p t
  | .exponent p =>
    match t.kind with
    | .number value =>
      match exponentOf? value with
      | some exponent => reader.raised limit p exponent t
      | none => .error (.malformed (.badExponent t.column))
    | _ => .error (.malformed (.badExponent t.column))
  | .power p => reader.afterPower limit p t

/-- The last side of an equation that ends behind a complete power. -/
def close (limit : Nat) (reader : Reader K) (p : Polynomial K) (column : Nat) :
    SolveResult (Polynomial K) := do
  let product ← reader.level.withFactor limit reader.column p
  if reader.outer.isEmpty then return reader.level.total product
  else .error (.malformed (.expectedClose column))

/-- **The equation that has been read**, when the input ends at the given column. -/
def finish (limit : Nat) (reader : Reader K) (column : Nat) : SolveResult (Equation K) := do
  let side ← match reader.stage with
    | .operand => .error (.malformed (.expectedExpression column))
    | .exponent _ => .error (.malformed (.badExponent column))
    | .base p | .power p => reader.close limit p column
  return match reader.left? with
    | none => ⟨reader.unknown?, side, none⟩
    | some left => ⟨reader.unknown?, left, some side⟩

end Reader

/-! ## Equations -/

/-- The tokens that are read: those before the first end of input. -/
def body (ts : List Token) : List Token := ts.takeWhile fun t => !t.kind.isEnd

/-- The column where the input ends: that of the first end of input, or else the one behind the
last token. -/
def endColumn (ts : List Token) : Nat :=
  match ts.find? (·.kind.isEnd), ts.getLast? with
  | some stop, _ => stop.column
  | none, some last => last.endColumn
  | none, none => 1

/-- The columns of the signs of equality. -/
def equalsColumns (ts : List Token) : List Nat :=
  (ts.filter (·.kind.isEquals)).map (·.column)

namespace Equation

/-- **The equation that tokens spell**, with degrees up to a limit. That there are two signs of
equality is noticed first. -/
def ofTokens (limit : Nat) (ts : List Token) : SolveResult (Equation K) :=
  match equalsColumns ts with
  | _ :: second :: _ => .error (.malformed (.severalEquals second))
  | _ => do
    let reader ← (body ts).foldlM (Reader.step limit) {}
    reader.finish limit (endColumn ts)

/-- **The equation that a text spells**, with degrees up to a limit. -/
def parse (limit : Nat) (text : String) : SolveResult (Equation K) :=
  match tokens text with
  | .error e => .error (.malformed (.lexical e))
  | .ok ts => ofTokens limit ts

end Equation

end OneUnknown
