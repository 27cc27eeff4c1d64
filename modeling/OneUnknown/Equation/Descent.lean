import OneUnknown.Equation.Reader

/-!
# Recursive descent

An equation may also be read with one function for every rule of its grammar. The functions share
a position in the row of tokens: they look at the token at the position, move the position on, and
call each other. The row ends with an end of input, which is never passed.

    equation := expression ('=' expression)?
    expression := term (('+' | '-') term)*
    term := unary (('*' | '/')? unary)*
    unary := ('+' | '-') unary | power
    power := primary ('^' integer | superscript)?
    primary := number | letter | '(' expression ')'

The functions recurse without a measure of their own: they go on as long as tokens are passed. So
a run is given a number of turns, and to be in want of turns, like looking up a token that is not
there, is an outcome of its own. A run keeps a record of the tokens that it looks up and of the
polynomials that it makes.

* `Halt`, `Lookup`, `Descent.State`, **`Descent`**: how a run ends early, and what it keeps;
* `tokenAt`, `peek`, `advance`, `check`, `matchToken`, `consume`: the tokens;
* `build`, `times`, `dividedBy`, `powLoop`, `raised`: polynomials;
* `primary`, `power`, `unary`, `term`, `expression`, **`equation`**: the rules;
* **`closed`**: a row with an end of input at its end.
-/

namespace OneUnknown

deriving instance BEq for TokenKind

/-! ## Runs -/

/-- **How a run ends early.** -/
inductive Halt where
  /-- The equation is refused. -/
  | refused (e : SolveError)
  /-- A token is looked up where there is none. -/
  | outOfRange
  /-- The turns that the run was given do not suffice. -/
  | exhausted

/-- A token looked up, and the position at that time. -/
structure Lookup where
  position : Nat
  index : Nat

/-- **What a run keeps.** The records have the latest entry first. -/
structure Descent.State (K : Type) [Scalar K] where
  /-- The number of tokens that have been passed. -/
  position : Nat := 0
  /-- The unknown, if it has been met. -/
  unknown? : Option Char := none
  /-- The tokens that were looked up. -/
  lookups : List Lookup := []
  /-- The polynomials that were made. -/
  built : List (Polynomial K) := []

/-- **A run**, which changes its state and may end early. -/
abbrev Descent (K : Type) [Scalar K] := ExceptT Halt (StateM (Descent.State K))

namespace Descent

variable {K : Type} [Scalar K] {α : Type}

/-- The outcome of a run and the state that it leaves. -/
def outcome (m : Descent K α) (s : State K) : Except Halt α × State K := m.run.run s

/-- The equation is refused. -/
def refuse (complaint : Complaint) : Descent K α := throw (.refused (.malformed complaint))

/-- The result of a check. -/
def checked (result : SolveResult α) : Descent K α :=
  match result with
  | .ok a => return a
  | .error e => throw (.refused e)

/-! ## Tokens -/

section Tokens

variable (row : List Token)

/-- The token at an index. -/
def tokenAt (index : Nat) : Descent K Token := do
  modify fun s => { s with lookups := ⟨s.position, index⟩ :: s.lookups }
  match row[index]? with
  | some t => return t
  | none => throw .outOfRange

/-- The token at the position. -/
def peek : Descent K Token := do tokenAt row (← get).position

/-- The token before the position. -/
def previous : Descent K Token := do
  let position := (← get).position
  if position = 0 then throw .outOfRange
  else tokenAt row (position - 1)

/-- The end of input has been reached. -/
def atEnd : Descent K Bool := return (← peek row).kind.isEnd

/-- The token at the position, which is passed unless it is the end of input. -/
def advance : Descent K Token := do
  if ← atEnd row then peek row
  else
    modify fun s => { s with position := s.position + 1 }
    previous row

/-- The token at the position is of a kind. -/
def check (kind : TokenKind) : Descent K Bool := return (← peek row).kind == kind

/-- Passes a token of a kind, if there is one. -/
def matchToken (kind : TokenKind) : Descent K Bool := do
  if ← check row kind then
    let _ ← advance row
    return true
  else return false

/-- Passes a token of a kind, which has to be there. -/
def consume (kind : TokenKind) (complaint : Nat → Complaint) : Descent K Token := do
  if ← check row kind then advance row
  else refuse (complaint (← peek row).column)

/-- A factor may begin here without a sign before it. -/
def startsPrimary : Descent K Bool := do
  match (← peek row).kind with
  | .number _ | .letter _ | .openParen => return true
  | _ => return false

end Tokens

/-- A letter is met. -/
def bindLetter (name : Char) (column : Nat) : Descent K Unit := do
  let unknown ← checked (bindUnknown (← get).unknown? name column)
  modify fun s => { s with unknown? := some unknown }

/-! ## Polynomials -/

/-- A polynomial is made. -/
def build (p : Polynomial K) : Descent K (Polynomial K) := do
  modify fun s => { s with built := p :: s.built }
  return p

/-- The product, unless its degree exceeds the limit. -/
def times (row : List Token) (limit : Nat) (p q : Polynomial K) : Descent K (Polynomial K) := do
  if limit < p.degree + q.degree then
    let last ← tokenAt row ((← get).position - 1)
    refuse (.degreeTooHigh limit last.column)
  else build (p.mul q)

/-- The quotient by a number. -/
def dividedBy (column : Nat) (p q : Polynomial K) : Descent K (Polynomial K) :=
  match q.asConstant? with
  | some d => if d == 0 then throw (.refused .divisionByZero) else build (p.scale (1 / d))
  | none => refuse (.divisionByUnknown column)

/-- `result · base ^ exponent` by repeated squaring. -/
def powLoop (result base : Polynomial K) (exponent : Nat) : Descent K (Polynomial K) := do
  if exponent = 0 then return result
  else
    let result ← if exponent % 2 = 1 then build (result.mul base) else pure result
    if exponent / 2 = 0 then return result
    else powLoop result (← build (base.mul base)) (exponent / 2)
termination_by exponent
decreasing_by omega

/-- The power, of a number if it is finite, of a polynomial if its degree is within the limit. -/
def raised (row : List Token) (limit : Nat) (base : Polynomial K) (exponent : Nat) :
    Descent K (Polynomial K) := do
  let column := (← previous row).column
  match base.asConstant? with
  | some c =>
    let value := Scalar.power c exponent
    if Scalar.isFinite value then build (.constant value)
    else refuse (.numberTooLarge column)
  | none =>
    if limit < base.degree * exponent then refuse (.degreeTooHigh limit column)
    else powLoop (← build (.constant 1)) base exponent

/-! ## The rules -/

section Rules

variable (row : List Token) (limit : Nat) (phrase : Descent K (Polynomial K))

/-- A number, a letter, or a phrase in parentheses. -/
def primary : Descent K (Polynomial K) := do
  let t ← advance row
  match t.kind with
  | .number value => build (.constant (Scalar.ofFloat value))
  | .letter name =>
    bindLetter name t.column
    build (.monomial 1 1)
  | .openParen =>
    let inner ← phrase
    let _ ← consume row .closeParen .expectedClose
    return inner
  | .endOfInput => refuse (.expectedExpression t.column)
  | _ => refuse (.expectedOperand t.lexeme t.column)

/-- The exponent behind a base, if there is one. -/
def exponent? : Descent K (Option Nat) := do
  match (← peek row).kind with
  | .caret =>
    let _ ← advance row
    let t ← advance row
    match t.kind with
    | .number value =>
      match exponentOf? value with
      | some exponent => return some exponent
      | none => refuse (.badExponent t.column)
    | _ => refuse (.badExponent t.column)
  | .superscript exponent =>
    let _ ← advance row
    return some exponent
  | _ => return none

/-- A primary with or without an exponent. -/
def power : Descent K (Polynomial K) := do
  let base ← primary row phrase
  match ← exponent? row with
  | some exponent => raised row limit base exponent
  | none => return base

/-- Signs, and a power. -/
def unary : Nat → Descent K (Polynomial K)
  | 0 => throw .exhausted
  | turns + 1 => do
    if ← matchToken row .minus then build (← unary turns).neg
    else if ← matchToken row .plus then unary turns
    else power row limit phrase

/-- The factors that follow, multiplied with a product or dividing it. -/
def factors : Nat → Polynomial K → Descent K (Polynomial K)
  | 0, _ => throw .exhausted
  | turns + 1, product => do
    if ← matchToken row .star then
      let factor ← unary row limit phrase turns
      factors turns (← times row limit product factor)
    else if ← check row .slash then
      let slash := (← advance row).column
      let factor ← unary row limit phrase turns
      factors turns (← dividedBy slash product factor)
    else if ← startsPrimary row then
      match (← peek row).kind with
      | .number _ =>
        let t ← peek row
        refuse (.missingOperator t.lexeme t.column)
      | _ =>
        let factor ← power row limit phrase
        factors turns (← times row limit product factor)
    else return product

/-- A product of factors. -/
def term (turns : Nat) : Descent K (Polynomial K) := do
  factors row limit phrase turns (← unary row limit phrase turns)

/-- The terms that follow, added to a sum or subtracted from it. -/
def terms : Nat → Polynomial K → Descent K (Polynomial K)
  | 0, _ => throw .exhausted
  | turns + 1, sum => do
    if ← matchToken row .plus then
      let rest ← term row limit phrase turns
      terms turns (← build (sum.add rest))
    else if ← matchToken row .minus then
      let rest ← term row limit phrase turns
      terms turns (← build (sum.sub rest))
    else return sum

end Rules

section Equation

variable (row : List Token) (limit : Nat)

/-- **A sum of terms.** The turns bound the depth of the parentheses, and the rounds of a loop. -/
def expression : Nat → Descent K (Polynomial K)
  | 0 => throw .exhausted
  | turns + 1 => do
    let sum ← term row limit (expression turns) (turns + 1)
    terms row limit (expression turns) (turns + 1) sum

/-- The side behind a sign of equality, if there is one. -/
def rightSide? (turns : Nat) : Descent K (Option (Polynomial K)) := do
  if ← matchToken row .equals then return some (← expression row limit turns)
  else return none

/-- **An equation**, which is all of the row. -/
def equation (turns : Nat) : Descent K (Equation K) := do
  match equalsColumns row with
  | _ :: second :: _ => refuse (.severalEquals second)
  | _ =>
    let left ← expression row limit turns
    let right? ← rightSide? row limit turns
    if ← atEnd row then return ⟨(← get).unknown?, left, right?⟩
    else
      let t ← peek row
      refuse (.unexpected t.lexeme t.column)

end Equation

end Descent

/-- **The row with an end of input at its end**, which is added if it is missing. -/
def closed (ts : List Token) : List Token :=
  match ts.getLast? with
  | none => [⟨.endOfInput, "", 1⟩]
  | some last => if last.kind.isEnd then ts else ts ++ [⟨.endOfInput, "", last.endColumn⟩]

end OneUnknown
