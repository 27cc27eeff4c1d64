import Mathlib.Data.Set.Function
import OneUnknown.Proofs.Equation.Blame

/-!
# Rows of tokens under other labels

A token is labelled with its column, and a letter with its name. While an equation is read, names
are compared with each other, columns are remembered for errors, and nothing else is done with
either. So a row of tokens can be given other labels before it is read or afterwards, as long as
names that differ go on to differ: the sides of the equation are the same, and its unknown or its
error is relabelled.

* `Token.renamed`, `SolveError.renamed`, `Equation.renamed`: other names for letters;
* `Token.moved`, `SolveError.moved`: other columns;
* `Token.relabelled`, `Reader.relabelled`, **`SolveResult.relabelled`**: both together;
* `KeepsApart`: a renaming that keeps letters apart;
* `Reader.Knows`: a reader whose unknown is a letter of the row;
* `step_relabelled`, `foldlM_relabelled`, `finish_relabelled`: one token, a row of tokens, the end
  of input;
* **`ofTokens_relabelled`**: a relabelled row of tokens is read as the row is.
-/

namespace OneUnknown

variable {K : Type} [Scalar K] {α β : Type}

/-! ## Other names -/

section Renamed

variable (f : Char → Char)

/-- A letter under another name. -/
def TokenKind.renamed : TokenKind → TokenKind
  | .letter name => .letter (f name)
  | kind => kind

/-- **A token under another name**, if it is a letter. It stands in the same column. -/
def Token.renamed (t : Token) : Token :=
  match t.kind with
  | .letter name => { t with kind := .letter (f name), lexeme := t.lexeme.map f }
  | _ => t

/-- The only complaint that names letters is that there are two of them. -/
def Complaint.renamed : Complaint → Complaint
  | .mixedUnknowns first second column => .mixedUnknowns (f first) (f second) column
  | complaint => complaint

def SolveError.renamed : SolveError → SolveError
  | .malformed complaint => .malformed (complaint.renamed f)
  | e => e

/-- **An equation with its unknown under another name.** -/
def Equation.renamed (e : Equation K) : Equation K := { e with unknown? := e.unknown?.map f }

end Renamed

/-! ## Other columns -/

section Moved

variable (g : Nat → Nat)

/-- **A token in another column.** -/
def Token.moved (t : Token) : Token := { t with column := g t.column }

def LexError.moved : LexError → LexError
  | .unexpectedCharacter c column => .unexpectedCharacter c (g column)
  | .invalidNumber literal column => .invalidNumber literal (g column)
  | .exponentTooLarge literal column => .exponentTooLarge literal (g column)

/-- **A complaint about another column**, if it is about one. -/
def Complaint.moved : Complaint → Complaint
  | .lexical error => .lexical (error.moved g)
  | .severalEquals column => .severalEquals (g column)
  | .unexpected lexeme column => .unexpected lexeme (g column)
  | .expectedOperand lexeme column => .expectedOperand lexeme (g column)
  | .expectedExpression column => .expectedExpression (g column)
  | .expectedClose column => .expectedClose (g column)
  | .missingOperator lexeme column => .missingOperator lexeme (g column)
  | .badExponent column => .badExponent (g column)
  | .numberTooLarge column => .numberTooLarge (g column)
  | .degreeTooHigh limit column => .degreeTooHigh limit (g column)
  | .mixedUnknowns first second column => .mixedUnknowns first second (g column)
  | .divisionByUnknown column => .divisionByUnknown (g column)
  | .missingRightSide column => .missingRightSide (g column)
  | complaint => complaint

def SolveError.moved : SolveError → SolveError
  | .malformed complaint => .malformed (complaint.moved g)
  | e => e

/-- Division remembers its column. -/
def FactorSign.moved : FactorSign → FactorSign
  | .times => .times
  | .over column => .over (g column)

def Level.moved (level : Level K) : Level K :=
  { level with product? := level.product?.map fun (p, sign) => (p, sign.moved g) }

end Moved

/-! ## Other labels -/

section Relabelled

variable (f : Char → Char) (g : Nat → Nat)

/-- **A token under another name and in another column.** -/
def Token.relabelled (t : Token) : Token := (t.renamed f).moved g

def Reader.relabelled (reader : Reader K) : Reader K :=
  { reader with
    unknown? := reader.unknown?.map f
    outer := reader.outer.map (Level.moved g)
    level := reader.level.moved g
    column := g reader.column }

/-- **The outcome under other labels**, a success or an error. -/
def SolveResult.relabelled (h : α → β) : SolveResult α → SolveResult β
  | .ok a => .ok (h a)
  | .error e => .error ((e.renamed f).moved g)

end Relabelled

variable {f : Char → Char} {g : Nat → Nat} {P : Token → Prop} (limit : Nat)

@[simp] theorem Token.column_renamed (t : Token) : (t.renamed f).column = t.column := by
  unfold Token.renamed
  split <;> rfl

@[simp] theorem Token.kind_renamed (t : Token) : (t.renamed f).kind = t.kind.renamed f := by
  unfold Token.renamed
  split
  · rename_i name hname
    rw [hname]
    rfl
  · rename_i hother
    cases hkind : t.kind with
    | letter name => exact absurd hkind (hother name)
    | number | superscript | plus | minus | star | slash | caret | equals | openParen | closeParen
      | endOfInput => rfl

@[simp] theorem TokenKind.isEnd_renamed (kind : TokenKind) :
    (kind.renamed f).isEnd = kind.isEnd := by
  cases kind <;> rfl

@[simp] theorem TokenKind.isEquals_renamed (kind : TokenKind) :
    (kind.renamed f).isEquals = kind.isEquals := by
  cases kind <;> rfl

@[simp] theorem Token.kind_relabelled (t : Token) :
    (t.relabelled f g).kind = t.kind.renamed f := t.kind_renamed

@[simp] theorem Token.column_relabelled (t : Token) : (t.relabelled f g).column = g t.column :=
  congrArg g t.column_renamed

/-! ## Outcomes -/

theorem SolveResult.bind_eq_relabelled {α' β' : Type} {h : α → α'} {h' : β → β'}
    {x : SolveResult α} {x' : SolveResult α'} {k : α → SolveResult β} {k' : α' → SolveResult β'}
    (hx : x' = SolveResult.relabelled f g h x)
    (hk : ∀ a, k' (h a) = SolveResult.relabelled f g h' (k a)) :
    x' >>= k' = SolveResult.relabelled f g h' (x >>= k) := by
  subst hx
  rcases x with e | a
  · rfl
  · exact hk a

/-! ## Checked operations -/

theorem boundedMul_relabelled (column : Nat) (p q : Polynomial K) :
    boundedMul limit (g column) p q =
      SolveResult.relabelled f g id (boundedMul limit column p q) := by
  unfold boundedMul
  split <;> rfl

theorem divideBy_relabelled (column : Nat) (p q : Polynomial K) :
    divideBy (g column) p q = SolveResult.relabelled f g id (divideBy column p q) := by
  unfold divideBy
  split
  · split <;> rfl
  · rfl

theorem raise_relabelled (column : Nat) (p : Polynomial K) (exponent : Nat) :
    raise limit (g column) p exponent =
      SolveResult.relabelled f g id (raise limit column p exponent) := by
  unfold raise
  split
  · dsimp only
    split <;> rfl
  · split <;> rfl

theorem withFactor_relabelled (level : Level K) (column : Nat) (p : Polynomial K) :
    (level.moved g).withFactor limit (g column) p =
      SolveResult.relabelled f g id (level.withFactor limit column p) := by
  unfold Level.withFactor
  rw [Level.moved]
  rcases level.product? with _ | ⟨product, _ | slash⟩
  · rfl
  · exact boundedMul_relabelled limit column product _
  · exact divideBy_relabelled slash product _

/-- **A renaming that keeps the letters of tokens apart.** -/
def KeepsApart (P : Token → Prop) (f : Char → Char) : Prop := Set.InjOn f {name | HasLetter P name}

/-- A letter is met: it is the unknown under another name just if it is the unknown. -/
theorem bindUnknown_relabelled (hf : KeepsApart P f) {unknown? : Option Char} {name : Char}
    (hunknown : ∀ first, unknown? = some first → HasLetter P first) (hname : HasLetter P name)
    (column : Nat) : bindUnknown (unknown?.map f) (f name) (g column) =
      SolveResult.relabelled f g f (bindUnknown unknown? name column) := by
  rcases unknown? with _ | first
  · rfl
  · have hiff : f first = f name ↔ first = name := hf.eq_iff (hunknown first rfl) hname
    simp only [bindUnknown, Option.map_some, hiff]
    split <;> rfl

/-! ## One token -/

namespace Reader

variable {t : Token}

/-- The unknown, if it has been met, is the letter of a token. -/
def Knows (P : Token → Prop) (reader : Reader K) : Prop :=
  ∀ name, reader.unknown? = some name → HasLetter P name

theorem operand_relabelled (reader : Reader K) (hf : KeepsApart P f) (hreader : reader.Knows P)
    (ht : P t) : (reader.relabelled f g).operand (t.relabelled f g) =
      SolveResult.relabelled f g (relabelled f g) (reader.operand t) := by
  rcases t with ⟨kind, lexeme, column⟩
  cases kind with
  | letter name =>
    have hname : HasLetter P name := ⟨_, ht, rfl⟩
    exact SolveResult.bind_eq_relabelled (bindUnknown_relabelled hf hreader hname column)
      fun _ => rfl
  | number | superscript | plus | minus | star | slash | caret | equals | openParen | closeParen
    | endOfInput => rfl

theorem isEmpty_outer_relabelled (reader : Reader K) :
    (reader.relabelled f g).outer.isEmpty = reader.outer.isEmpty := List.isEmpty_map

theorem complaint_relabelled (reader : Reader K) (ht : t.renamed f = t) :
    (reader.relabelled f g).complaint (t.relabelled f g) =
      ((reader.complaint t).renamed f).moved g := by
  rw [complaint, complaint, isEmpty_outer_relabelled, Token.relabelled, ht]
  split <;> rfl

theorem afterProduct_relabelled (reader : Reader K) (hf : KeepsApart P f)
    (hreader : reader.Knows P) (ht : P t) (product : Polynomial K) :
    (reader.relabelled f g).afterProduct product (t.relabelled f g) =
      SolveResult.relabelled f g (relabelled f g) (reader.afterProduct product t) := by
  have refuse : t.renamed f = t →
      Except.error (.malformed ((reader.relabelled f g).complaint (t.relabelled f g))) =
        SolveResult.relabelled f g (relabelled (K := K) f g)
          (.error (.malformed (reader.complaint t))) := fun hother =>
    congrArg (fun c => Except.error (SolveError.malformed c))
      (complaint_relabelled reader hother)
  rcases t with ⟨kind, lexeme, column⟩
  cases kind with
  | letter name =>
    exact operand_relabelled { reader with
      level := { sum? := reader.level.sum?, product? := some (product, .times) }
      stage := .operand
      column := column } hf hreader ht
  | closeParen =>
    have hrefuse := refuse rfl
    rw [afterProduct, afterProduct,
      show (reader.relabelled f g).outer = reader.outer.map (Level.moved g) from rfl]
    rcases reader.outer with _ | ⟨level, outer⟩
    · exact hrefuse
    · rfl
  | equals =>
    have hrefuse := refuse rfl
    simp only [afterProduct, isEmpty_outer_relabelled]
    show (if reader.outer.isEmpty && reader.left?.isNone then _ else _) = _
    split
    · rfl
    · exact hrefuse
  | caret | superscript | endOfInput => exact refuse rfl
  | number | plus | minus | star | slash | openParen => rfl

theorem afterPower_relabelled (reader : Reader K) (hf : KeepsApart P f) (hreader : reader.Knows P)
    (ht : P t) (p : Polynomial K) : (reader.relabelled f g).afterPower limit p (t.relabelled f g) =
      SolveResult.relabelled f g (relabelled f g) (reader.afterPower limit p t) :=
  SolveResult.bind_eq_relabelled (withFactor_relabelled limit reader.level reader.column p)
    fun product => afterProduct_relabelled reader hf hreader ht product

theorem raised_relabelled (reader : Reader K) (p : Polynomial K) (exponent : Nat) (t : Token) :
    (reader.relabelled f g).raised limit p exponent (t.relabelled f g) =
      SolveResult.relabelled f g (relabelled f g) (reader.raised limit p exponent t) := by
  unfold raised
  rw [Token.column_relabelled]
  exact SolveResult.bind_eq_relabelled (raise_relabelled limit t.column p exponent) fun _ => rfl

/-- **One token** of a relabelled row. -/
theorem step_relabelled (reader : Reader K) (hf : KeepsApart P f) (hreader : reader.Knows P)
    (ht : P t) : (reader.relabelled f g).step limit (t.relabelled f g) =
      SolveResult.relabelled f g (relabelled f g) (reader.step limit t) := by
  have hpower := afterPower_relabelled (g := g) limit reader hf hreader ht
  rw [step, step, show (reader.relabelled f g).stage = reader.stage from rfl]
  rcases reader.stage with _ | p | p | p
  · exact operand_relabelled reader hf hreader ht
  · rcases t with ⟨kind, lexeme, column⟩
    cases kind with
    | caret => rfl
    | superscript exponent => exact raised_relabelled limit reader p exponent _
    | number | letter | plus | minus | star | slash | equals | openParen | closeParen
      | endOfInput => exact hpower p
  · rcases t with ⟨kind, lexeme, column⟩
    cases kind with
    | number value =>
      simp only [Token.kind_relabelled, TokenKind.renamed]
      cases exponentOf? value with
      | some exponent => exact raised_relabelled limit reader p exponent _
      | none => rfl
    | letter | superscript | plus | minus | star | slash | caret | equals | openParen
      | closeParen | endOfInput => rfl
  · exact hpower p

/-! ## Rows of tokens -/

/-- **A relabelled row**, by induction on it: the unknown is a letter of the row at any time. -/
theorem foldlM_relabelled {reader : Reader K} (hf : KeepsApart P f) {ts : List Token}
    (hts : ∀ t ∈ ts, P t) (hreader : reader.Remembers P) :
    (ts.map (Token.relabelled f g)).foldlM (step limit) (reader.relabelled f g) =
      SolveResult.relabelled f g (relabelled f g) (ts.foldlM (step limit) reader) := by
  induction ts generalizing reader with
  | nil => rfl
  | cons t ts ih =>
    obtain ⟨ht, hts⟩ := List.forall_mem_cons.mp hts
    have hnext : Ends (Blames P) (Remembers P) (reader.step limit t) := ends_step hreader ht
    rw [List.map_cons, List.foldlM_cons, List.foldlM_cons,
      step_relabelled limit reader hf hreader.unknown ht]
    rcases hstep : reader.step limit t with e | next
    · rfl
    · rw [hstep] at hnext
      exact ih hts hnext

theorem close_relabelled (reader : Reader K) (p : Polynomial K) (column : Nat) :
    (reader.relabelled f g).close limit p (g column) =
      SolveResult.relabelled f g id (reader.close limit p column) := by
  refine SolveResult.bind_eq_relabelled
    (withFactor_relabelled limit reader.level reader.column p) fun product => ?_
  rw [isEmpty_outer_relabelled]
  split <;> rfl

/-- **The end of input.** -/
theorem finish_relabelled (reader : Reader K) (column : Nat) :
    (reader.relabelled f g).finish limit (g column) =
      SolveResult.relabelled f g (Equation.renamed f) (reader.finish limit column) := by
  rw [finish, finish, show (reader.relabelled f g).stage = reader.stage from rfl]
  rcases reader.stage with _ | p | p | p
  case operand | exponent => rfl
  case base | power =>
    refine SolveResult.bind_eq_relabelled (close_relabelled limit reader p column) fun side => ?_
    rw [show (reader.relabelled f g).left? = reader.left? from rfl]
    cases reader.left? <;> rfl

end Reader

/-! ## Equations -/

theorem equalsColumns_relabelled (ts : List Token) :
    equalsColumns (ts.map (Token.relabelled f g)) = (equalsColumns ts).map g := by
  simp only [equalsColumns, List.filter_map, List.map_map, Function.comp_def,
    Token.kind_relabelled, TokenKind.isEquals_renamed, Token.column_relabelled]

theorem body_relabelled (ts : List Token) :
    body (ts.map (Token.relabelled f g)) = (body ts).map (Token.relabelled f g) := by
  simp only [body, List.takeWhile_map, Function.comp_def, Token.kind_relabelled,
    TokenKind.isEnd_renamed]

/-- **A relabelled row of tokens is read as the row is**, and the outcome is relabelled. The column
where the input ends is asked for by itself, since it need not be that of a token. -/
theorem ofTokens_relabelled {ts : List Token} (hf : KeepsApart (· ∈ ts) f) (hstart : g 0 = 0)
    (hend : endColumn (ts.map (Token.relabelled f g)) = g (endColumn ts)) :
    Equation.ofTokens limit (ts.map (Token.relabelled f g)) =
      SolveResult.relabelled f g (Equation.renamed f) (Equation.ofTokens (K := K) limit ts) := by
  have hbody : ∀ t ∈ body ts, t ∈ ts := fun t ht => (List.takeWhile_sublist _).subset ht
  have hreader : ({} : Reader K).relabelled f g = {} := by
    rw [Reader.relabelled, hstart]
    rfl
  unfold Equation.ofTokens
  rw [equalsColumns_relabelled, body_relabelled, hend]
  rcases equalsColumns ts with _ | ⟨first, _ | ⟨second, others⟩⟩
  case cons.cons => rfl
  case nil | cons.nil =>
    refine SolveResult.bind_eq_relabelled (h := Reader.relabelled f g) ?_
      fun reader => Reader.finish_relabelled limit reader _
    rw [← Reader.foldlM_relabelled limit hf hbody Reader.remembers_start, hreader]

end OneUnknown
