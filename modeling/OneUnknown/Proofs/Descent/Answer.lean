import OneUnknown.Proofs.Descent.Run

/-!
# What a reader makes of the tokens that are left

A reader that stands at a spot of a row gives an answer in the end. How the answer changes from
one spot to the next is said once for every token that may stand there, so that a run over the row
can be followed without opening the reader again. What a reader remembers may be rearranged where
the answer stays the same: a factor can be multiplied with the product before it, and a term can be
added to the sum before it, as soon as nothing can be added to it any more.

* **`Reader.resume`**, `Reader.resume_eq_foldlM`: reading on, up to the first end of input;
* `Context`, **`answer`**: the same from a spot of a row;
* `answer_number`, `answer_letter`, … , `answer_caret`, `answer_exponent`: one token;
* **`answer_power`**, `answer_neg`, **`answer_total`**: rearrangements.
-/

namespace OneUnknown

variable {K : Type} [Scalar K]

/-! ## Reading on -/

/-- **The equation that comes of a reader** and the tokens before the first end of input. -/
def Reader.resume (limit : Nat) (reader : Reader K) : List Token → SolveResult (Equation K)
  | [] => reader.finish limit 1
  | t :: rest =>
    if t.kind.isEnd then reader.finish limit t.column
    else do (← reader.step limit t).resume limit rest

theorem Reader.resume_eq_foldlM (limit : Nat) {ts : List Token}
    (hend : ∃ t ∈ ts, t.kind.isEnd = true) (reader : Reader K) :
    reader.resume limit ts =
      ((body ts).foldlM (Reader.step limit) reader >>= fun r => r.finish limit (endColumn ts)) := by
  induction ts generalizing reader with
  | nil => simp at hend
  | cons t rest ih =>
    by_cases ht : t.kind.isEnd = true
    · simp [resume, body, endColumn, ht]
    · have hrest : ∃ u ∈ rest, u.kind.isEnd = true := by simpa [ht] using hend
      have hcolumn : endColumn (t :: rest) = endColumn rest := by
        obtain ⟨stop, hfind⟩ := Option.isSome_iff_exists.mp (List.find?_isSome.mpr hrest)
        simp [endColumn, ht, hfind]
      simp only [resume, ht, hcolumn, body, List.takeWhile_cons]
      simp only [Bool.not_false, if_true, List.foldlM_cons, bind_assoc]
      refine congrArg (reader.step limit t >>= ·) (funext fun r => ?_)
      exact ih hrest r

namespace Descent

/-! ## Spots of a row -/

/-- The column of the token before a position, zero at the start. -/
def columnBefore (row : List Token) (position : Nat) : Nat :=
  if position = 0 then 0 else (row[position - 1]?.map (·.column)).getD 0

/-- **What surrounds an expression**: the left side, once the sign of equality has been read, and
the levels around the open parentheses. -/
structure Context (K : Type) [Scalar K] where
  left? : Option (Polynomial K)
  outer : List (Level K)

/-- The reader that stands at a spot of a row. -/
def standing (row : List Token) (x : Spot) (c : Context K) (level : Level K) (stage : Stage K) :
    Reader K :=
  ⟨x.unknown?, c.left?, c.outer, level, stage, columnBefore row x.position⟩

/-- **The answer of the reader at a spot of a row.** -/
def answer (limit : Nat) (row : List Token) (x : Spot) (c : Context K) (level : Level K)
    (stage : Stage K) : SolveResult (Equation K) :=
  (standing row x c level stage).resume limit (row.drop x.position)

variable {row : List Token} {limit : Nat} {x y : Spot} {t : Token} {c c' : Context K}
  {level level' : Level K} {stage stage' : Stage K} {sum? : Option (Polynomial K × TermSign)}
  {p : Polynomial K}

theorem drop_eq_cons (ht : row[x.position]? = some t) :
    row.drop x.position = t :: row.drop (x.position + 1) := by
  obtain ⟨hlt, rfl⟩ := List.getElem?_eq_some_iff.mp ht
  exact List.drop_eq_getElem_cons hlt

theorem columnBefore_succ (ht : row[x.position]? = some t) :
    columnBefore row (x.position + 1) = t.column := by
  simp [columnBefore, ht]

theorem answer_of_step (ht : row[x.position]? = some t) (hend : t.kind.isEnd = false)
    (hy : y.position = x.position + 1)
    (hstep : (standing row x c level stage).step limit t =
      .ok ⟨y.unknown?, c'.left?, c'.outer, level', stage', t.column⟩) :
    answer limit row x c level stage = answer limit row y c' level' stage' := by
  have hstanding : standing row y c' level' stage' =
      ⟨y.unknown?, c'.left?, c'.outer, level', stage', t.column⟩ := by
    rw [standing, hy, columnBefore_succ ht]
  rw [answer, answer, drop_eq_cons ht, Reader.resume, hend, hstep, hstanding, hy]
  rfl

theorem answer_of_step_error (ht : row[x.position]? = some t) (hend : t.kind.isEnd = false)
    {e : SolveError} (hstep : (standing row x c level stage).step limit t = .error e) :
    answer limit row x c level stage = .error e := by
  rw [answer, drop_eq_cons ht, Reader.resume, hend, hstep]
  rfl

theorem answer_of_isEnd (ht : row[x.position]? = some t) (hend : t.kind.isEnd = true) :
    answer limit row x c level stage = (standing row x c level stage).finish limit t.column := by
  rw [answer, drop_eq_cons ht, Reader.resume, hend]
  rfl

theorem answer_congr (ht : row[x.position]? = some t)
    (hfinish : t.kind.isEnd = true → (standing row x c level stage).finish limit t.column =
      (standing row x c' level' stage').finish limit t.column)
    (hstep : t.kind.isEnd = false → (standing row x c level stage).step limit t =
      (standing row x c' level' stage').step limit t) :
    answer limit row x c level stage = answer limit row x c' level' stage' := by
  cases hend : t.kind.isEnd with
  | true => rw [answer_of_isEnd ht hend, answer_of_isEnd ht hend, hfinish hend]
  | false => simp only [answer, drop_eq_cons ht, Reader.resume, hstep hend, hend,
      Bool.false_eq_true, if_false]

/-! ## Where a factor begins -/

theorem answer_number (ht : row[x.position]? = some t) {value : Float}
    (hk : t.kind = .number value) :
    answer limit row x c level .operand =
      answer limit row x.next c level (.base (.constant (Scalar.ofFloat value))) :=
  answer_of_step ht (by rw [hk]; rfl) rfl (by simp [Reader.step, Reader.operand, standing, hk])

theorem answer_letter (ht : row[x.position]? = some t) {name unknown : Char}
    (hk : t.kind = .letter name) (hbind : bindUnknown x.unknown? name t.column = .ok unknown) :
    answer limit row x c level .operand =
      answer limit row { x.next with unknown? := some unknown } c level
        (.base (.monomial 1 1)) := by
  refine answer_of_step ht (by rw [hk]; rfl) rfl ?_
  simp only [Reader.step, Reader.operand, standing, hk, hbind]
  rfl

theorem answer_letter_of_error (ht : row[x.position]? = some t) {name : Char} {e : SolveError}
    (hk : t.kind = .letter name) (hbind : bindUnknown x.unknown? name t.column = .error e) :
    answer limit row x c level .operand = .error e := by
  refine answer_of_step_error ht (by rw [hk]; rfl) ?_
  simp only [Reader.step, Reader.operand, standing, hk, hbind]
  rfl

theorem answer_openParen (ht : row[x.position]? = some t) (hk : t.kind = .openParen) :
    answer limit row x c level .operand =
      answer limit row x.next ⟨c.left?, level :: c.outer⟩ {} .operand :=
  answer_of_step ht (by rw [hk]; rfl) rfl (by simp [Reader.step, Reader.operand, standing, hk])

theorem answer_minus (ht : row[x.position]? = some t) (hk : t.kind = .minus) :
    answer limit row x c level .operand =
      answer limit row x.next c ⟨level.sum?, level.product?, level.negations + 1⟩ .operand :=
  answer_of_step ht (by rw [hk]; rfl) rfl (by simp [Reader.step, Reader.operand, standing, hk])

theorem answer_plus (ht : row[x.position]? = some t) (hk : t.kind = .plus) :
    answer limit row x c level .operand = answer limit row x.next c level .operand :=
  answer_of_step ht (by rw [hk]; rfl) rfl (by simp [Reader.step, Reader.operand, standing, hk])

/-- A factor does not begin with this kind. -/
def neverBegins : TokenKind → Bool
  | .superscript _ | .star | .slash | .caret | .equals | .closeParen => true
  | _ => false

theorem answer_of_neverBegins (ht : row[x.position]? = some t)
    (hk : neverBegins t.kind = true) :
    answer limit row x c level .operand =
      .error (.malformed (.expectedOperand t.lexeme t.column)) := by
  refine answer_of_step_error ht ?_ ?_ <;> cases h : t.kind <;>
    simp_all [neverBegins, TokenKind.isEnd, Reader.step, Reader.operand, standing]

theorem answer_operand_of_isEnd (ht : row[x.position]? = some t) (hk : t.kind.isEnd = true) :
    answer limit row x c level .operand =
      .error (.malformed (.expectedExpression t.column)) := by
  rw [answer_of_isEnd ht hk]
  rfl

/-! ## Exponents -/

theorem answer_caret (ht : row[x.position]? = some t) (hk : t.kind = .caret) :
    answer limit row x c level (.base p) = answer limit row x.next c level (.exponent p) :=
  answer_of_step ht (by rw [hk]; rfl) rfl (by simp [Reader.step, standing, hk])

theorem answer_superscript (ht : row[x.position]? = some t) {exponent : Nat}
    (hk : t.kind = .superscript exponent) {q : Polynomial K}
    (hraise : raise limit t.column p exponent = .ok q) :
    answer limit row x c level (.base p) = answer limit row x.next c level (.power q) := by
  refine answer_of_step ht (by rw [hk]; rfl) rfl ?_
  simp only [Reader.step, standing, hk, Reader.raised, hraise]
  rfl

theorem answer_superscript_of_error (ht : row[x.position]? = some t) {exponent : Nat}
    (hk : t.kind = .superscript exponent) {e : SolveError}
    (hraise : raise limit t.column p exponent = .error e) :
    answer limit row x c level (.base p) = .error e := by
  refine answer_of_step_error ht (by rw [hk]; rfl) ?_
  simp only [Reader.step, standing, hk, Reader.raised, hraise]
  rfl

theorem answer_exponent (ht : row[x.position]? = some t) {value : Float} {exponent : Nat}
    (hk : t.kind = .number value) (hvalue : exponentOf? value = some exponent) {q : Polynomial K}
    (hraise : raise limit t.column p exponent = .ok q) :
    answer limit row x c level (.exponent p) = answer limit row x.next c level (.power q) := by
  refine answer_of_step ht (by rw [hk]; rfl) rfl ?_
  simp only [Reader.step, standing, hk, hvalue, Reader.raised, hraise]
  rfl

theorem answer_exponent_of_error (ht : row[x.position]? = some t) {value : Float}
    {exponent : Nat} (hk : t.kind = .number value) (hvalue : exponentOf? value = some exponent)
    {e : SolveError} (hraise : raise limit t.column p exponent = .error e) :
    answer limit row x c level (.exponent p) = .error e := by
  refine answer_of_step_error ht (by rw [hk]; rfl) ?_
  simp only [Reader.step, standing, hk, hvalue, Reader.raised, hraise]
  rfl

theorem answer_badExponent (ht : row[x.position]? = some t)
    (hk : ∀ value exponent, t.kind = .number value → exponentOf? value ≠ some exponent) :
    answer limit row x c level (.exponent p) = .error (.malformed (.badExponent t.column)) := by
  cases hend : t.kind.isEnd with
  | true =>
    rw [answer_of_isEnd ht hend]
    rfl
  | false =>
    refine answer_of_step_error ht hend ?_
    simp only [Reader.step, standing]
    split
    · rename_i value hvalue
      split
      · rename_i exponent hexponent
        exact absurd hexponent (hk value exponent hvalue)
      · rfl
    · rfl

/-! ## Complete powers -/

theorem afterProduct_standing (product : Polynomial K) (t : Token)
    (hsum : level.sum? = level'.sum?) :
    (standing row x c level stage).afterProduct product t =
      (standing row x c level' stage').afterProduct product t := by
  rcases level with ⟨sum?, _, _⟩
  obtain rfl := hsum
  rfl

theorem answer_base (ht : row[x.position]? = some t) (hcaret : t.kind ≠ .caret)
    (hsuper : ∀ exponent, t.kind ≠ .superscript exponent) :
    answer limit row x c level (.base p) = answer limit row x c level (.power p) := by
  refine answer_congr ht (fun _ => rfl) fun _ => ?_
  simp only [Reader.step, standing]
  refine congrArg (_ >>= ·) (funext fun product => ?_)
  exact afterProduct_standing product t rfl

/-- **A factor may be multiplied with the product before it.** -/
theorem answer_power (ht : row[x.position]? = some t) {product : Polynomial K}
    (hfactor : level.withFactor limit (columnBefore row x.position) p = .ok product) :
    answer limit row x c level (.power p) =
      answer limit row x c ⟨level.sum?, none, 0⟩ (.power product) := by
  refine answer_congr ht (fun _ => ?_) fun _ => ?_
  · simp only [Reader.finish, Reader.close, standing, hfactor]
    rfl
  · change level.withFactor limit (columnBefore row x.position) p >>= _ = _
    rw [hfactor]
    exact afterProduct_standing product t rfl

theorem answer_power_of_error (ht : row[x.position]? = some t) {e : SolveError}
    (hfactor : level.withFactor limit (columnBefore row x.position) p = .error e) :
    answer limit row x c level (.power p) = .error e := by
  cases hend : t.kind.isEnd with
  | true =>
    rw [answer_of_isEnd ht hend]
    simp only [Reader.finish, Reader.close, standing, hfactor]
    rfl
  | false =>
    refine answer_of_step_error ht hend ?_
    simp only [Reader.step, Reader.afterPower, standing, hfactor]
    rfl

theorem repeat_neg (n : Nat) (p : Polynomial K) :
    Nat.repeat Polynomial.neg n p.neg = Nat.repeat Polynomial.neg (n + 1) p := by
  induction n with
  | zero => rfl
  | succ n ih => exact congrArg Polynomial.neg ih

/-- **A minus sign may be applied to the factor behind it.** -/
theorem answer_neg (ht : row[x.position]? = some t) :
    answer limit row x c ⟨level.sum?, level.product?, level.negations + 1⟩ (.power p) =
      answer limit row x c level (.power p.neg) := by
  have hneg (column : Nat) :
      Level.withFactor ⟨level.sum?, level.product?, level.negations + 1⟩ limit column p =
        level.withFactor limit column p.neg := by
    simp only [Level.withFactor, repeat_neg]
  cases hfactor : level.withFactor limit (columnBefore row x.position) p.neg with
  | ok product => rw [answer_power ht hfactor, answer_power ht ((hneg _).trans hfactor)]
  | error e =>
    rw [answer_power_of_error ht hfactor, answer_power_of_error ht ((hneg _).trans hfactor)]

/-! ## Behind a complete product -/

theorem step_power (t : Token) :
    (standing row x c ⟨sum?, none, 0⟩ (.power p)).step limit t =
      (standing row x c ⟨sum?, none, 0⟩ (.power p)).afterProduct p t := rfl

theorem answer_star (ht : row[x.position]? = some t) (hk : t.kind = .star) :
    answer limit row x c ⟨sum?, none, 0⟩ (.power p) =
      answer limit row x.next c ⟨sum?, some (p, .times), 0⟩ .operand :=
  answer_of_step ht (by rw [hk]; rfl) rfl
    (by rw [step_power, Reader.afterProduct, hk]; rfl)

theorem answer_slash (ht : row[x.position]? = some t) (hk : t.kind = .slash) :
    answer limit row x c ⟨sum?, none, 0⟩ (.power p) =
      answer limit row x.next c ⟨sum?, some (p, .over t.column), 0⟩ .operand :=
  answer_of_step ht (by rw [hk]; rfl) rfl
    (by rw [step_power, Reader.afterProduct, hk]; rfl)

theorem answer_beside (ht : row[x.position]? = some t)
    (hk : (∃ name, t.kind = .letter name) ∨ t.kind = .openParen) :
    answer limit row x c ⟨sum?, none, 0⟩ (.power p) =
      answer limit row x c ⟨sum?, some (p, .times), 0⟩ .operand := by
  refine answer_congr ht (fun hend => ?_) fun _ => ?_
  · rcases hk with ⟨name, hk⟩ | hk <;> simp [hk, TokenKind.isEnd] at hend
  · rw [step_power]
    rcases hk with ⟨name, hk⟩ | hk <;>
      simp [Reader.afterProduct, Reader.step, Reader.operand, standing, hk]

theorem answer_missingOperator (ht : row[x.position]? = some t) {value : Float}
    (hk : t.kind = .number value) :
    answer limit row x c ⟨sum?, none, 0⟩ (.power p) =
      .error (.malformed (.missingOperator t.lexeme t.column)) :=
  answer_of_step_error ht (by rw [hk]; rfl)
    (by simp [step_power, Reader.afterProduct, hk])

/-- No factor follows a product where this kind stands. -/
def endsTerm : TokenKind → Bool
  | .star | .slash | .number _ | .letter _ | .openParen => false
  | _ => true

/-- **A term may be added to the sum before it**, when no factor follows. -/
theorem answer_total (ht : row[x.position]? = some t) (hk : endsTerm t.kind = true) :
    answer limit row x c ⟨sum?, none, 0⟩ (.power p) =
      answer limit row x c {} (.power (Level.total ⟨sum?, none, 0⟩ p)) := by
  refine answer_congr ht (fun _ => rfl) fun _ => ?_
  change Reader.afterProduct _ _ t = Reader.afterProduct _ _ t
  cases h : t.kind <;> simp_all [endsTerm, Reader.afterProduct, standing] <;> rfl

theorem answer_added (ht : row[x.position]? = some t) (hk : t.kind = .plus) :
    answer limit row x c {} (.power p) =
      answer limit row x.next c ⟨some (p, .plus), none, 0⟩ .operand :=
  answer_of_step ht (by rw [hk]; rfl) rfl
    (by rw [step_power, Reader.afterProduct, hk]; rfl)

theorem answer_subtracted (ht : row[x.position]? = some t) (hk : t.kind = .minus) :
    answer limit row x c {} (.power p) =
      answer limit row x.next c ⟨some (p, .minus), none, 0⟩ .operand :=
  answer_of_step ht (by rw [hk]; rfl) rfl
    (by rw [step_power, Reader.afterProduct, hk]; rfl)

/-! ## Behind a complete expression -/

theorem answer_closeParen (ht : row[x.position]? = some t) (hk : t.kind = .closeParen) :
    answer limit row x ⟨c.left?, level :: c.outer⟩ {} (.power p) =
      answer limit row x.next c level (.base p) :=
  answer_of_step ht (by rw [hk]; rfl) rfl
    (by rw [step_power, Reader.afterProduct, hk]; rfl)

theorem answer_equals (ht : row[x.position]? = some t) (hk : t.kind = .equals) :
    answer limit row x ⟨none, []⟩ {} (.power p) =
      answer limit row x.next ⟨some p, []⟩ {} .operand :=
  answer_of_step ht (by rw [hk]; rfl) rfl
    (by rw [step_power, Reader.afterProduct, hk]; rfl)

/-- No term follows a sum where this kind stands. -/
def endsSum : TokenKind → Bool
  | .plus | .minus => false
  | k => endsTerm k

theorem answer_expectedClose (ht : row[x.position]? = some t) (hk : t.kind ≠ .closeParen)
    (hend : endsSum t.kind = true) :
    answer limit row x ⟨c.left?, level :: c.outer⟩ {} (.power p) =
      .error (.malformed (.expectedClose t.column)) := by
  cases h : t.kind.isEnd with
  | true =>
    rw [answer_of_isEnd ht h]
    rfl
  | false =>
    refine answer_of_step_error ht h ?_
    rw [step_power]
    cases hkind : t.kind <;>
      simp_all [endsSum, endsTerm, TokenKind.isEnd, Reader.afterProduct, Reader.complaint, standing]

theorem answer_unexpected (ht : row[x.position]? = some t) {left? : Option (Polynomial K)}
    (h : t.kind.isEnd = false) (hequals : t.kind = .equals → left?.isSome = true)
    (hend : endsSum t.kind = true) :
    answer limit row x ⟨left?, []⟩ {} (.power p) =
      .error (.malformed (.unexpected t.lexeme t.column)) := by
  refine answer_of_step_error ht h ?_
  rw [step_power]
  cases hkind : t.kind <;>
    simp_all [endsSum, endsTerm, TokenKind.isEnd, Reader.afterProduct, Reader.complaint, standing,
      Option.isSome_iff_ne_none]

theorem answer_end (ht : row[x.position]? = some t) (h : t.kind.isEnd = true)
    {left? : Option (Polynomial K)} :
    answer limit row x ⟨left?, []⟩ {} (.power p) =
      .ok (match left? with
        | none => ⟨x.unknown?, p, none⟩
        | some left => ⟨x.unknown?, left, some p⟩) := by
  rw [answer_of_isEnd ht h]
  rfl

end Descent

end OneUnknown
