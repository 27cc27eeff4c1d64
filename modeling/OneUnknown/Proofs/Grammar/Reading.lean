import OneUnknown.Proofs.Grammar.Draft
import OneUnknown.Proofs.Token.Row

/-!
# Reading is evaluating the derivation

What a reader holds is the value of the draft of the tokens it has read. A token that the reader
accepts is one that the draft accepts and whose new draft has a value, so the reader accepts a row
of tokens exactly when they spell a sentence that has a value.

* `Draft.reader?`: the reader that holds the values of a draft;
* `step_square`, `foldlM_square`, `finish_square`: one token, a row of tokens, the end of input;
* **`ofTokens_eq_ok_iff`**: the equation that tokens spell is the value of their sentence.
-/

namespace OneUnknown.Grammar

variable {K : Type} [Scalar K]

/-! ## The values of a draft -/

/-- The value of a sum, with the sign behind it. -/
def sumValue? (limit : Nat) (sum? : Option (Phrase × TermSign)) :
    Option (Option (Polynomial K × TermSign)) :=
  match sum? with
  | none => some none
  | some (p, sign) => (p.value? limit).map fun q => some (q, sign)

/-- The number of minus signs. -/
def negations : List TermSign → Nat
  | [] => 0
  | .plus :: signs => negations signs
  | .minus :: signs => negations signs + 1

@[simp] theorem negations_append (signs : List TermSign) (sign : TermSign) :
    negations (signs ++ [sign]) = negations signs + negations [sign] := by
  induction signs with
  | nil => simp [negations]
  | cons first signs ih => cases first <;> simp [negations, ih, Nat.add_right_comm]

/-- The level whose next factor stands in a slot, given the sum before. -/
def Slot.level? (limit : Nat) (sum? : Option (Polynomial K × TermSign)) (s : Slot) :
    Option (Level K) :=
  match s.product? with
  | none => some ⟨sum?, none, negations s.signs⟩
  | some (t, sign) => (t.value? limit).map fun p => ⟨sum?, some (p, sign), negations s.signs⟩

def Place.level? (limit : Nat) (sum? : Option (Polynomial K × TermSign)) {head : Head} :
    Place head → Option (Level K)
  | .slot s => s.level? limit sum?
  | .beside t => (t.value? limit).map fun p => ⟨sum?, some (p, .times), 0⟩

/-- The levels around the open parentheses. -/
def outerValue? (limit : Nat) : List Frame → Option (List (Level K))
  | [] => some []
  | frame :: frames => do
    let levels ← outerValue? limit frames
    let sum? ← sumValue? limit frame.sum?
    let level ← frame.place.level? limit sum?
    return level :: levels

/-- The present level with what has been read of its factor. -/
def Stage.value? (limit : Nat) (sum? : Option (Polynomial K × TermSign)) :
    Stage → Option (Level K × OneUnknown.Stage K)
  | .operand s => do return (← s.level? limit sum?, .operand)
  | .base place b => do return (← place.level? limit sum?, .base (← b.value? limit))
  | .exponent place b => do return (← place.level? limit sum?, .exponent (← b.value? limit))
  | .power place p => do return (← place.level? limit sum?, .power (← p.value? limit))

/-- What a draft has read before its present term, in values. -/
structure Context (K : Type) [Scalar K] where
  unknown? : Option Char
  left? : Option (Polynomial K)
  outer : List (Level K)
  sum? : Option (Polynomial K × TermSign)

/-- The reader in a context, at a level and a stage. -/
def Context.reader (c : Context K) (level : Level K) (stage : OneUnknown.Stage K) (column : Nat) :
    Reader K :=
  ⟨c.unknown?, c.left?, c.outer, level, stage, column⟩

def leftValue? (limit : Nat) : Option Phrase → Option (Option (Polynomial K))
  | none => some none
  | some p => (p.value? limit).map some

def Draft.context? (limit : Nat) (d : Draft) : Option (Context K) := do
  let unknown? ← soleLetter? d.kinds
  let left? ← leftValue? limit d.left?
  let outer ← outerValue? limit d.outer
  let sum? ← sumValue? limit d.sum?
  return ⟨unknown?, left?, outer, sum?⟩

/-- **The reader that holds the values of a draft.** -/
def Draft.reader? (limit : Nat) (d : Draft) : Option (Reader K) := do
  let c ← d.context? limit
  let (level, stage) ← d.stage.value? limit c.sum?
  return c.reader level stage d.column

section

variable {limit : Nat} {sum? : Option (Polynomial K × TermSign)}

@[simp] theorem sumValue?_none : sumValue? (K := K) limit none = some none := rfl

@[simp] theorem sumValue?_some (p : Phrase) (sign : TermSign) : sumValue? (K := K) limit
    (some (p, sign)) = (p.value? limit).map fun q => some (q, sign) := rfl

@[simp] theorem Slot.level?_start :
    (Slot.mk none []).level? limit sum? = some ⟨sum?, none, 0⟩ := rfl

@[simp] theorem Slot.level?_product (t : Term) (sign : FactorSign) :
    (Slot.mk (some (t, sign)) []).level? limit sum? =
      (t.value? limit).map fun p => ⟨sum?, some (p, sign), 0⟩ := rfl

@[simp] theorem Stage.value?_operand (s : Slot) :
    (Stage.operand s).value? limit sum? = (s.level? limit sum?).bind fun level =>
      some (level, .operand) := rfl

@[simp] theorem Stage.value?_base {head : Head} (place : Place head) (b : Primary head) :
    (Stage.base place b).value? limit sum? = (place.level? limit sum?).bind fun level =>
      (b.value? limit).bind fun p => some (level, .base p) := rfl

@[simp] theorem Stage.value?_exponent {head : Head} (place : Place head) (b : Primary head) :
    (Stage.exponent place b).value? limit sum? = (place.level? limit sum?).bind fun level =>
      (b.value? limit).bind fun p => some (level, .exponent p) := rfl

@[simp] theorem Stage.value?_power {head : Head} (place : Place head) (p : Power head) :
    (Stage.power place p).value? limit sum? = (place.level? limit sum?).bind fun level =>
      (p.value? limit).bind fun q => some (level, .power q) := rfl

end

/-! ## Checks -/

@[simp] theorem toOption_bind {ε α β : Type} (x : Except ε α) (f : α → Except ε β) :
    (x >>= f).toOption = x.toOption.bind fun a => (f a).toOption := by
  cases x <;> rfl

@[simp] theorem toOption_ok {ε α : Type} (a : α) :
    (Except.ok a : Except ε α).toOption = some a := rfl

@[simp] theorem toOption_pure {ε α : Type} (a : α) :
    (pure a : Except ε α).toOption = some a := rfl

@[simp] theorem toOption_error {ε α : Type} (e : ε) :
    (Except.error e : Except ε α).toOption = none := rfl

section

variable {limit column : Nat} {p q : Polynomial K}

theorem toOption_boundedMul : (boundedMul limit column p q).toOption = mulWithin? limit p q := by
  unfold boundedMul mulWithin?
  by_cases h : p.degree + q.degree ≤ limit
  · rw [if_neg (by omega), if_pos h]; rfl
  · rw [if_pos (by omega), if_neg h]; rfl

theorem toOption_divideBy : (divideBy column p q).toOption = divide? p q := by
  unfold divideBy divide?
  rcases q.asConstant? with _ | d
  · rfl
  · by_cases h : d == 0
    · simp [h]
    · simp [h]

theorem toOption_raise {n : Nat} : (raise limit column p n).toOption = raise? limit p n := by
  unfold raise raise?
  rcases p.asConstant? with _ | c
  · by_cases h : p.degree * n ≤ limit
    · simp only [if_neg (Nat.not_lt.mpr h), if_pos h, toOption_ok]
    · simp only [if_pos (Nat.lt_of_not_le h), if_neg h, toOption_error]
  · by_cases h : Scalar.isFinite (Scalar.power c n)
    · simp [h]
    · simp [h]

theorem toOption_raised {reader : Reader K} {n : Nat} {t : Token} :
    (reader.raised limit p n t).toOption = (raise? limit p n).bind fun q =>
      some { reader with stage := .power q, column := t.column } := by
  rw [Reader.raised, toOption_bind, toOption_raise]
  rfl

end

theorem soleLetter?_append {kinds : List TokenKind} {kind : TokenKind}
    (h : ∀ name, kind ≠ .letter name) : soleLetter? (kinds ++ [kind]) = soleLetter? kinds := by
  unfold soleLetter?
  cases kind <;> simp_all

theorem soleLetter?_append_letter (kinds : List TokenKind) (name : Char) (column : Nat) :
    soleLetter? (kinds ++ [.letter name]) = (soleLetter? kinds).bind fun unknown? =>
      (bindUnknown unknown? name column).toOption.map some := by
  unfold soleLetter?
  rw [List.filterMap_append]
  rcases kinds.filterMap _ with _ | ⟨first, names⟩
  · simp [bindUnknown]
  by_cases hn : names.all (· = first)
  · by_cases hname : first = name
    · subst hname
      simp [bindUnknown, hn]
    · simp [bindUnknown, hn, hname, Ne.symm hname]
  · simp [hn]

/-! ## Factors, terms and sums -/

section

variable {limit : Nat} {sum? : Option (Polynomial K × TermSign)} {head : Head}

theorem value?_foldr_signed (signs : List TermSign) (f : Factor) :
    (signs.foldr Factor.signed f).value? limit =
      (f.value? limit).map (Nat.repeat (Polynomial.neg (K := K)) (negations signs)) := by
  induction signs with
  | nil => simp [negations, Nat.repeat]
  | cons sign signs ih =>
    rw [List.foldr_cons, Factor.value?, ih]
    rcases f.value? limit with _ | q
    · rfl
    · cases sign <;> rfl

/-- **A power in its place**, multiplied or divided as the place demands. -/
theorem level?_bind_withFactor {β : Type} (column : Nat) (place : Place head) (p : Power head)
    (k : Option (Polynomial K × TermSign) → Polynomial K → Option β) :
    ((place.level? limit sum?).bind fun level => (p.value? limit).bind fun q =>
      (level.withFactor limit column q).toOption.bind (k level.sum?)) =
      ((place.term p).value? limit).bind (k sum?) := by
  rcases place with s | t
  · simp only [Place.level?, Slot.level?, Place.term, Slot.term, Slot.factor]
    rcases s.product? with _ | ⟨t, _ | slash⟩
    · simp only [Term.value?, Factor.value?, value?_foldr_signed, Level.withFactor]
      rcases p.value? limit with _ | q <;> simp
    · simp only [Term.value?, Factor.value?, value?_foldr_signed]
      rcases t.value? limit with _ | product
      · rfl
      rcases p.value? limit with _ | q
      · rfl
      · simp [Level.withFactor, toOption_boundedMul]
    · simp only [Term.value?, Factor.value?, value?_foldr_signed]
      rcases t.value? limit with _ | product
      · rfl
      rcases p.value? limit with _ | q
      · rfl
      · simp [Level.withFactor, toOption_divideBy]
  · simp only [Place.level?, Place.term, Term.value?]
    rcases t.value? limit with _ | product
    · rfl
    rcases p.value? limit with _ | q
    · rfl
    · simp [Level.withFactor, toOption_boundedMul, Nat.repeat]

end

theorem value?_phrase (limit : Nat) (d : Draft) (u : Term) : (d.phrase u).value? (K := K) limit =
    (sumValue? limit d.sum?).bind fun sum? =>
      (u.value? limit).map (Level.total ⟨sum?, none, 0⟩) := by
  unfold sumValue? Draft.phrase
  rcases d.sum? with _ | ⟨p, sign⟩
  · simp only [Phrase.value?, Option.bind_some]
    rcases u.value? limit with _ | q <;> rfl
  · simp only [Phrase.value?]
    rcases p.value? limit with _ | q
    · rfl
    rcases u.value? limit with _ | r
    · rfl
    · cases sign <;> rfl

/-! ## One token -/

section

variable {limit : Nat} {d d' : Draft} {t : Token}

/-- What stands before the present term does not change with a token that is no letter. -/
theorem context?_of_within (hk : d'.kinds = d.kinds ++ [t.kind]) (hw : d.Within d')
    (ht : ∀ name, t.kind ≠ .letter name) : d'.context? (K := K) limit = d.context? limit := by
  unfold Draft.context?
  rw [hk, soleLetter?_append ht, hw.left?_eq, hw.outer_eq, hw.sum?_eq]

theorem context?_letter {name : Char} (hk : d'.kinds = d.kinds ++ [t.kind]) (hw : d.Within d')
    (ht : t.kind = .letter name) (column : Nat) :
    d'.context? (K := K) limit = (d.context? limit).bind fun c =>
      (bindUnknown c.unknown? name column).toOption.bind fun unknown =>
        some { c with unknown? := some unknown } := by
  unfold Draft.context?
  rw [hk, ht, soleLetter?_append_letter _ _ column, hw.left?_eq, hw.outer_eq, hw.sum?_eq]
  rcases soleLetter? d.kinds with _ | unknown?
  · rfl
  rcases leftValue? limit d.left? with _ | left?
  · simp
  rcases outerValue? limit d.outer with _ | outer
  · simp
  rcases sumValue? limit d.sum? with _ | sum?
  · simp
  rcases h : (bindUnknown unknown? name column).toOption with _ | unknown <;> simp [h]

theorem isEmpty_of_context? {c : Context K} (h : d.context? limit = some c) :
    c.outer.isEmpty = d.outer.isEmpty ∧ c.left?.isNone = d.left?.isNone := by
  simp only [Draft.context?, Option.bind_eq_bind, Option.bind_eq_some_iff, Option.pure_def,
    Option.some.injEq] at h
  obtain ⟨unknown?, -, left?, hl, outer, ho, sum?, -, rfl⟩ := h
  constructor
  · rcases hd : d.outer with _ | ⟨frame, frames⟩
    · rw [hd] at ho
      obtain rfl := Option.some.inj ho
      rfl
    · simp only [hd, outerValue?, Option.bind_eq_bind, Option.bind_eq_some_iff, Option.pure_def,
        Option.some.injEq] at ho
      obtain ⟨levels, -, sum?, -, level, -, rfl⟩ := ho
      rfl
  · rcases hd : d.left? with _ | p
    · rw [hd] at hl
      obtain rfl := Option.some.inj hl
      rfl
    · rw [hd, leftValue?, Option.map_eq_some_iff] at hl
      obtain ⟨q, -, rfl⟩ := hl
      rfl

theorem group_square {place : Place .group} (hs : d.stage.kinds = place.kinds)
    (ht : (∃ name, t.kind = .letter name) ∨ t.kind = .openParen) (stage : OneUnknown.Stage K)
    (column : Nat) :
    ((d.context? limit).bind fun c => (place.level? limit c.sum?).bind fun level =>
      ((c.reader level stage column).operand t).toOption) =
        (d.group place t).bind (·.reader? limit) := by
  obtain ⟨name, ht⟩ | ht := ht
  · have h : d.group place t = some { d with
        stage := .base place (.letter name), column := t.column } := by simp [Draft.group, ht]
    rw [h, Option.bind_some, Draft.reader?,
      context?_letter (Draft.kinds_group hs h) ⟨rfl, rfl, rfl⟩ ht t.column]
    rcases d.context? limit with _ | c
    · rfl
    simp only [Reader.operand, ht, Context.reader, toOption_bind, Option.bind_some]
    rcases (bindUnknown c.unknown? name t.column).toOption with _ | unknown
    · simp
    · simp [Primary.value?, Option.bind_assoc]
  · have h : d.group place t = some { d with
        outer := ⟨d.sum?, place⟩ :: d.outer
        sum? := none
        stage := .operand {}
        column := t.column } := by simp [Draft.group, ht]
    rw [h, Option.bind_some, Draft.reader?, Draft.context?, Draft.context?,
      Draft.kinds_group hs h, soleLetter?_append (by simp [ht])]
    rcases soleLetter? d.kinds with _ | unknown?
    · rfl
    rcases leftValue? limit d.left? with _ | left?
    · rfl
    simp only [outerValue?]
    rcases outerValue? limit d.outer with _ | outer
    · rfl
    rcases sumValue? limit d.sum? with _ | sum?
    · rfl
    rcases h₃ : place.level? limit sum? with _ | level
    · simp [h₃]
    · simp [h₃, Reader.operand, ht, Context.reader]

theorem reader?_of_product {u : Term} (sign : FactorSign) (hs : d.stage.kinds = u.kinds)
    (ht : ∀ name, t.kind ≠ .letter name)
    (h : d.afterTerm u t = some { d with
      stage := .operand { product? := some (u, sign) }, column := t.column }) :
    (d.afterTerm u t).bind (·.reader? (K := K) limit) =
      (d.context? limit).bind fun c => (u.value? limit).bind fun q =>
        some (c.reader ⟨c.sum?, some (q, sign), 0⟩ .operand t.column) := by
  have hkinds := Draft.kinds_afterTerm hs h
  rw [h, Option.bind_some, Draft.reader?, context?_of_within hkinds ⟨rfl, rfl, rfl⟩ ht]
  simp [Option.bind_map, Option.bind_assoc]

theorem reader?_of_sum {u : Term} (sign : TermSign) (hs : d.stage.kinds = u.kinds)
    (ht : ∀ name, t.kind ≠ .letter name)
    (h : d.afterTerm u t = some { d with
      sum? := some (d.phrase u, sign), stage := .operand {}, column := t.column }) :
    (d.afterTerm u t).bind (·.reader? (K := K) limit) =
      (d.context? limit).bind fun c => (u.value? limit).bind fun q =>
        some (c.reader ⟨some (Level.total ⟨c.sum?, none, 0⟩ q, sign), none, 0⟩ .operand
          t.column) := by
  rw [h, Option.bind_some, Draft.reader?, Draft.context?, Draft.context?,
    Draft.kinds_afterTerm hs h, soleLetter?_append ht]
  rcases soleLetter? d.kinds with _ | unknown?
  · rfl
  rcases leftValue? limit d.left? with _ | left?
  · rfl
  rcases outerValue? limit d.outer with _ | outer
  · rfl
  simp [value?_phrase, Context.reader, Option.bind_map, Option.bind_assoc]

theorem closeParen_square {u : Term} (hs : d.stage.kinds = u.kinds) (ht : t.kind = .closeParen) :
    ((d.context? (K := K) limit).bind fun c => (u.value? limit).bind fun q =>
      ((c.reader ⟨c.sum?, none, 0⟩ .operand d.column).afterProduct q t).toOption) =
        (d.afterTerm u t).bind (·.reader? limit) := by
  rcases ho : d.outer with _ | ⟨frame, frames⟩
  · rcases hc : d.context? (K := K) limit with _ | c
    · simp [Draft.afterTerm, ht, ho]
    have hempty := (isEmpty_of_context? hc).1
    rw [ho, List.isEmpty_nil, List.isEmpty_iff] at hempty
    simp [Draft.afterTerm, Reader.afterProduct, ht, ho, Context.reader, hempty]
  have h : d.afterTerm u t = some { d with
      outer := frames
      sum? := frame.sum?
      stage := .base frame.place (.parenthesis (d.phrase u))
      column := t.column } := by simp [Draft.afterTerm, ht, ho]
  rw [h, Option.bind_some, Draft.reader?, Draft.context?, Draft.context?,
    Draft.kinds_afterTerm hs h, soleLetter?_append (by simp [ht])]
  rcases soleLetter? d.kinds with _ | unknown?
  · rfl
  rcases leftValue? limit d.left? with _ | left?
  · rfl
  simp only [outerValue?, ho]
  rcases outerValue? limit frames with _ | outer
  · rfl
  rcases sumValue? limit frame.sum? with _ | sum?
  · rfl
  simp [value?_phrase, Primary.value?, Reader.afterProduct, ht, Context.reader, Option.bind_map,
    Option.bind_assoc]

theorem equals_square {u : Term} (hs : d.stage.kinds = u.kinds) (ht : t.kind = .equals) :
    ((d.context? (K := K) limit).bind fun c => (u.value? limit).bind fun q =>
      ((c.reader ⟨c.sum?, none, 0⟩ .operand d.column).afterProduct q t).toOption) =
        (d.afterTerm u t).bind (·.reader? limit) := by
  by_cases hc : d.outer.isEmpty && d.left?.isNone
  · have h : d.afterTerm u t = some { d with
        left? := some (d.phrase u), sum? := none, stage := .operand {}, column := t.column } := by
      simp only [Draft.afterTerm, ht, if_pos hc]
    simp only [Bool.and_eq_true, List.isEmpty_iff, Option.isNone_iff_eq_none] at hc
    rw [h, Option.bind_some, Draft.reader?, Draft.context?, Draft.context?,
      Draft.kinds_afterTerm hs h, soleLetter?_append (by simp [ht])]
    rcases soleLetter? d.kinds with _ | unknown?
    · rfl
    simp [leftValue?, outerValue?, hc, value?_phrase, Reader.afterProduct, ht, Context.reader,
      Option.bind_map, Option.bind_assoc]
  · rcases hc' : d.context? (K := K) limit with _ | c
    · simp [Draft.afterTerm, ht, hc]
    obtain ⟨ho, hl⟩ := isEmpty_of_context? hc'
    simp only [Option.bind_some, Context.reader, Reader.afterProduct, ht, ho, hl, if_neg hc,
      toOption_error, Option.bind_fun_none, Draft.afterTerm, Option.bind_none]

theorem afterTerm_square {u : Term} (hs : d.stage.kinds = u.kinds) :
    ((d.context? (K := K) limit).bind fun c => (u.value? limit).bind fun q =>
      ((c.reader ⟨c.sum?, none, 0⟩ .operand d.column).afterProduct q t).toOption) =
        (d.afterTerm u t).bind (·.reader? limit) := by
  rcases ht : t.kind with value | name | n | _ | _ | _ | _ | _ | _ | _ | _ | _
  case star =>
    rw [reader?_of_product .times hs (by simp [ht]) (by simp [Draft.afterTerm, ht])]
    simp [Reader.afterProduct, ht, Context.reader]
  case slash =>
    rw [reader?_of_product (.over t.column) hs (by simp [ht])
      (by simp [Draft.afterTerm, ht])]
    simp [Reader.afterProduct, ht, Context.reader]
  case plus =>
    rw [reader?_of_sum .plus hs (by simp [ht]) (by simp [Draft.afterTerm, ht])]
    simp [Reader.afterProduct, ht, Context.reader]
  case minus =>
    rw [reader?_of_sum .minus hs (by simp [ht]) (by simp [Draft.afterTerm, ht])]
    simp [Reader.afterProduct, ht, Context.reader]
  case letter =>
    have h : d.afterTerm u t = d.group (.beside u) t := by simp [Draft.afterTerm, ht]
    rw [h, ← group_square (by exact hs) (.inl ⟨name, ht⟩) .operand t.column]
    simp [Reader.afterProduct, ht, Place.level?, Context.reader, Option.bind_map]
  case openParen =>
    have h : d.afterTerm u t = d.group (.beside u) t := by simp [Draft.afterTerm, ht]
    rw [h, ← group_square (by exact hs) (.inr ht) .operand t.column]
    simp [Reader.afterProduct, ht, Place.level?, Context.reader, Option.bind_map]
  case closeParen => exact closeParen_square hs ht
  case equals => exact equals_square hs ht
  all_goals simp [Draft.afterTerm, Reader.afterProduct, ht]

theorem reader?_of_sign {s : Slot} (sign : TermSign) (hs : d.stage.kinds = s.kinds)
    (ht : ∀ name, t.kind ≠ .letter name)
    (h : d.operand s t = some { d with
      stage := .operand { s with signs := s.signs ++ [sign] }, column := t.column }) :
    (d.operand s t).bind (·.reader? (K := K) limit) =
      (d.context? limit).bind fun c => (s.level? limit c.sum?).bind fun level =>
        some (c.reader { level with negations := level.negations + negations [sign] } .operand
          t.column) := by
  have hkinds := Draft.kinds_operand hs h
  rw [h, Option.bind_some, Draft.reader?, context?_of_within hkinds ⟨rfl, rfl, rfl⟩ ht]
  rcases hp : s.product? with _ | ⟨u, before⟩
  · simp [Slot.level?, hp]
  · simp [Slot.level?, hp, Option.bind_map, Option.bind_assoc]

theorem operand_square {s : Slot} (hs : d.stage.kinds = s.kinds) (column : Nat) :
    ((d.context? (K := K) limit).bind fun c => (s.level? limit c.sum?).bind fun level =>
      ((c.reader level .operand column).operand t).toOption) =
        (d.operand s t).bind (·.reader? limit) := by
  rcases ht : t.kind with value | name | n | _ | _ | _ | _ | _ | _ | _ | _ | _
  case number =>
    have h : d.operand s t = some { d with
        stage := .base (.slot s) (.number value), column := t.column } := by
      simp [Draft.operand, ht]
    rw [h, Option.bind_some, Draft.reader?,
      context?_of_within (Draft.kinds_operand hs h) ⟨rfl, rfl, rfl⟩ (by simp [ht])]
    simp [Reader.operand, ht, Context.reader, Place.level?, Primary.value?, Option.bind_assoc]
  case letter =>
    have h : d.operand s t = d.group (.slot s) t := by simp [Draft.operand, ht]
    rw [h, ← group_square (by exact hs) (.inl ⟨name, ht⟩) .operand column]
    rfl
  case openParen =>
    have h : d.operand s t = d.group (.slot s) t := by simp [Draft.operand, ht]
    rw [h, ← group_square (by exact hs) (.inr ht) .operand column]
    rfl
  case plus =>
    rw [reader?_of_sign .plus hs (by simp [ht]) (by simp [Draft.operand, ht])]
    simp [Reader.operand, ht, Context.reader, negations]
  case minus =>
    rw [reader?_of_sign .minus hs (by simp [ht]) (by simp [Draft.operand, ht])]
    simp [Reader.operand, ht, Context.reader, negations]
  all_goals simp [Draft.operand, Reader.operand, ht]

theorem afterPower_square {head : Head} {place : Place head} {p : Power head}
    (hs : d.stage.kinds = (place.term p).kinds) (stage : Polynomial K → OneUnknown.Stage K) :
    ((d.context? limit).bind fun c => (place.level? limit c.sum?).bind fun level =>
      (p.value? limit).bind fun q =>
        ((c.reader level (stage q) d.column).afterPower limit q t).toOption) =
        (d.afterTerm (place.term p) t).bind (·.reader? limit) := by
  rw [← afterTerm_square hs]
  refine Option.bind_congr fun c _ => ?_
  refine Eq.trans ?_ (level?_bind_withFactor d.column place p fun sum? q =>
    ((c.reader ⟨sum?, none, 0⟩ .operand d.column).afterProduct q t).toOption)
  refine Option.bind_congr fun level _ => Option.bind_congr fun q _ => ?_
  rw [Reader.afterPower, toOption_bind]
  rfl

theorem base_square {head : Head} {place : Place head} {b : Primary head}
    (hs : d.stage = .base place b) :
    ((d.reader? (K := K) limit).bind fun r => (r.step limit t).toOption) =
      (d.push t).bind (·.reader? limit) := by
  rcases ht : t.kind with value | name | n | _ | _ | _ | _ | _ | _ | _ | _ | _
  case caret =>
    have h : d.push t = some { d with stage := .exponent place b, column := t.column } := by
      simp [Draft.push, hs, ht]
    rw [h, Option.bind_some, Draft.reader?, Draft.reader?,
      context?_of_within (Draft.kinds_push h) ⟨rfl, rfl, rfl⟩ (by simp [ht])]
    simp [hs, ht, Context.reader, Reader.step, Option.bind_assoc]
  case superscript =>
    have h : d.push t = some { d with
        stage := .power place (.of b (some (.superscript n))), column := t.column } := by
      simp [Draft.push, hs, ht]
    rw [h, Option.bind_some, Draft.reader?, Draft.reader?,
      context?_of_within (Draft.kinds_push h) ⟨rfl, rfl, rfl⟩ (by simp [ht])]
    simp [hs, ht, Context.reader, Reader.step, toOption_raised, Power.value?, Exponent.exponent,
      Option.bind_assoc]
  all_goals
    have h : d.push t = d.afterTerm (place.term (.of b none)) t :=
      Draft.push_of_term? (by simp [Draft.term?, hs]) (by simp [ht]) (by simp [ht])
    rw [h, ← afterPower_square (by rw [hs, Place.kinds_term]; simp [Power.kinds])
      OneUnknown.Stage.base, Draft.reader?]
    simp [hs, ht, Context.reader, Reader.step, Power.value?, Option.bind_assoc]

theorem exponent_square {head : Head} {place : Place head} {b : Primary head}
    (hs : d.stage = .exponent place b) :
    ((d.reader? (K := K) limit).bind fun r => (r.step limit t).toOption) =
      (d.push t).bind (·.reader? limit) := by
  rcases ht : t.kind with value | name | n | _ | _ | _ | _ | _ | _ | _ | _ | _
  case number =>
    rcases hn : exponentOf? value with _ | n
    · have h : d.push t = none := by
        simp only [Draft.push, hs, ht]
        split <;> simp_all
      rw [h]
      simp [Draft.reader?, hs, ht, hn, Context.reader, Reader.step, Option.bind_assoc]
    have h : d.push t = some { d with
        stage := .power place (.of b (some (.caret value n (exponentOf?_eq_some_iff.mp hn))))
        column := t.column } := Draft.push_exponent hs ht _
    rw [h, Option.bind_some, Draft.reader?, Draft.reader?,
      context?_of_within (Draft.kinds_push h) ⟨rfl, rfl, rfl⟩ (by simp [ht])]
    simp [hs, ht, hn, Context.reader, Reader.step, toOption_raised, Power.value?, Exponent.exponent,
      Option.bind_assoc]
  all_goals
    simp [Draft.push, Draft.reader?, hs, ht, Context.reader, Reader.step, Option.bind_assoc]

/-- **Reading a token is evaluating the draft with that token.** -/
theorem step_square (limit : Nat) (d : Draft) (t : Token) :
    ((d.reader? (K := K) limit).bind fun r => (r.step limit t).toOption) =
      (d.push t).bind (·.reader? limit) := by
  rcases hs : d.stage with s | ⟨place, b⟩ | ⟨place, b⟩ | ⟨place, p⟩
  · simp only [Draft.push, hs]
    rw [← operand_square (by rw [hs]; rfl) d.column, Draft.reader?]
    simp [hs, Option.bind_assoc, Context.reader, Reader.step]
  · exact base_square hs
  · exact exponent_square hs
  · simp only [Draft.push, hs]
    rw [← afterPower_square (by rw [hs, Place.kinds_term]; rfl) OneUnknown.Stage.power,
      Draft.reader?]
    simp [hs, Option.bind_assoc, Context.reader, Reader.step]

end

/-- **Reading tokens is evaluating the draft of them.** -/
theorem foldlM_square (limit : Nat) (d : Draft) (ts : List Token) :
    ((d.reader? (K := K) limit).bind fun r => (ts.foldlM (Reader.step limit) r).toOption) =
      (ts.foldlM Draft.push d).bind (·.reader? limit) := by
  induction ts generalizing d with
  | nil => simp [Option.bind_some]
  | cons t ts ih =>
    simp only [List.foldlM_cons, toOption_bind, Option.bind_eq_bind]
    rw [← Option.bind_assoc, step_square, Option.bind_assoc, Option.bind_assoc]
    exact Option.bind_congr fun d' _ => ih d'

/-- The equation that ends with the given side. -/
def Context.equation (c : Context K) (side : Polynomial K) : Equation K :=
  match c.left? with
  | none => ⟨c.unknown?, side, none⟩
  | some left => ⟨c.unknown?, left, some side⟩

theorem value?_of_finish? {limit : Nat} {d : Draft} {u : Term} (hu : d.term? = some u) :
    d.finish?.bind (·.value? (K := K) limit) =
      (d.context? limit).bind fun c => (u.value? limit).bind fun q =>
        if c.outer.isEmpty then some (c.equation (Level.total ⟨c.sum?, none, 0⟩ q)) else none := by
  by_cases ho : d.outer.isEmpty
  · have hd : d.finish? = some (match d.left? with
        | none => ⟨d.phrase u, none⟩
        | some left => ⟨left, some (d.phrase u)⟩) := by
      simp only [Draft.finish?, hu, ho, if_true, Option.bind_eq_bind, Option.bind_some]
      rfl
    rw [hd, Option.bind_some, Sentence.value?, Draft.kinds_of_finish? hd, Draft.context?]
    rcases soleLetter? d.kinds with _ | unknown?
    · rfl
    rw [List.isEmpty_iff] at ho
    rcases d.left? with _ | left
    · simp [leftValue?, outerValue?, ho, value?_phrase, Context.equation, Option.bind_map,
        Option.bind_assoc]
    · simp [leftValue?, outerValue?, ho, value?_phrase, Context.equation, Option.bind_map,
        Option.bind_assoc]
  · have hd : d.finish? = none := by simp [Draft.finish?, hu, ho]
    rcases hc : d.context? (K := K) limit with _ | c
    · simp [hd]
    · simp only [hd, (isEmpty_of_context? hc).1, if_neg ho, Option.bind_none, Option.bind_some,
        Option.bind_fun_none]

theorem toOption_finish_base (limit column : Nat) (c : Context K) (level : Level K)
    (p : Polynomial K) (last : Nat) :
    ((c.reader level (.base p) last).finish limit column).toOption =
      ((c.reader level (.base p) last).close limit p column).toOption.bind fun side =>
        some (c.equation side) :=
  toOption_bind _ _

theorem toOption_finish_power (limit column : Nat) (c : Context K) (level : Level K)
    (p : Polynomial K) (last : Nat) :
    ((c.reader level (.power p) last).finish limit column).toOption =
      ((c.reader level (.power p) last).close limit p column).toOption.bind fun side =>
        some (c.equation side) :=
  toOption_bind _ _

theorem close_square {limit : Nat} {d : Draft} {head : Head} {place : Place head} {p : Power head}
    (hu : d.term? = some (place.term p)) (stage : Polynomial K → OneUnknown.Stage K)
    (column : Nat) :
    ((d.context? limit).bind fun c => (place.level? limit c.sum?).bind fun level =>
      (p.value? limit).bind fun q =>
        ((c.reader level (stage q) d.column).close limit q column).toOption.bind fun side =>
          some (c.equation side)) = d.finish?.bind (·.value? limit) := by
  rw [value?_of_finish? hu]
  refine Option.bind_congr fun c _ => ?_
  refine Eq.trans ?_ (level?_bind_withFactor d.column place p fun sum? q =>
    if c.outer.isEmpty then some (c.equation (Level.total ⟨sum?, none, 0⟩ q)) else none)
  refine Option.bind_congr fun level _ => Option.bind_congr fun q _ => ?_
  rw [Reader.close, toOption_bind, Option.bind_assoc]
  refine Option.bind_congr fun product _ => ?_
  by_cases ho : c.outer.isEmpty
  · simp only [Context.reader, ho, if_true]
    rfl
  · simp [Context.reader, ho]

/-- **The end of input is the end of the sentence.** -/
theorem finish_square (limit column : Nat) (d : Draft) :
    ((d.reader? (K := K) limit).bind fun r => (r.finish limit column).toOption) =
      d.finish?.bind (·.value? limit) := by
  rcases hs : d.stage with s | ⟨place, b⟩ | ⟨place, b⟩ | ⟨place, p⟩
  · simp [Draft.finish?, Draft.term?, Draft.reader?, hs, Context.reader, Reader.finish,
      Option.bind_assoc]
  · have hu : d.term? = some (place.term (.of b none)) := by simp [Draft.term?, hs]
    rw [← close_square hu OneUnknown.Stage.base column, Draft.reader?]
    simp [hs, toOption_finish_base, Power.value?, Option.bind_assoc]
  · simp [Draft.finish?, Draft.term?, Draft.reader?, hs, Context.reader, Reader.finish,
      Option.bind_assoc]
  · have hu : d.term? = some (place.term p) := by simp [Draft.term?, hs]
    rw [← close_square hu OneUnknown.Stage.power column, Draft.reader?]
    simp [hs, toOption_finish_power, Option.bind_assoc]

/-- **Reading an equation is evaluating its derivation**, two signs of equality apart. -/
theorem toOption_read (limit column : Nat) (ts : List Token) :
    (do (← ts.foldlM (Reader.step limit) {}).finish limit column :
      SolveResult (Equation K)).toOption = (derivation? ts).bind (·.value? limit) := by
  have h : ({} : Draft).reader? (K := K) limit = some {} := rfl
  have hfold := foldlM_square (K := K) limit {} ts
  rw [h, Option.bind_some] at hfold
  rw [toOption_bind, hfold, derivation?, Option.bind_eq_bind, Option.bind_assoc, Option.bind_assoc]
  exact Option.bind_congr fun d _ => finish_square limit column d

/-! ## Equations -/

/-- **What a row of tokens means**: the sentence that it spells, provided that no second sign of
equality follows the end of input. -/
theorem ofTokens_eq_ok_iff_of_equals {limit : Nat} {ts : List Token} {e : Equation K}
    (h : (equalsColumns ts).length ≤ 1) : Equation.ofTokens limit ts = .ok e ↔
      ∃ s : Sentence, s.kinds = (body ts).map (·.kind) ∧ s.value? limit = some e := by
  have hread : Equation.ofTokens (K := K) limit ts = (do
      (← (body ts).foldlM (Reader.step limit) {}).finish limit (endColumn ts)) := by
    unfold Equation.ofTokens
    split
    · simp_all
    · rfl
  have hok : ∀ x : SolveResult (Equation K), x = .ok e ↔ x.toOption = some e := by
    intro x
    cases x <;> simp
  rw [hok, hread, toOption_read, Option.bind_eq_some_iff]
  constructor
  · rintro ⟨s, hs, hv⟩
    exact ⟨s, kinds_of_derivation? hs, hv⟩
  · rintro ⟨s, hs, hv⟩
    exact ⟨s, derivation?_of_kinds hs.symm, hv⟩

theorem length_equalsColumns {text : String} {ts : List Token} (h : tokens text = .ok ts) :
    (equalsColumns ts).length = (((body ts).map (·.kind)).filter (·.isEquals)).length := by
  obtain ⟨stop, hstop, hts⟩ := exists_body_append h
  have hequals : stop.kind.isEquals = false := by
    rcases hk : stop.kind <;> simp_all [TokenKind.isEnd, TokenKind.isEquals]
  have hfilter : ts.filter (·.kind.isEquals) = (body ts).filter (·.kind.isEquals) := by
    conv_lhs => rw [← hts, List.filter_append]
    simp [hequals]
  rw [equalsColumns, hfilter, List.length_map, List.filter_map, List.length_map]
  rfl

/-- **Reading accepts exactly the grammar and computes its meaning.** The tokens of a text are read
as an equation just if those before the end of input are spelled by a sentence that has a value;
then the equation is that value. There is no other sentence that spells them. -/
theorem ofTokens_eq_ok_iff {limit : Nat} {text : String} {ts : List Token}
    (h : tokens text = .ok ts) (e : Equation K) :
    (Equation.ofTokens limit ts = .ok e ↔
      ∃ s : Sentence, s.kinds = (body ts).map (·.kind) ∧ s.value? limit = some e) ∧
    ∀ s s' : Sentence, s.kinds = (body ts).map (·.kind) → s'.kinds = (body ts).map (·.kind) →
      s = s' := by
  refine ⟨?_, fun s s' hs hs' => Sentence.kinds_injective (hs.trans hs'.symm)⟩
  by_cases hc : (equalsColumns ts).length ≤ 1
  · exact ofTokens_eq_ok_iff_of_equals hc
  · constructor
    · intro hok
      unfold Equation.ofTokens at hok
      split at hok
      · simp at hok
      · rename_i hne
        rcases hcs : equalsColumns ts with _ | ⟨first, _ | ⟨second, columns⟩⟩
        · simp [hcs] at hc
        · simp [hcs] at hc
        · exact absurd hcs (hne first second columns)
    · rintro ⟨s, hs, -⟩
      refine absurd ?_ hc
      rw [length_equalsColumns h, ← hs]
      exact s.equals_le_one

set_option maxRecDepth 100000 in
/-- The sentence of `2x²=8`, in which a number is multiplied by the power beside it. -/
theorem ofTokens_two_squares :
    let ts : List Token := [⟨.number 2, "2", 1⟩, ⟨.letter 'x', "x", 2⟩, ⟨.superscript 2, "²", 3⟩,
      ⟨.equals, "=", 4⟩, ⟨.number 8, "8", 5⟩, ⟨.endOfInput, "", 6⟩]
    let s : Sentence := ⟨.term (.beside (.factor (.power (.of (.number 2) none)))
      (.of (.letter 'x') (some (.superscript 2)))),
      some (.term (.factor (.power (.of (.number 8) none))))⟩
    tokens "2x²=8" = .ok ts ∧ ∃ e : Equation Float,
      s.value? 2 = some e ∧ Equation.ofTokens 2 ts = .ok e := by
  intro ts s
  have hts : tokens "2x²=8" = .ok ts := by with_unfolding_all rfl
  have hs : (s.value? (K := Float) 2).isSome := by decide +kernel
  obtain ⟨e, he⟩ := Option.isSome_iff_exists.mp hs
  exact ⟨hts, e, he, (ofTokens_eq_ok_iff hts e).1.mpr ⟨s, rfl, he⟩⟩

end OneUnknown.Grammar
