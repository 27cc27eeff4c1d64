import OneUnknown.Proofs.Descent.Safety
import OneUnknown.Proofs.Polynomial.Degree

/-!
# The degree limit bounds all that is made

Products and powers are refused when their degree would exceed the limit, and nothing else raises
a degree above those of its operands. So every polynomial that a run makes stays within the limit,
the squares and partial products on the way to a power among them.

* `Fits`, **`Keeps`**: a degree within the limit, and a run that makes nothing beyond it;
  `Keeps.bind` and its companions: the rules;
* `keeps_times`, **`keeps_powLoop`**, `keeps_raised`: the operations that raise degrees;
* `keeps_primary`, …, **`keeps_equation`**: the grammar;
* **`built_within_limit`**: every run over any tokens, and the equation that is read.
-/

namespace OneUnknown.Descent

open OneUnknown.Polynomial

variable {limit : Nat} {α β : Type}

/-! ## Runs that keep to the limit -/

/-- A polynomial within the limit. -/
def Fits (limit : Nat) (p : Polynomial Float) : Prop := p.degree ≤ limit

/-- **A run makes nothing beyond the limit**, and its value is as wanted. -/
def Keeps (limit : Nat) (m : Descent Float α) (Q : α → Prop) : Prop :=
  ∀ s : State Float, (∀ p ∈ s.built, Fits limit p) →
    (∀ p ∈ (outcome m s).2.built, Fits limit p) ∧ ∀ a, (outcome m s).1 = .ok a → Q a

section Rules

variable {m : Descent Float α} {f : α → Descent Float β} {Q Q' : α → Prop} {P : β → Prop}

theorem Keeps.pure {a : α} (h : Q a) : Keeps limit (pure a : Descent Float α) Q := by
  intro s hs
  refine ⟨hs, fun b hb => ?_⟩
  cases hb
  exact h

theorem Keeps.throw {halt : Halt} : Keeps limit (throw halt : Descent Float α) Q :=
  fun _ hs => ⟨hs, nofun⟩

theorem Keeps.refuse {complaint : Complaint} : Keeps limit (refuse complaint) Q := Keeps.throw

theorem Keeps.bind (hm : Keeps limit m Q) (hf : ∀ a, Q a → Keeps limit (f a) P) :
    Keeps limit (m >>= f) P := by
  intro s hs
  have hend := hm s hs
  rw [outcome_bind]
  revert hend
  rcases outcome m s with ⟨halt | a, s'⟩
  · exact fun hend => ⟨hend.1, nofun⟩
  · exact fun hend => hf a (hend.2 a rfl) s' hend.1

theorem Keeps.imp (hm : Keeps limit m Q) (h : ∀ a, Q a → Q' a) : Keeps limit m Q' :=
  fun s hs => ⟨(hm s hs).1, fun a ha => h a ((hm s hs).2 a ha)⟩

theorem Keeps.andThen (hm : Keeps limit m fun _ => True) (hf : ∀ a, Keeps limit (f a) P) :
    Keeps limit (m >>= f) P :=
  hm.bind fun a _ => hf a

theorem keeps_get : Keeps limit (get : Descent Float (State Float)) fun _ => True :=
  fun _ hs => ⟨hs, fun _ _ => trivial⟩

theorem keeps_modify {g : State Float → State Float} (hg : ∀ s, (g s).built = s.built) :
    Keeps limit (modify g : Descent Float PUnit) fun _ => True := by
  intro s hs
  refine ⟨?_, fun _ _ => trivial⟩
  rw [outcome_modify, hg]
  exact hs

theorem keeps_build {p : Polynomial Float} (h : Fits limit p) :
    Keeps limit (build p) fun q => q = p := by
  intro s hs
  refine ⟨List.forall_mem_cons.mpr ⟨h, hs⟩, fun q hq => ?_⟩
  cases hq
  rfl

theorem keeps_built {p : Polynomial Float} (h : Fits limit p) :
    Keeps limit (build p) (Fits limit) :=
  (keeps_build h).imp fun _ hq => hq ▸ h

end Rules

/-! ## Tokens and the unknown -/

section Tokens

variable (row : List Token)

theorem keeps_tokenAt (index : Nat) :
    Keeps limit (tokenAt row index : Descent Float Token) fun _ => True := by
  refine Keeps.andThen (keeps_modify fun _ => rfl) fun _ => ?_
  cases row[index]? with
  | some t => exact Keeps.pure trivial
  | none => exact Keeps.throw

theorem keeps_peek : Keeps limit (peek row : Descent Float Token) fun _ => True :=
  keeps_get.andThen fun _ => keeps_tokenAt row _

theorem keeps_previous : Keeps limit (previous row : Descent Float Token) fun _ => True := by
  refine keeps_get.andThen fun s => ?_
  by_cases hzero : s.position = 0
  · simp only [hzero, if_true]
    exact Keeps.throw
  · simp only [hzero, if_false]
    exact keeps_tokenAt row _

theorem keeps_atEnd : Keeps limit (atEnd row : Descent Float Bool) fun _ => True :=
  (keeps_peek row).andThen fun _ => Keeps.pure trivial

theorem keeps_advance : Keeps limit (advance row : Descent Float Token) fun _ => True := by
  refine (keeps_atEnd row).andThen fun finished => ?_
  cases finished with
  | true => exact keeps_peek row
  | false => exact Keeps.andThen (keeps_modify fun _ => rfl) fun _ => keeps_previous row

theorem keeps_check (kind : TokenKind) :
    Keeps limit (check row kind : Descent Float Bool) fun _ => True :=
  (keeps_peek row).andThen fun _ => Keeps.pure trivial

theorem keeps_matchToken (kind : TokenKind) :
    Keeps limit (matchToken row kind : Descent Float Bool) fun _ => True := by
  refine (keeps_check row kind).andThen fun found => ?_
  cases found with
  | true => exact (keeps_advance row).andThen fun _ => Keeps.pure trivial
  | false => exact Keeps.pure trivial

theorem keeps_consume (kind : TokenKind) (complaint : Nat → Complaint) :
    Keeps limit (consume row kind complaint : Descent Float Token) fun _ => True := by
  refine (keeps_check row kind).andThen fun found => ?_
  cases found with
  | true => exact keeps_advance row
  | false => exact (keeps_peek row).andThen fun _ => Keeps.refuse

theorem keeps_startsPrimary :
    Keeps limit (startsPrimary row : Descent Float Bool) fun _ => True := by
  refine (keeps_peek row).andThen fun t => ?_
  cases t.kind <;> exact Keeps.pure trivial

theorem keeps_exponent? :
    Keeps limit (exponent? row : Descent Float (Option Nat)) fun _ => True := by
  refine (keeps_peek row).andThen fun t => ?_
  split
  · refine (keeps_advance row).andThen fun _ => (keeps_advance row).andThen fun u => ?_
    split
    · split
      · exact Keeps.pure trivial
      · exact Keeps.refuse
    · exact Keeps.refuse
  · exact (keeps_advance row).andThen fun _ => Keeps.pure trivial
  · exact Keeps.pure trivial

end Tokens

theorem keeps_bindLetter (name : Char) (column : Nat) :
    Keeps limit (bindLetter name column : Descent Float Unit) fun _ => True := by
  refine keeps_get.andThen fun s => ?_
  change Keeps limit (checked (bindUnknown s.unknown? name column) >>= _) _
  cases bindUnknown s.unknown? name column with
  | ok unknown => exact keeps_modify fun _ => rfl
  | error e => exact Keeps.throw

/-! ## Operations on polynomials -/

theorem fits_constant (c : Float) : Fits limit (constant c) := by
  rw [Fits, degree_constant]
  exact Nat.zero_le _

theorem Fits.add {p q : Polynomial Float} (hp : Fits limit p) (hq : Fits limit q) :
    Fits limit (p.add q) := degree_add_le.trans (Nat.max_le.mpr ⟨hp, hq⟩)

theorem Fits.sub {p q : Polynomial Float} (hp : Fits limit p) (hq : Fits limit q) :
    Fits limit (p.sub q) := degree_sub_le.trans (Nat.max_le.mpr ⟨hp, hq⟩)

theorem Fits.scale {p : Polynomial Float} (hp : Fits limit p) (c : Float) :
    Fits limit (p.scale c) := (degree_scale_le c).trans hp

/-- The polynomials that are multiplied within a power. With `n` further factors `base` to come,
the degree of the whole power is within the limit, and the square of `base` is made only where two
of them are left. -/
theorem keeps_powLoop {result base : Polynomial Float} {n : Nat}
    (hdegree : result.degree + base.degree * n ≤ limit) :
    Keeps limit (powLoop result base n) (Fits limit) := by
  induction n using Nat.strongRecOn generalizing result base with
  | ind n ih =>
    rw [powLoop]
    by_cases hzero : n = 0
    · rw [if_pos hzero]
      exact Keeps.pure ((Nat.le_add_right _ _).trans hdegree)
    rw [if_neg hzero]
    have hrest (r : Polynomial Float) (hr : r.degree + base.degree * (2 * (n / 2)) ≤ limit) :
        Keeps limit (if n / 2 = 0 then pure r
          else do powLoop r (← build (base.mul base)) (n / 2)) (Fits limit) := by
      by_cases hhalf : n / 2 = 0
      · rw [if_pos hhalf]
        exact Keeps.pure ((Nat.le_add_right _ _).trans hr)
      rw [if_neg hhalf]
      have hsquare : (base.mul base).degree ≤ base.degree * 2 := by
        have := degree_mul_le (p := base) (q := base)
        omega
      have hpower : (base.mul base).degree * (n / 2) ≤ base.degree * (2 * (n / 2)) := by
        rw [← Nat.mul_assoc]
        exact Nat.mul_le_mul_right _ hsquare
      have hfits : (base.mul base).degree ≤ (base.mul base).degree * (n / 2) :=
        Nat.le_mul_of_pos_right _ (Nat.pos_of_ne_zero hhalf)
      refine (keeps_build (show (base.mul base).degree ≤ limit by omega)).bind ?_
      rintro _ rfl
      exact ih (n / 2) (by omega) (by omega)
    by_cases hodd : n % 2 = 1
    · simp only [hodd, if_true]
      have hmul := degree_mul_le (p := result) (q := base)
      have hsplit : base.degree * n = base.degree * (2 * (n / 2)) + base.degree := by
        rw [← Nat.mul_succ]
        congr 1
        omega
      refine (keeps_build (show (result.mul base).degree ≤ limit by omega)).bind ?_
      rintro _ rfl
      exact hrest _ (by omega)
    · simp only [hodd, if_false]
      have heven : 2 * (n / 2) = n := by omega
      exact hrest _ (by rw [heven]; exact hdegree)

section Operations

variable (row : List Token)

theorem keeps_raised (base : Polynomial Float) (exponent : Nat) :
    Keeps limit (raised row limit base exponent) (Fits limit) := by
  refine (keeps_previous row).andThen fun t => ?_
  cases base.asConstant? with
  | some c =>
    by_cases hfinite : Scalar.isFinite (Scalar.power c exponent) = true
    · simp only [hfinite, if_true]
      exact keeps_built (fits_constant _)
    · simp only [hfinite]
      exact Keeps.refuse
  | none =>
    by_cases hdegree : limit < base.degree * exponent
    · simp only [hdegree, if_true]
      exact Keeps.refuse
    · simp only [hdegree, if_false]
      refine (keeps_build (fits_constant 1)).bind ?_
      rintro _ rfl
      refine keeps_powLoop ?_
      rw [degree_constant]
      omega

theorem keeps_times (p q : Polynomial Float) :
    Keeps limit (times row limit p q) (Fits limit) := by
  unfold times
  by_cases hdegree : limit < p.degree + q.degree
  · simp only [hdegree, if_true]
    exact keeps_get.andThen fun _ => (keeps_tokenAt row _).andThen fun _ => Keeps.refuse
  · simp only [hdegree, if_false]
    exact keeps_built (degree_mul_le.trans (Nat.not_lt.mp hdegree))

end Operations

theorem keeps_dividedBy (column : Nat) {p : Polynomial Float} (hp : Fits limit p)
    (q : Polynomial Float) : Keeps limit (dividedBy column p q) (Fits limit) := by
  unfold dividedBy
  cases q.asConstant? with
  | some d =>
    by_cases hzero : (d == 0) = true
    · simp only [hzero, if_true]
      exact Keeps.throw
    · simp only [hzero]
      exact keeps_built (hp.scale _)
  | none => exact Keeps.refuse

/-! ## The grammar -/

section Grammar

variable (row : List Token) {phrase : Descent Float (Polynomial Float)}
  (hlimit : 1 ≤ limit) (hphrase : Keeps limit phrase (Fits limit))

include hlimit hphrase

theorem keeps_primary : Keeps limit (primary row phrase) (Fits limit) := by
  refine (keeps_advance row).andThen fun t => ?_
  split
  · exact keeps_built (fits_constant _)
  · refine (keeps_bindLetter _ _).andThen fun _ => ?_
    exact keeps_built ((degree_monomial_le 1 1).trans hlimit)
  · refine hphrase.bind fun p hp => ?_
    exact (keeps_consume row _ _).andThen fun _ => Keeps.pure hp
  · exact Keeps.refuse
  · exact Keeps.refuse

theorem keeps_power : Keeps limit (power row limit phrase) (Fits limit) := by
  refine (keeps_primary row hlimit hphrase).bind fun base hbase => ?_
  refine (keeps_exponent? row).andThen fun exponent? => ?_
  cases exponent? with
  | some exponent => exact keeps_raised row base exponent
  | none => exact Keeps.pure hbase

theorem keeps_unary (turns : Nat) : Keeps limit (unary row limit phrase turns) (Fits limit) := by
  induction turns with
  | zero => exact Keeps.throw
  | succ turns ih =>
    refine (keeps_matchToken row _).andThen fun minus => ?_
    cases minus with
    | true => exact ih.bind fun p hp => keeps_built (hp.scale _)
    | false =>
      refine (keeps_matchToken row _).andThen fun plus => ?_
      cases plus with
      | true => exact ih
      | false => exact keeps_power row hlimit hphrase

theorem keeps_factors (turns : Nat) {product : Polynomial Float} (hproduct : Fits limit product) :
    Keeps limit (factors row limit phrase turns product) (Fits limit) := by
  induction turns generalizing product with
  | zero => exact Keeps.throw
  | succ turns ih =>
    refine (keeps_matchToken row _).andThen fun star => ?_
    cases star with
    | true =>
      refine (keeps_unary row hlimit hphrase turns).bind fun q _ => ?_
      exact (keeps_times row product q).bind fun _ => ih
    | false =>
      refine (keeps_check row _).andThen fun slash => ?_
      cases slash with
      | true =>
        refine (keeps_advance row).andThen fun t => ?_
        refine (keeps_unary row hlimit hphrase turns).bind fun q _ => ?_
        exact (keeps_dividedBy _ hproduct q).bind fun _ => ih
      | false =>
        refine (keeps_startsPrimary row).andThen fun starts => ?_
        cases starts with
        | true =>
          refine (keeps_peek row).andThen fun t => ?_
          split
          · exact (keeps_peek row).andThen fun _ => Keeps.refuse
          · refine (keeps_power row hlimit hphrase).bind fun q _ => ?_
            exact (keeps_times row product q).bind fun _ => ih
        | false => exact Keeps.pure hproduct

theorem keeps_term (turns : Nat) : Keeps limit (term row limit phrase turns) (Fits limit) :=
  (keeps_unary row hlimit hphrase turns).bind fun _ => keeps_factors row hlimit hphrase turns

theorem keeps_terms (turns : Nat) {sum : Polynomial Float} (hsum : Fits limit sum) :
    Keeps limit (terms row limit phrase turns sum) (Fits limit) := by
  induction turns generalizing sum with
  | zero => exact Keeps.throw
  | succ turns ih =>
    refine (keeps_matchToken row _).andThen fun plus => ?_
    cases plus with
    | true =>
      refine (keeps_term row hlimit hphrase turns).bind fun q hq => ?_
      exact (keeps_built (hsum.add hq)).bind fun _ => ih
    | false =>
      refine (keeps_matchToken row _).andThen fun minus => ?_
      cases minus with
      | true =>
        refine (keeps_term row hlimit hphrase turns).bind fun q hq => ?_
        exact (keeps_built (hsum.sub hq)).bind fun _ => ih
      | false => exact Keeps.pure hsum

end Grammar

theorem keeps_expression (row : List Token) (hlimit : 1 ≤ limit) (turns : Nat) :
    Keeps limit (expression row limit turns) (Fits limit) := by
  induction turns with
  | zero => exact Keeps.throw
  | succ turns ih =>
    exact (keeps_term row hlimit ih _).bind fun _ => keeps_terms row hlimit ih _

theorem keeps_rightSide? (row : List Token) (hlimit : 1 ≤ limit) (turns : Nat) :
    Keeps limit (rightSide? row limit turns) fun right? => ∀ p ∈ right?, Fits limit p := by
  refine (keeps_matchToken row _).andThen fun equals => ?_
  cases equals with
  | true =>
    refine (keeps_expression row hlimit turns).bind fun p hp => Keeps.pure ?_
    rintro _ ⟨⟩
    exact hp
  | false => exact Keeps.pure nofun

/-- **A run over a row makes nothing beyond the limit.** -/
theorem keeps_equation (row : List Token) (hlimit : 1 ≤ limit) (turns : Nat) :
    Keeps limit (equation row limit turns : Descent Float (Equation Float)) fun e =>
      Fits limit e.left ∧ ∀ p ∈ e.right?, Fits limit p := by
  unfold equation
  split
  · exact Keeps.refuse
  refine (keeps_expression row hlimit turns).bind fun left hleft => ?_
  refine (keeps_rightSide? row hlimit turns).bind fun right? hright => ?_
  refine (keeps_atEnd row).andThen fun finished => ?_
  cases finished with
  | true => exact keeps_get.andThen fun s => Keeps.pure ⟨hleft, hright⟩
  | false => exact (keeps_peek row).andThen fun _ => Keeps.refuse

/-- **The degree limit bounds all that is made.** Whatever the tokens, the run over them makes no
polynomial with more than `limit + 1` coefficients, whether it ends with an equation or is refused,
and neither the sides of an equation that is read nor their difference exceed the limit. -/
theorem built_within_limit (limit : Nat) (hlimit : 1 ≤ limit) (ts : List Token) :
    ∃ s : State Float,
      (∀ turns, (closed ts).length ≤ turns → outcome (equation (closed ts) limit turns) {} =
        ((Equation.ofTokens limit ts).mapError .refused, s)) ∧
      (∀ p ∈ s.built, p.coeffs.length ≤ limit + 1) ∧
      ∀ e : Equation Float, Equation.ofTokens limit ts = .ok e →
        e.left.degree ≤ limit ∧ (∀ right, e.right? = some right → right.degree ≤ limit) ∧
          e.normalized.degree ≤ limit := by
  obtain ⟨s, hrun, -⟩ := outcome_equation (K := Float) limit ts
  obtain ⟨hbuilt, hvalue⟩ := keeps_equation (closed ts) hlimit (closed ts).length {} nofun
  rw [hrun _ (Nat.le_refl _)] at hbuilt hvalue
  refine ⟨s, hrun, fun p hp => ?_, fun e he => ?_⟩
  · have := hbuilt p hp
    rw [Fits, degree] at this
    omega
  · obtain ⟨hleft, hright⟩ := hvalue e (by rw [he]; rfl)
    refine ⟨hleft, fun right h => hright right h, ?_⟩
    unfold Equation.normalized
    cases hside : e.right? with
    | none => exact hleft
    | some right => exact hleft.sub (hright right hside)

/-- The square of the unknown, within the least limit that admits it. The run makes the unknown and
the number one, multiplies the unknown by itself, and one by the product. -/
theorem built_within_limit_square :
    1 ≤ 2 ∧ ∃ s : State Float,
      outcome (equation (closed [⟨.letter 'x', "x", 1⟩, ⟨.superscript 2, "²", 2⟩]) 2 3) {} =
        ((Equation.ofTokens 2 [⟨.letter 'x', "x", 1⟩, ⟨.superscript 2, "²", 2⟩]).mapError
          .refused, s) ∧
      s.built.reverse.map (fun p => p.coeffs.length) = [2, 1, 3, 3] ∧
      (∀ p ∈ s.built, p.coeffs.length ≤ 3) ∧
      ∃ e : Equation Float,
        Equation.ofTokens 2 [⟨.letter 'x', "x", 1⟩, ⟨.superscript 2, "²", 2⟩] = .ok e ∧
        e.left.degree = 2 ∧ e.normalized.degree ≤ 2 := by
  refine ⟨by decide, ?_⟩
  obtain ⟨s, hrun, hbuilt, hsides⟩ := built_within_limit 2 (by decide)
    [⟨.letter 'x', "x", 1⟩, ⟨.superscript 2, "²", 2⟩]
  have hleft : ((Equation.ofTokens 2
      [⟨.letter 'x', "x", 1⟩, ⟨.superscript 2, "²", 2⟩] : SolveResult (Equation Float)).toOption.map
        fun e => e.left.degree) = some 2 := by decide +kernel
  have hrecord : s = (outcome (equation (closed
      [⟨.letter 'x', "x", 1⟩, ⟨.superscript 2, "²", 2⟩]) 2 3) {}).2 := by
    rw [hrun 3 (by decide)]
  refine ⟨s, hrun 3 (by decide), by rw [hrecord]; decide +kernel, hbuilt, ?_⟩
  cases hread : (Equation.ofTokens 2
      [⟨.letter 'x', "x", 1⟩, ⟨.superscript 2, "²", 2⟩] : SolveResult (Equation Float)) with
  | error e => rw [hread] at hleft; cases hleft
  | ok e =>
    rw [hread] at hleft
    exact ⟨e, rfl, Option.some.inj hleft, (hsides e hread).2.2⟩

end OneUnknown.Descent
