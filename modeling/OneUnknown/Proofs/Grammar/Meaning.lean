import Mathlib.Algebra.Field.Rat
import OneUnknown.Proofs.Grammar.Reading
import OneUnknown.Proofs.Number.Sign
import OneUnknown.Proofs.Polynomial.Evaluation

/-!
# What an equation says

An expression has a value for every rational number put in place of its letter. It is computed from
the derivation alone: signs, sums, products, quotients and powers mean what they mean for rational
numbers, and what stands side by side is multiplied. Read in exact arithmetic, the polynomial that
an expression becomes has the same values, so left side minus right side is zero at the solutions of
the equation and nowhere else.

* `Phrase.valueAt` and its companions: the value of an expression;
* `Sentence.rightAt`, `Sentence.Holds`: the right side, and solutions;
* `Phrase.evaluate_eq` and its companions: reading preserves values;
* **`ofTokens_evaluate`**: an equation that has been read means what is written.
-/

namespace OneUnknown.Grammar

/-! ## Values of expressions -/

/-- The whole number that is written as an exponent. -/
def Exponent.integer : Exponent → ℤ
  | .caret value _ _ => (exactValue value).num
  | .superscript n => n

mutual

/-- **The value of a sum** at `x`. -/
def Phrase.valueAt (x : ℚ) : Phrase → ℚ
  | .term t => t.valueAt x
  | .sum p .plus t => p.valueAt x + t.valueAt x
  | .sum p .minus t => p.valueAt x - t.valueAt x

/-- **The value of a product** at `x`. -/
def Term.valueAt (x : ℚ) : Term → ℚ
  | .factor f => f.valueAt x
  | .times t f => t.valueAt x * f.valueAt x
  | .over t f => t.valueAt x / f.valueAt x
  | .beside t p => t.valueAt x * p.valueAt x

def Factor.valueAt (x : ℚ) : Factor → ℚ
  | .power p => p.valueAt x
  | .signed .plus f => f.valueAt x
  | .signed .minus f => -f.valueAt x

def Power.valueAt (x : ℚ) {head : Head} : Power head → ℚ
  | .of b none => b.valueAt x
  | .of b (some e) => b.valueAt x ^ e.integer

def Primary.valueAt (x : ℚ) {head : Head} : Primary head → ℚ
  | .number value => exactValue value
  | .letter _ => x
  | .parenthesis p => p.valueAt x

end

namespace Sentence

/-- The value of the right side, zero if there is none. -/
def rightAt (s : Sentence) (x : ℚ) : ℚ := (s.right?.map (·.valueAt x)).getD 0

/-- **The number solves the equation**: both sides have the same value. -/
def Holds (s : Sentence) (x : ℚ) : Prop := s.left.valueAt x = s.rightAt x

end Sentence

/-! ## Checked operations -/

section Operations

variable {limit : Nat} {p q r : Polynomial ℚ} (x : ℚ)

theorem evaluate_combined (sign : TermSign) (p q : Polynomial ℚ) :
    (combined sign p q).evaluate x =
      match sign with
      | .plus => p.evaluate x + q.evaluate x
      | .minus => p.evaluate x - q.evaluate x := by
  cases sign with
  | plus => exact Polynomial.evaluate_add x p q
  | minus => exact Polynomial.evaluate_sub x p q

theorem evaluate_signedValue (sign : TermSign) (p : Polynomial ℚ) :
    (signedValue sign p).evaluate x =
      match sign with
      | .plus => p.evaluate x
      | .minus => -p.evaluate x := by
  cases sign with
  | plus => rfl
  | minus => exact Polynomial.evaluate_neg x p

theorem evaluate_of_mulWithin? (h : mulWithin? limit p q = some r) :
    r.evaluate x = p.evaluate x * q.evaluate x := by
  unfold mulWithin? at h
  split at h
  · obtain rfl := Option.some.inj h
    exact Polynomial.evaluate_mul x p q
  · simp at h

theorem evaluate_of_divide? (h : divide? p q = some r) :
    r.evaluate x = p.evaluate x / q.evaluate x := by
  unfold divide? at h
  split at h
  · rename_i d hd
    split at h
    · simp at h
    · obtain rfl := Option.some.inj h
      have hq : q.evaluate x = d := Polynomial.evaluate_of_asConstant? x hd
      exact (Polynomial.evaluate_scale x p (1 / d)).trans (by rw [hq, mul_one_div])
  · simp at h

theorem evaluate_of_raise? {n : Nat} (h : raise? limit p n = some r) :
    r.evaluate x = p.evaluate x ^ n := by
  unfold raise? at h
  split at h
  · rename_i c hc
    have hp : p.evaluate x = c := Polynomial.evaluate_of_asConstant? x hc
    obtain rfl := Option.some.inj h
    rw [hp]
    exact Polynomial.evaluate_constant x _
  · split at h
    · obtain rfl := Option.some.inj h
      exact Polynomial.evaluate_pow x p n
    · simp at h

end Operations

/-! ## Reading preserves values -/

/-- The numbers among the tokens are at least zero. -/
def Unsigned (kinds : List TokenKind) : Prop :=
  ∀ value, TokenKind.number value ∈ kinds → 0 ≤ exactValue value

theorem Unsigned.append_iff {kinds kinds' : List TokenKind} :
    Unsigned (kinds ++ kinds') ↔ Unsigned kinds ∧ Unsigned kinds' := by
  simp only [Unsigned, List.mem_append, or_imp, forall_and]

theorem Unsigned.of_cons {kind : TokenKind} {kinds : List TokenKind}
    (h : Unsigned (kind :: kinds)) : Unsigned kinds :=
  fun value hv => h value (List.mem_cons_of_mem _ hv)

theorem Exponent.integer_eq {e : Exponent} (h : Unsigned e.kinds) : e.integer = e.exponent := by
  cases e with
  | caret value n he =>
    have hnonneg := h value (by simp [Exponent.kinds])
    obtain ⟨-, z, hz, -, rfl⟩ := he
    rw [hz] at hnonneg
    have : 0 ≤ z := by exact_mod_cast hnonneg
    simp only [Exponent.integer, Exponent.exponent, hz, Rat.num_intCast]
    omega
  | superscript n => rfl

mutual

theorem Phrase.evaluate_eq {limit : Nat} (x : ℚ) : ∀ (p : Phrase) {q : Polynomial ℚ},
    Unsigned p.kinds → p.value? limit = some q → q.evaluate x = p.valueAt x
  | .term t, _, hu, h => t.evaluate_eq x hu h
  | .sum p sign t, q, hu, h => by
    obtain ⟨hup, hut⟩ := Unsigned.append_iff.mp hu
    obtain ⟨a, ha, h⟩ := Option.bind_eq_some_iff.mp h
    obtain ⟨b, hb, h⟩ := Option.bind_eq_some_iff.mp h
    obtain rfl := Option.some.inj h
    rw [evaluate_combined, p.evaluate_eq x hup ha, t.evaluate_eq x hut.of_cons hb]
    cases sign <;> rfl

theorem Term.evaluate_eq {limit : Nat} (x : ℚ) : ∀ (t : Term) {q : Polynomial ℚ},
    Unsigned t.kinds → t.value? limit = some q → q.evaluate x = t.valueAt x
  | .factor f, _, hu, h => f.evaluate_eq x hu h
  | .times t f, q, hu, h => by
    obtain ⟨hut, huf⟩ := Unsigned.append_iff.mp hu
    obtain ⟨a, ha, h⟩ := Option.bind_eq_some_iff.mp h
    obtain ⟨b, hb, h⟩ := Option.bind_eq_some_iff.mp h
    rw [evaluate_of_mulWithin? x h, t.evaluate_eq x hut ha, f.evaluate_eq x huf.of_cons hb]
    rfl
  | .over t f, q, hu, h => by
    obtain ⟨hut, huf⟩ := Unsigned.append_iff.mp hu
    obtain ⟨a, ha, h⟩ := Option.bind_eq_some_iff.mp h
    obtain ⟨b, hb, h⟩ := Option.bind_eq_some_iff.mp h
    rw [evaluate_of_divide? x h, t.evaluate_eq x hut ha, f.evaluate_eq x huf.of_cons hb]
    rfl
  | .beside t p, q, hu, h => by
    obtain ⟨hut, hup⟩ := Unsigned.append_iff.mp hu
    obtain ⟨a, ha, h⟩ := Option.bind_eq_some_iff.mp h
    obtain ⟨b, hb, h⟩ := Option.bind_eq_some_iff.mp h
    rw [evaluate_of_mulWithin? x h, t.evaluate_eq x hut ha, p.evaluate_eq x hup hb]
    rfl

theorem Factor.evaluate_eq {limit : Nat} (x : ℚ) : ∀ (f : Factor) {q : Polynomial ℚ},
    Unsigned f.kinds → f.value? limit = some q → q.evaluate x = f.valueAt x
  | .power p, _, hu, h => p.evaluate_eq x hu h
  | .signed sign f, q, hu, h => by
    obtain ⟨a, ha, h⟩ := Option.bind_eq_some_iff.mp h
    obtain rfl := Option.some.inj h
    rw [evaluate_signedValue, f.evaluate_eq x hu.of_cons ha]
    cases sign <;> rfl

theorem Power.evaluate_eq {limit : Nat} (x : ℚ) : ∀ {head : Head} (p : Power head)
    {q : Polynomial ℚ}, Unsigned p.kinds → p.value? limit = some q → q.evaluate x = p.valueAt x
  | _, .of b none, q, hu, h => b.evaluate_eq x (Unsigned.append_iff.mp hu).1 h
  | _, .of b (some e), q, hu, h => by
    obtain ⟨hub, hue⟩ := Unsigned.append_iff.mp hu
    obtain ⟨a, ha, h⟩ := Option.bind_eq_some_iff.mp h
    rw [evaluate_of_raise? x h, b.evaluate_eq x hub ha, Power.valueAt, Exponent.integer_eq hue,
      zpow_natCast]

theorem Primary.evaluate_eq {limit : Nat} (x : ℚ) : ∀ {head : Head} (b : Primary head)
    {q : Polynomial ℚ}, Unsigned b.kinds → b.value? limit = some q → q.evaluate x = b.valueAt x
  | _, .number value, q, _, h => by
    obtain rfl := Option.some.inj h
    exact Polynomial.evaluate_constant x _
  | _, .letter name, q, _, h => by
    obtain rfl := Option.some.inj h
    refine (Polynomial.evaluate_monomial x 1 1).trans ?_
    rw [one_mul, pow_one]
    rfl
  | _, .parenthesis p, q, hu, h => by
    have hu' : Unsigned (p.kinds ++ [.closeParen]) := hu.of_cons
    exact p.evaluate_eq x (Unsigned.append_iff.mp hu').1 h

end

/-! ## Equations -/

theorem evaluate_normalized (e : Equation ℚ) (x : ℚ) : e.normalized.evaluate x =
    e.left.evaluate x - (e.right?.map (·.evaluate x)).getD 0 := by
  obtain ⟨unknown?, left, _ | right⟩ := e
  · exact (sub_zero _).symm
  · exact Polynomial.evaluate_sub x left right

theorem Sentence.evaluate_eq {limit : Nat} {s : Sentence} {e : Equation ℚ}
    (hu : Unsigned s.kinds) (h : s.value? limit = some e) (x : ℚ) :
    e.left.evaluate x = s.left.valueAt x ∧
      e.right?.map (·.evaluate x) = s.right?.map (·.valueAt x) := by
  obtain ⟨left, right?⟩ := s
  obtain ⟨unknown?, -, h⟩ := Option.bind_eq_some_iff.mp h
  obtain ⟨p, hp, h⟩ := Option.bind_eq_some_iff.mp h
  obtain ⟨hul, hur⟩ := Unsigned.append_iff.mp hu
  rcases right? with _ | right
  · obtain rfl := Option.some.inj h
    exact ⟨left.evaluate_eq x hul hp, rfl⟩
  · obtain ⟨q, hq, h⟩ := Option.bind_eq_some_iff.mp h
    obtain rfl := Option.some.inj h
    exact ⟨left.evaluate_eq x hul hp, congrArg some (right.evaluate_eq x hur.of_cons hq)⟩

theorem unsigned_body {text : String} {ts : List Token} (h : tokens text = .ok ts) :
    Unsigned ((body ts).map (·.kind)) := by
  intro value hv
  obtain ⟨t, ht, hk⟩ := List.mem_map.mp hv
  have hmem : t ∈ ts := (List.takeWhile_sublist _).subset ht
  obtain ⟨run, rfl⟩ := exists_literal_of_mem_tokens h hmem hk
  exact exactValue_literalValue_nonneg run

theorem length_equalsColumns_of_ofTokens {limit : Nat} {ts : List Token} {e : Equation ℚ}
    (h : Equation.ofTokens limit ts = .ok e) : (equalsColumns ts).length ≤ 1 := by
  unfold Equation.ofTokens at h
  rcases hc : equalsColumns ts with _ | ⟨first, _ | ⟨second, columns⟩⟩
  · simp
  · simp
  · simp [hc] at h

/-- **An equation that has been read means what is written.** The tokens of a text that are read as
an equation are spelled by one sentence. In exact arithmetic the polynomials of the equation have
the values of the sides of this sentence, their difference has the difference of these values, and
its zeros are the solutions. -/
theorem ofTokens_evaluate {limit : Nat} {text : String} {ts : List Token} {e : Equation ℚ}
    (hts : tokens text = .ok ts) (h : Equation.ofTokens limit ts = .ok e) :
    ∃ s : Sentence, s.kinds = (body ts).map (·.kind) ∧
      (∀ s' : Sentence, s'.kinds = (body ts).map (·.kind) → s' = s) ∧
      ∀ x : ℚ, e.left.evaluate x = s.left.valueAt x ∧
        e.right?.map (·.evaluate x) = s.right?.map (·.valueAt x) ∧
        e.normalized.evaluate x = s.left.valueAt x - s.rightAt x ∧
        (e.normalized.evaluate x = 0 ↔ s.Holds x) := by
  obtain ⟨s, hs, hv⟩ :=
    (ofTokens_eq_ok_iff_of_equals (length_equalsColumns_of_ofTokens h)).mp h
  refine ⟨s, hs, fun s' hs' => Sentence.kinds_injective (hs'.trans hs.symm), fun x => ?_⟩
  obtain ⟨hleft, hright⟩ := Sentence.evaluate_eq (hs ▸ unsigned_body hts) hv x
  have hnormalized : e.normalized.evaluate x = s.left.valueAt x - s.rightAt x := by
    rw [evaluate_normalized, hleft, hright, Sentence.rightAt]
  exact ⟨hleft, hright, hnormalized, by rw [hnormalized, sub_eq_zero, Sentence.Holds]⟩

set_option maxRecDepth 100000 in
/-- What `2(x-1)^2/4=3` says: the half of the square is three. -/
theorem ofTokens_half_square :
    let ts : List Token := [⟨.number 2, "2", 1⟩, ⟨.openParen, "(", 2⟩, ⟨.letter 'x', "x", 3⟩,
      ⟨.minus, "-", 4⟩, ⟨.number 1, "1", 5⟩, ⟨.closeParen, ")", 6⟩, ⟨.caret, "^", 7⟩,
      ⟨.number 2, "2", 8⟩, ⟨.slash, "/", 9⟩, ⟨.number 4, "4", 10⟩, ⟨.equals, "=", 11⟩,
      ⟨.number 3, "3", 12⟩, ⟨.endOfInput, "", 13⟩]
    tokens "2(x-1)^2/4=3" = .ok ts ∧ ∃ e : Equation ℚ, Equation.ofTokens 2 ts = .ok e ∧
      ∃ s : Sentence, s.kinds = (body ts).map (·.kind) ∧
        ∀ x : ℚ, e.normalized.evaluate x = s.left.valueAt x - s.rightAt x := by
  intro ts
  have hts : tokens "2(x-1)^2/4=3" = .ok ts := by with_unfolding_all rfl
  have hok : (Equation.ofTokens (K := ℚ) 2 ts).toOption.isSome := by with_unfolding_all decide
  obtain ⟨e, he⟩ := Option.isSome_iff_exists.mp hok
  have h : Equation.ofTokens 2 ts = .ok e := by
    rcases hc : Equation.ofTokens (K := ℚ) 2 ts with c | e'
    · simp [hc] at he
    · simpa [hc] using he
  obtain ⟨s, hs, -, hx⟩ := ofTokens_evaluate hts h
  exact ⟨hts, e, h, s, hs, fun x => (hx x).2.2.1⟩

end OneUnknown.Grammar
