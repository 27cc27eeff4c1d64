import Mathlib.Data.Rat.Cast.CharZero
import Mathlib.Tactic.Ring
import OneUnknown.Equation.Reader

/-!
# The grammar of equations

An equation is written by the rules

* sentence: phrase, or phrase `=` phrase;
* phrase: term, or phrase and term with a sign between;
* term: factor, or term `*` factor, term `/` factor, term and a group power beside it;
* factor: power, or a sign and a factor;
* power: primary, or primary `^` number, or primary and superscript;
* primary: number, letter, or `(` phrase `)`.

A group is a letter or a parenthesis, and a group power is one whose primary is a group. A tree
built by these rules spells a row of tokens and, unless one of the checks on the way fails, has a
value.

* `IsExponent`: the numbers that may stand behind `^`;
* `Phrase`, `Term`, `Factor`, `Power`, `Primary`, **`Sentence`**: the trees;
* `Phrase.kinds`, **`Sentence.kinds`**: the tokens that a tree spells;
* `mulWithin?`, `divide?`, `raise?`, `soleLetter?`: the checks;
* `Phrase.value?`, **`Sentence.value?`**: the value of a tree;
* `Sentence.equals_le_one`: a sentence has at most one sign of equality.
-/

namespace OneUnknown.Grammar

/-! ## Exponents -/

/-- `value` is a whole number of at most 32 bits, and `n` is that number. One below zero counts as
zero, but no literal denotes such a number. -/
def IsExponent (value : Float) (n : Nat) : Prop :=
  (Dyadic.ofFloat? value).isSome ∧ ∃ z : Int, exactValue value = z ∧ z ≤ 2 ^ 32 - 1 ∧ z.toNat = n

theorem exactValue_eq_intCast_iff {value : Float} {d : Dyadic} (h : Dyadic.ofFloat? value = some d)
    (z : Int) : exactValue value = z ↔
      (if d.negative then -(d.numerator : Int) else d.numerator) = z * d.denominator := by
  unfold exactValue
  rw [h, ← Rat.mkRat_one, Rat.mkRat_eq_iff (Nat.ne_of_gt d.denominator_pos) Nat.one_ne_zero]
  simp

theorem exponentOf?_eq_some_iff {value : Float} {n : Nat} :
    exponentOf? value = some n ↔ IsExponent value n := by
  unfold exponentOf? IsExponent
  rcases h : Dyadic.ofFloat? value with _ | d
  · simp
  simp only [Option.isSome_some, true_and, exactValue_eq_intCast_iff h]
  have hpos : (d.denominator : Int) ≠ 0 := by have := d.denominator_pos; omega
  by_cases hd : d.denominator ∣ d.numerator
  · obtain ⟨w, hw⟩ := hd
    rw [if_neg (by simp [hw]), hw, Nat.mul_div_cancel_left w d.denominator_pos]
    have hz : ∀ z : Int, (if d.negative then -((d.denominator * w : Nat) : Int)
        else (d.denominator * w : Nat)) = z * d.denominator ↔
          z = if d.negative then -(w : Int) else w := by
      intro z
      have : (if d.negative then -((d.denominator * w : Nat) : Int)
          else (d.denominator * w : Nat)) =
            (if d.negative then -(w : Int) else w) * d.denominator := by
        push_cast; split <;> ring
      rw [this, Int.mul_eq_mul_right_iff hpos, eq_comm]
    simp only [hz, exists_eq_left]
    split
    · simp
    · have hmax : maxExponent = 2 ^ 32 - 1 := rfl
      have hm : (w : Int) ≤ 2 ^ 32 - 1 ↔ w ≤ maxExponent := by omega
      rw [hm, Int.toNat_natCast, Option.ite_none_right_eq_some, Option.some.injEq]
  · rw [if_pos fun h => hd (Nat.dvd_of_mod_eq_zero h)]
    simp only [reduceCtorEq, false_iff, not_exists, not_and]
    intro z hz
    refine absurd (Int.natCast_dvd_natCast.mp ?_) hd
    split at hz
    · exact ⟨-z, by rw [mul_neg, mul_comm, ← hz, neg_neg]⟩
    · exact ⟨z, by rw [mul_comm, ← hz]⟩

/-! ## Trees -/

/-- An exponent as it is written. -/
inductive Exponent where
  | caret (value : Float) (n : Nat) (h : IsExponent value n)
  | superscript (n : Nat)

/-- What a power begins with. -/
inductive Head where
  | number
  | group

mutual

/-- **A sum** of terms. -/
inductive Phrase where
  | term (t : Term)
  | sum (p : Phrase) (sign : TermSign) (t : Term)

/-- **A product** of factors, the sign of multiplication left out before a group power. -/
inductive Term where
  | factor (f : Factor)
  | times (t : Term) (f : Factor)
  | over (t : Term) (f : Factor)
  | beside (t : Term) (p : Power .group)

/-- A power with signs before it. -/
inductive Factor where
  | power {head : Head} (p : Power head)
  | signed (sign : TermSign) (f : Factor)

/-- A primary, with an exponent or without. -/
inductive Power : Head → Type where
  | of {head : Head} (b : Primary head) (e? : Option Exponent) : Power head

/-- A number, a letter or a parenthesis. -/
inductive Primary : Head → Type where
  | number (value : Float) : Primary .number
  | letter (name : Char) : Primary .group
  | parenthesis (p : Phrase) : Primary .group

end

/-- **An equation as it is written**: its sides. -/
structure Sentence where
  left : Phrase
  right? : Option Phrase

/-! ## What a tree spells -/

/-- The token of a sign. -/
def signKind : TermSign → TokenKind
  | .plus => .plus
  | .minus => .minus

/-- The tokens of an exponent. -/
def Exponent.kinds : Exponent → List TokenKind
  | .caret value _ _ => [.caret, .number value]
  | .superscript n => [.superscript n]

mutual

def Phrase.kinds : Phrase → List TokenKind
  | .term t => t.kinds
  | .sum p sign t => p.kinds ++ signKind sign :: t.kinds

def Term.kinds : Term → List TokenKind
  | .factor f => f.kinds
  | .times t f => t.kinds ++ .star :: f.kinds
  | .over t f => t.kinds ++ .slash :: f.kinds
  | .beside t p => t.kinds ++ p.kinds

def Factor.kinds : Factor → List TokenKind
  | .power p => p.kinds
  | .signed sign f => signKind sign :: f.kinds

def Power.kinds {head : Head} : Power head → List TokenKind
  | .of b e? => b.kinds ++ (e?.map Exponent.kinds).getD []

def Primary.kinds {head : Head} : Primary head → List TokenKind
  | .number value => [.number value]
  | .letter name => [.letter name]
  | .parenthesis p => .openParen :: p.kinds ++ [.closeParen]

end

/-- **The tokens that a sentence spells.** -/
def Sentence.kinds (s : Sentence) : List TokenKind :=
  s.left.kinds ++ (s.right?.map fun p => .equals :: p.kinds).getD []

section Equals

theorem signKind_ne_equals (sign : TermSign) : TokenKind.equals ≠ signKind sign := by
  cases sign <;> simp [signKind]

theorem Exponent.equals_not_mem (e? : Option Exponent) :
    TokenKind.equals ∉ (e?.map Exponent.kinds).getD [] := by
  rcases e? with _ | e | n <;> simp [Exponent.kinds]

mutual

theorem Phrase.equals_not_mem : ∀ p : Phrase, TokenKind.equals ∉ p.kinds
  | .term t => t.equals_not_mem
  | .sum p sign t => by
    simp [Phrase.kinds, p.equals_not_mem, t.equals_not_mem, signKind_ne_equals]

theorem Term.equals_not_mem : ∀ t : Term, TokenKind.equals ∉ t.kinds
  | .factor f => f.equals_not_mem
  | .times t f => by simp [Term.kinds, t.equals_not_mem, f.equals_not_mem]
  | .over t f => by simp [Term.kinds, t.equals_not_mem, f.equals_not_mem]
  | .beside t p => by simp [Term.kinds, t.equals_not_mem, p.equals_not_mem]

theorem Factor.equals_not_mem : ∀ f : Factor, TokenKind.equals ∉ f.kinds
  | .power p => p.equals_not_mem
  | .signed sign f => by simp [Factor.kinds, f.equals_not_mem, signKind_ne_equals]

theorem Power.equals_not_mem : ∀ {head : Head} (p : Power head), TokenKind.equals ∉ p.kinds
  | _, .of b e? => by
    rw [Power.kinds, List.mem_append, not_or]
    exact ⟨b.equals_not_mem, Exponent.equals_not_mem e?⟩

theorem Primary.equals_not_mem : ∀ {head : Head} (b : Primary head), TokenKind.equals ∉ b.kinds
  | _, .number value => by simp [Primary.kinds]
  | _, .letter name => by simp [Primary.kinds]
  | _, .parenthesis p => by simp [Primary.kinds, p.equals_not_mem]

end

theorem filter_isEquals_of_not_mem {kinds : List TokenKind} (h : TokenKind.equals ∉ kinds) :
    kinds.filter (·.isEquals) = [] := by
  rw [List.filter_eq_nil_iff]
  intro kind hkind hequals
  cases kind <;> simp_all [TokenKind.isEquals]

theorem Sentence.equals_le_one (s : Sentence) : (s.kinds.filter (·.isEquals)).length ≤ 1 := by
  rw [Sentence.kinds, List.filter_append, filter_isEquals_of_not_mem s.left.equals_not_mem]
  rcases s.right? with _ | p
  · simp
  · have hp := filter_isEquals_of_not_mem p.equals_not_mem
    simp only [Option.map_some, Option.getD_some, List.nil_append]
    rw [List.filter_cons_of_pos rfl, hp, List.length_singleton]

end Equals

/-! ## What a tree means -/

section Values

variable {K : Type} [Scalar K]

/-- The product, if its degree is within the limit. -/
def mulWithin? (limit : Nat) (p q : Polynomial K) : Option (Polynomial K) :=
  if p.degree + q.degree ≤ limit then some (p.mul q) else none

/-- The quotient by a number other than zero. -/
def divide? (p q : Polynomial K) : Option (Polynomial K) :=
  match q.asConstant? with
  | some d => if d == 0 then none else some (p.scale (1 / d))
  | none => none

/-- The power, of a number if it is finite, of a polynomial if its degree is within the limit. -/
def raise? (limit : Nat) (p : Polynomial K) (n : Nat) : Option (Polynomial K) :=
  match p.asConstant? with
  | some c =>
    if Scalar.isFinite (Scalar.power c n) then some (.constant (Scalar.power c n)) else none
  | none => if p.degree * n ≤ limit then some (p.pow n) else none

/-- The sum or the difference. -/
def combined : TermSign → Polynomial K → Polynomial K → Polynomial K
  | .plus, p, q => p.add q
  | .minus, p, q => p.sub q

/-- A value with a sign before it. -/
def signedValue : TermSign → Polynomial K → Polynomial K
  | .plus, p => p
  | .minus, p => p.neg

/-- The number that an exponent stands for. -/
def Exponent.exponent : Exponent → Nat
  | .caret _ n _ => n
  | .superscript n => n

mutual

/-- **The value of a sum**, its terms taken from the left. -/
def Phrase.value? (limit : Nat) : Phrase → Option (Polynomial K)
  | .term t => t.value? limit
  | .sum p sign t => do return combined sign (← p.value? limit) (← t.value? limit)

/-- **The value of a product**, its factors taken from the left. -/
def Term.value? (limit : Nat) : Term → Option (Polynomial K)
  | .factor f => f.value? limit
  | .times t f => do mulWithin? limit (← t.value? limit) (← f.value? limit)
  | .over t f => do divide? (← t.value? limit) (← f.value? limit)
  | .beside t p => do mulWithin? limit (← t.value? limit) (← p.value? limit)

def Factor.value? (limit : Nat) : Factor → Option (Polynomial K)
  | .power p => p.value? limit
  | .signed sign f => do return signedValue sign (← f.value? limit)

def Power.value? (limit : Nat) {head : Head} : Power head → Option (Polynomial K)
  | .of b none => b.value? limit
  | .of b (some e) => do raise? limit (← b.value? limit) e.exponent

def Primary.value? (limit : Nat) {head : Head} : Primary head → Option (Polynomial K)
  | .number value => some (.constant (Scalar.ofFloat value))
  | .letter _ => some (.monomial 1 1)
  | .parenthesis p => p.value? limit

end

/-- The letter in a row of tokens, if there is no other. The outer `none` stands for two different
letters, the inner one for a row without letters. -/
def soleLetter? (kinds : List TokenKind) : Option (Option Char) :=
  match kinds.filterMap fun | .letter name => some name | _ => none with
  | [] => some none
  | name :: names => if names.all (· = name) then some (some name) else none

/-- **The value of a sentence**: its unknown and the values of its sides. -/
def Sentence.value? (limit : Nat) (s : Sentence) : Option (Equation K) := do
  let unknown? ← soleLetter? s.kinds
  let left ← s.left.value? limit
  match s.right? with
  | none => return ⟨unknown?, left, none⟩
  | some p => return ⟨unknown?, left, some (← p.value? limit)⟩

end Values

end OneUnknown.Grammar
