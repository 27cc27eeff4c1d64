import Mathlib.Data.Set.List
import OneUnknown.Proofs.Grammar.Reading
import OneUnknown.Proofs.Polynomial.Coefficients
import OneUnknown.Proofs.Token.Literal

/-!
# Polynomials are read as they are written

Every term of a polynomial is written as a term of the grammar: a number, a power of the letter, or
a number with a power beside it. A minus sign before the first term is the sign of its first factor,
the signs of the others stand between terms. So the text of a polynomial spells a sentence, whose
value is the polynomial itself. Powers beyond the greatest exponent are written as well, but not
read.

* **`Summand`**: a term that can be written and read back;
* `Summand.tree`, `phrase`: the trees of terms and of sums;
* `Summand.spells`, **`spells_text`**: the text spells the tree;
* `letter_mem_sumTree_iff`: the letter of the tree;
* `Summand.exists_value?_tree`, **`exists_value?_phrase`**: the tree has the value;
* `parse_of_spells`: reading a text that spells an expression;
* **`parse_text`**: what is read is the polynomial that was written;
* `text_monomial`: the text of a power, of whatever exponent.
-/

namespace OneUnknown.Polynomial

open Grammar

/-! ## Terms -/

/-- **A term that can be written and read back**: its coefficient is a finite number other than
zero, whose magnitude is the value of its own text, and its power may stand as an exponent. -/
structure Summand where
  coefficient : Float
  power : Nat
  isFinite : coefficient.isFinite = true
  ne_zero : (coefficient == 0) = false
  literalValue_eq : literalValue (plainText coefficient.abs).toList = coefficient.abs
  power_le : power ≤ maxExponent

namespace Summand

variable (s : Summand)

/-- The coefficient and the power, as they are listed among the terms of a polynomial. -/
def pair : Float × Nat := (s.coefficient, s.power)

def magnitude : Float := s.coefficient.abs

theorem isFinite_magnitude : s.magnitude.isFinite = true := by
  rw [magnitude, abs_isFinite, s.isFinite]

theorem magnitude_ne_zero : (s.magnitude == 0) = false := by
  rw [magnitude, abs_beq_zero, s.ne_zero]

theorem neg_magnitude (h : s.coefficient < 0) : -s.magnitude = s.coefficient :=
  neg_abs_of_lt_zero s.isFinite h

theorem magnitude_eq (h : ¬ s.coefficient < 0) : s.magnitude = s.coefficient :=
  abs_of_not_lt_zero s.isFinite s.ne_zero h

/-- The sign that stands before the term if it is not the first. -/
def sign : TermSign := if s.coefficient < 0 then .minus else .plus

/-- The power of the letter. The first power is written without an exponent. -/
def letterPower : Power .group :=
  .of (.letter 'x') (if s.power = 1 then none else
    some (.caret _ s.power (isExponent_literalValue_digits s.power_le)))

end Summand

/-- A power as a factor, behind a minus sign if it is negative. -/
def factor {head : Head} (negative : Bool) (p : Power head) : Factor :=
  if negative then .signed .minus (.power p) else .power p

/-- **The tree of a term**, behind a minus sign if it is negative. -/
def Summand.tree (s : Summand) (negative : Bool) : Term :=
  if s.power = 0 then .factor (factor negative (.of (.number s.magnitude) none))
  else if s.magnitude == 1 then .factor (factor negative s.letterPower)
  else .beside (.factor (factor negative (.of (.number s.magnitude) none))) s.letterPower

/-- **The tree of a sum**: a phrase with further terms behind it. -/
def phrase : Phrase → List Summand → Phrase
  | p, [] => p
  | p, s :: rest => phrase (.sum p s.sign (s.tree false)) rest

/-! ## Tokens -/

/-- The tokens of terms that follow a first one. -/
def furtherKinds (ss : List Summand) : List TokenKind :=
  ss.flatMap fun s => signKind s.sign :: (s.tree false).kinds

theorem kinds_phrase (p : Phrase) (ss : List Summand) :
    (phrase p ss).kinds = p.kinds ++ furtherKinds ss := by
  induction ss generalizing p with
  | nil => rw [phrase, furtherKinds, List.flatMap_nil, List.append_nil]
  | cons s rest ih =>
    rw [phrase, ih, Phrase.kinds, furtherKinds, furtherKinds, List.flatMap_cons, List.append_assoc]

theorem Summand.kinds_tree_true (s : Summand) :
    (s.tree true).kinds = .minus :: (s.tree false).kinds := by
  unfold tree
  split
  · rfl
  · split <;> rfl

/-! ## Spelling -/

/-- The text of a power of the letter. -/
def letterText (power : Nat) : String := if power = 1 then "x" else "x^" ++ natText power

theorem exists_letterText (power : Nat) : ∃ tail, (letterText power).toList = 'x' :: tail := by
  unfold letterText
  split
  · exact ⟨[], rfl⟩
  · exact ⟨'^' :: digits power, by rw [String.toList_append, toList_natText]; rfl⟩

theorem termText_zero (magnitude : Float) : termText magnitude 0 = plainText magnitude := rfl

theorem termText_of_ne_zero {magnitude : Float} {power : Nat} (h : power ≠ 0) :
    termText magnitude power =
      (if magnitude == 1 then "" else plainText magnitude) ++ letterText power := by
  unfold termText letterText
  dsimp only
  split
  · exact absurd rfl h
  · rfl
  · rename_i hone
    rw [if_neg hone, String.append_assoc]

/-- What follows a number does not continue it. -/
theorem head?_furtherTerms (ts : List (Float × Nat)) {c : Char}
    (h : (furtherTerms ts).toList.head? = some c) : isLiteralChar c = false := by
  match ts with
  | [] => cases h
  | (d, power) :: rest =>
    rw [furtherTerms, String.toList_append, String.toList_append] at h
    split at h <;> cases h <;> rfl

section Spelling

variable {rest : List Char} {kinds : List TokenKind}

theorem Summand.spells_number (s : Summand)
    (hrest : ∀ c, rest.head? = some c → isLiteralChar c = false) (h : Spells rest kinds) :
    Spells ((plainText s.magnitude).toList ++ rest) (.number s.magnitude :: kinds) := by
  have hfinite : (literalValue (plainText s.magnitude).toList).isFinite = true := by
    rw [magnitude, s.literalValue_eq]
    exact s.isFinite_magnitude
  have := Spells.number (isLiteral_plainText_abs s.isFinite) hfinite hrest h
  rwa [s.literalValue_eq] at this

theorem spells_letter (h : Spells rest kinds) :
    Spells ('x' :: rest) (.letter 'x' :: kinds) :=
  Spells.letter (by decide) (by decide) rfl (by decide) (by decide) (by decide) h

theorem Summand.spells_letterPower (s : Summand)
    (hrest : ∀ c, rest.head? = some c → isLiteralChar c = false) (h : Spells rest kinds) :
    Spells ((letterText s.power).toList ++ rest) (s.letterPower.kinds ++ kinds) := by
  by_cases hone : s.power = 1
  · rw [letterText, letterPower, if_pos hone, if_pos hone]
    exact spells_letter h
  · rw [letterText, letterPower, if_neg hone, if_neg hone, String.toList_append, toList_natText]
    have hmax : maxExponent = 2 ^ 32 - 1 := rfl
    have hle := s.power_le
    have hfinite := isFinite_literalValue_digits (n := s.power) (by omega)
    exact spells_letter (Spells.symbol (by decide) (by decide) rfl
      (Spells.number (isLiteral_digits s.power) hfinite hrest h))

/-- **The text of a term spells its tree.** -/
theorem Summand.spells (s : Summand)
    (hrest : ∀ c, rest.head? = some c → isLiteralChar c = false) (h : Spells rest kinds) :
    Spells ((termText s.magnitude s.power).toList ++ rest) ((s.tree false).kinds ++ kinds) := by
  by_cases hzero : s.power = 0
  · rw [hzero, termText_zero, tree, if_pos hzero]
    exact s.spells_number hrest h
  · have hletter := s.spells_letterPower hrest h
    have hhead : ∀ c, ((letterText s.power).toList ++ rest).head? = some c →
        isLiteralChar c = false := by
      intro c hc
      obtain ⟨tail, htail⟩ := exists_letterText s.power
      rw [htail] at hc
      obtain rfl := Option.some.inj hc
      rfl
    rw [termText_of_ne_zero hzero, tree, if_neg hzero, String.toList_append, List.append_assoc]
    split
    · exact hletter
    · exact s.spells_number hhead hletter

theorem Summand.spells_sign (s : Summand) (h : Spells rest kinds) :
    Spells ((if s.coefficient < 0 then " - " else " + ").toList ++ rest)
      (signKind s.sign :: kinds) := by
  have hblank : ∀ {rest kinds}, Spells rest kinds → Spells (' ' :: rest) kinds :=
    Spells.blank (by decide) (by decide)
  unfold sign
  split
  · exact hblank (Spells.symbol (by decide) (by decide) rfl (hblank h))
  · exact hblank (Spells.symbol (by decide) (by decide) rfl (hblank h))

theorem spells_furtherTerms (ss : List Summand) :
    Spells (furtherTerms (ss.map Summand.pair)).toList (furtherKinds ss) := by
  induction ss with
  | nil => exact Spells.nil
  | cons s rest ih =>
    have hterm := s.spells (fun c => head?_furtherTerms _) ih
    rw [List.map_cons, furtherTerms, String.toList_append, String.toList_append, furtherKinds,
      List.flatMap_cons, List.append_assoc]
    exact s.spells_sign hterm

/-- The tree of a sum with a first term. -/
def sumTree (first : Summand) (rest : List Summand) : Phrase :=
  phrase (.term (first.tree (decide (first.coefficient < 0)))) rest

/-- **The text of a polynomial other than zero spells the tree of its terms.** -/
theorem spells_text {p : Polynomial Float} {first : Summand} {rest : List Summand}
    (h : p.terms = first.pair :: rest.map Summand.pair) :
    Spells p.text.toList (sumTree first rest).kinds := by
  have hterm := first.spells (fun c => head?_furtherTerms _) (spells_furtherTerms rest)
  rw [text, h, sumTree, kinds_phrase, Phrase.kinds]
  dsimp only [Summand.pair]
  rw [String.toList_append, String.toList_append, List.append_assoc]
  by_cases hneg : first.coefficient < 0
  · rw [if_pos hneg, decide_eq_true hneg, Summand.kinds_tree_true]
    exact Spells.symbol (by decide) (by decide) rfl hterm
  · rw [if_neg hneg, decide_eq_false hneg]
    exact hterm

end Spelling

/-! ## Letters -/

section Letters

variable {kinds : List TokenKind} {name : Char}

theorem soleLetter?_of_mem (h : ∀ c, .letter c ∈ kinds → c = name)
    (hmem : .letter name ∈ kinds) : soleLetter? kinds = some (some name) := by
  unfold soleLetter?
  split
  · rename_i hnil
    have := List.filterMap_eq_nil_iff.mp hnil _ hmem
    cases this
  · rename_i first names hcons
    have hall : ∀ c ∈ first :: names, c = name := by
      intro c hc
      rw [← hcons] at hc
      obtain ⟨kind, hkind, hletter⟩ := List.mem_filterMap.mp hc
      cases kind <;> cases hletter
      exact h c hkind
    obtain ⟨rfl, hnames⟩ := List.forall_mem_cons.mp hall
    rw [if_pos (List.all_eq_true.mpr fun c hc => decide_eq_true (hnames c hc))]

theorem soleLetter?_of_not_mem (h : ∀ c, .letter c ∉ kinds) : soleLetter? kinds = some none := by
  unfold soleLetter?
  split
  · rfl
  · rename_i first names hcons
    have hfirst : first ∈ first :: names := List.mem_cons_self
    rw [← hcons] at hfirst
    obtain ⟨kind, hkind, hletter⟩ := List.mem_filterMap.mp hfirst
    cases kind <;> cases hletter
    exact absurd hkind (h first)

theorem Summand.letter_mem_letterPower_iff (s : Summand) :
    .letter name ∈ s.letterPower.kinds ↔ name = 'x' := by
  unfold letterPower
  split <;> simp [Power.kinds, Primary.kinds, Exponent.kinds]

theorem Summand.letter_mem_tree_iff (s : Summand) (negative : Bool) :
    .letter name ∈ (s.tree negative).kinds ↔ name = 'x' ∧ s.power ≠ 0 := by
  have hnumber : .letter name ∉ (factor negative (.of (.number s.magnitude) none)).kinds := by
    cases negative <;> simp [factor, Factor.kinds, Power.kinds, Primary.kinds, signKind]
  have hletter : .letter name ∈ (factor negative s.letterPower).kinds ↔ name = 'x' := by
    rw [← s.letter_mem_letterPower_iff]
    cases negative <;> simp [factor, Factor.kinds, signKind]
  unfold tree
  split
  · rename_i hzero
    exact iff_of_false hnumber fun h => h.2 hzero
  · rename_i hne
    rw [and_iff_left hne]
    split
    · exact hletter
    · rw [Term.kinds, List.mem_append, ← s.letter_mem_letterPower_iff]
      exact or_iff_right hnumber

theorem letter_mem_furtherKinds_iff (ss : List Summand) :
    .letter name ∈ furtherKinds ss ↔ name = 'x' ∧ ∃ s ∈ ss, s.power ≠ 0 := by
  have hsign : ∀ sign, TokenKind.letter name ≠ signKind sign := by
    intro sign
    cases sign <;> simp [signKind]
  simp only [furtherKinds, List.mem_flatMap, List.mem_cons, hsign, false_or,
    Summand.letter_mem_tree_iff]
  tauto

theorem letter_mem_sumTree_iff (first : Summand) (rest : List Summand) :
    .letter name ∈ (sumTree first rest).kinds ↔
      name = 'x' ∧ ∃ s ∈ first :: rest, s.power ≠ 0 := by
  rw [sumTree, kinds_phrase, Phrase.kinds, List.mem_append, first.letter_mem_tree_iff,
    letter_mem_furtherKinds_iff, List.exists_mem_cons_iff, and_or_left]

end Letters

/-! ## Values -/

section Values

variable {limit : Nat}

theorem degree_monomial {c : Float} (hc : (c == 0) = false) (n : Nat) :
    (monomial c n).degree = n := by
  simp [degree, coeffs_monomial hc]

theorem Summand.value?_letterPower (s : Summand) (hlimit : s.power ≤ limit) :
    s.letterPower.value? (K := Float) limit = some (monomial 1 s.power) := by
  unfold letterPower
  split
  · rename_i hone
    rw [hone]
    rfl
  · have hconstant : (monomial (1 : Float) 1).asConstant? = none := by
      simp [asConstant?, coeffs_monomial float_one_beq_zero]
    simp only [Power.value?, Primary.value?, Option.bind_eq_bind, Option.bind_some, raise?,
      hconstant, degree_monomial float_one_beq_zero, Exponent.exponent, pow_monomial]
    rw [if_pos (by omega)]

theorem value?_factor {head : Head} (negative : Bool) {p : Power head} {q : Polynomial Float}
    (h : p.value? limit = some q) :
    (factor negative p).value? limit = some (if negative then q.neg else q) := by
  cases negative
  · exact h
  · simp only [factor, if_true, Factor.value?, h, Option.bind_eq_bind, Option.bind_some]
    rfl

theorem value?_number (negative : Bool) {c : Float} (hc : (c == 0) = false) :
    (factor negative (.of (.number c) none)).value? limit =
      some (constant (if negative then -c else c)) := by
  rw [value?_factor negative rfl]
  cases negative
  · rfl
  · exact congrArg some (neg_constant hc)

/-- **The tree of a term has the value of the term**, the sign at its first factor included. -/
theorem Summand.exists_value?_tree (s : Summand) (negative : Bool) (hlimit : s.power ≤ limit) :
    ∃ r, (s.tree negative).value? limit = some r ∧
      IsTerm r (if negative then -s.magnitude else s.magnitude) s.power := by
  have hm := s.magnitude_ne_zero
  have hne : ((if negative then -s.magnitude else s.magnitude) == 0) = false := by
    cases negative
    · exact hm
    · exact (neg_beq_zero s.magnitude).trans hm
  have hletter := s.value?_letterPower hlimit
  unfold tree
  split
  · rename_i hzero
    rw [hzero]
    exact ⟨_, value?_number negative hm, isTerm_constant hne⟩
  · split
    · rename_i hone
      have hm1 : s.magnitude = 1 := eq_of_float_beq hone float_one_beq_zero
      refine ⟨_, value?_factor negative hletter, ?_⟩
      rw [hm1]
      cases negative
      · exact isTerm_monomial float_one_beq_zero s.power
      · exact isTerm_neg_monomial float_one_beq_zero s.power
    · refine ⟨_, ?_, isTerm_mul ?_ hne s.power⟩
      · have hnumber : (factor negative (.of (.number s.magnitude) none)).value? limit = _ :=
          value?_number negative hm
        have hdegree : (constant (if negative then -s.magnitude else s.magnitude)).degree = 0 :=
          degree_monomial hne 0
        simp only [Term.value?, hnumber, hletter, Option.bind_eq_bind, Option.bind_some,
          mulWithin?, hdegree, degree_monomial float_one_beq_zero]
        rw [if_pos (by omega)]
      · cases negative
        · exact s.isFinite_magnitude
        · exact (neg_isFinite s.magnitude).trans s.isFinite_magnitude

theorem Summand.shows_combined (s : Summand) {q r : Polynomial Float} {ts : List (Float × Nat)}
    (hq : Shows q ts) (hts : ∀ t ∈ ts, (t.1 == 0) = false) (hn : ∀ d, (d, s.power) ∉ ts)
    (hr : IsTerm r s.magnitude s.power) : Shows (combined s.sign q r) (ts ++ [s.pair]) := by
  have hm := s.magnitude_ne_zero
  unfold sign
  split
  · rename_i hneg
    rw [pair, ← s.neg_magnitude hneg]
    exact hq.sub hts hn hm hr
  · rename_i hneg
    rw [pair, ← s.magnitude_eq hneg]
    exact hq.add hts hn hm hr

/-- **The tree of a sum has the value of the sum.** -/
theorem exists_value?_phrase {p : Phrase} {q : Polynomial Float} {ts : List (Float × Nat)}
    {ss : List Summand} (hp : p.value? limit = some q) (hq : Shows q ts)
    (hts : ∀ t ∈ ts, (t.1 == 0) = false)
    (hnodup : ((ts ++ ss.map Summand.pair).map Prod.snd).Nodup)
    (hlimit : ∀ s ∈ ss, s.power ≤ limit) :
    ∃ r, (phrase p ss).value? limit = some r ∧ Shows r (ts ++ ss.map Summand.pair) := by
  -- The phrase that grows to the right shows the terms up to the present one.
  induction ss generalizing p q ts with
  | nil => exact ⟨q, hp, by rwa [List.map_nil, List.append_nil]⟩
  | cons s rest ih =>
    obtain ⟨hs, hrest⟩ := List.forall_mem_cons.mp hlimit
    obtain ⟨r, hr, hterm⟩ := s.exists_value?_tree false hs
    have hn : ∀ d, (d, s.power) ∉ ts := by
      intro d hd
      rw [List.map_append, List.nodup_append] at hnodup
      exact hnodup.2.2 s.power (List.mem_map_of_mem hd) s.power List.mem_cons_self rfl
    have hvalue : (Phrase.sum p s.sign (s.tree false)).value? limit =
        some (combined s.sign q r) := by
      simp only [Phrase.value?, hp, hr, Option.bind_eq_bind, Option.bind_some]
      rfl
    have hsplit : ts ++ (s :: rest).map Summand.pair =
        (ts ++ [s.pair]) ++ rest.map Summand.pair := by
      rw [List.map_cons, List.append_assoc, List.singleton_append]
    rw [hsplit] at hnodup ⊢
    refine ih hvalue (s.shows_combined hq hts hn hterm) ?_ hnodup hrest
    exact List.forall_mem_append.mpr ⟨hts, List.forall_mem_singleton.mpr s.ne_zero⟩

theorem exists_value?_sumTree {first : Summand} {rest : List Summand}
    (hnodup : (((first :: rest).map Summand.pair).map Prod.snd).Nodup)
    (hlimit : ∀ s ∈ first :: rest, s.power ≤ limit) :
    ∃ r, (sumTree first rest).value? limit = some r ∧
      Shows r ((first :: rest).map Summand.pair) := by
  obtain ⟨hfirst, hrest⟩ := List.forall_mem_cons.mp hlimit
  obtain ⟨q, hq, hterm⟩ := first.exists_value?_tree (decide (first.coefficient < 0)) hfirst
  have hsigned : (if decide (first.coefficient < 0) then -first.magnitude else first.magnitude) =
      first.coefficient := by
    by_cases hneg : first.coefficient < 0
    · rw [decide_eq_true hneg]
      exact first.neg_magnitude hneg
    · rw [decide_eq_false hneg]
      exact first.magnitude_eq hneg
  rw [hsigned] at hterm
  exact exists_value?_phrase (p := .term _) hq hterm.shows
    (List.forall_mem_singleton.mpr first.ne_zero) hnodup hrest

end Values

/-! ## Polynomials -/

theorem exists_summands {p : Polynomial Float} (hfinite : ∀ c ∈ p.coeffs, c.isFinite = true)
    (hliteral : ∀ c ∈ p.coeffs, (c == 0) = false →
      literalValue (plainText c.abs).toList = c.abs)
    (hdegree : p.degree ≤ maxExponent) : ∃ ss : List Summand, ss.map Summand.pair = p.terms := by
  have hterm : ∀ t ∈ p.terms, t ∈ Set.range Summand.pair := by
    rintro ⟨c, n⟩ ht
    obtain ⟨hget, hne⟩ := mem_terms_iff.mp ht
    have hc : c ∈ p.coeffs := List.mem_of_getElem? hget
    have hn : n ≤ maxExponent := (le_degree_of_mem_terms ht).trans hdegree
    exact ⟨⟨c, n, hfinite c hc, hne, hliteral c hc hne, hn⟩, rfl⟩
  have hrange : p.terms ∈ Set.range (List.map Summand.pair) := by
    rw [Set.range_list_map]
    exact hterm
  exact hrange

theorem terms_eq_nil_iff {p : Polynomial Float} : p.terms = [] ↔ p.coeffs = [] := by
  constructor
  · intro h
    by_contra hne
    obtain ⟨c, hc⟩ := exists_mem_terms hne
    rw [h] at hc
    exact List.not_mem_nil hc
  · intro h
    rw [terms, h]
    rfl

theorem exists_power_ne_zero_iff {p : Polynomial Float} {ss : List Summand}
    (hss : ss.map Summand.pair = p.terms) : (∃ s ∈ ss, s.power ≠ 0) ↔ 1 ≤ p.degree := by
  constructor
  · rintro ⟨s, hs, hpower⟩
    have hmem : s.pair ∈ p.terms := hss ▸ List.mem_map_of_mem hs
    have := le_degree_of_mem_terms hmem
    omega
  · intro hdegree
    have hne : p.coeffs ≠ [] := by
      intro h
      rw [degree, h] at hdegree
      exact absurd hdegree (by decide)
    obtain ⟨c, hc⟩ := exists_mem_terms hne
    rw [← hss] at hc
    obtain ⟨s, hs, hpair⟩ := List.mem_map.mp hc
    have hpower : s.power = p.degree := congrArg Prod.snd hpair
    exact ⟨s, hs, by omega⟩

theorem soleLetter?_sumTree {p : Polynomial Float} {first : Summand} {rest : List Summand}
    (hss : (first :: rest).map Summand.pair = p.terms) :
    soleLetter? (sumTree first rest).kinds = some (if 1 ≤ p.degree then some 'x' else none) := by
  have hletter : ∀ name, .letter name ∈ (sumTree first rest).kinds ↔
      name = 'x' ∧ 1 ≤ p.degree := by
    intro name
    rw [letter_mem_sumTree_iff, exists_power_ne_zero_iff hss]
  by_cases hdegree : 1 ≤ p.degree
  · rw [if_pos hdegree]
    exact soleLetter?_of_mem (fun c hc => ((hletter c).mp hc).1)
      ((hletter 'x').mpr ⟨rfl, hdegree⟩)
  · rw [if_neg hdegree]
    exact soleLetter?_of_not_mem fun c hc => hdegree ((hletter c).mp hc).2

theorem parse_of_spells {limit : Nat} {text : String} {left : Phrase} {q : Polynomial Float}
    {unknown? : Option Char} (hspells : Spells text.toList left.kinds)
    (hletter : soleLetter? left.kinds = some unknown?) (hvalue : left.value? limit = some q) :
    Equation.parse limit text = .ok ⟨unknown?, q, none⟩ := by
  obtain ⟨ts, hts, hbody⟩ := hspells.exists_body
  have hkinds : (Sentence.mk left none).kinds = left.kinds := List.append_nil _
  have hequals : (equalsColumns ts).length ≤ 1 := by
    rw [length_equalsColumns hts, hbody, ← hkinds]
    exact Sentence.equals_le_one _
  have hsentence : (Sentence.mk left none).value? limit = some ⟨unknown?, q, none⟩ := by
    simp only [Sentence.value?, hkinds, hletter, hvalue, Option.bind_eq_bind, Option.bind_some]
    rfl
  rw [Equation.parse, hts]
  exact (ofTokens_eq_ok_iff_of_equals hequals).mpr ⟨_, hkinds.trans hbody.symm, hsentence⟩

theorem parse_zero (limit : Nat) :
    Equation.parse limit "0" = .ok ⟨none, (zero : Polynomial Float), none⟩ := by
  let left : Phrase := .term (.factor (.power (.of (.number (literalValue ['0'])) none)))
  have hrun : IsLiteral ['0'] := isLiteral_of_isDigit (List.cons_ne_nil _ _) (by simp)
  have hspells : Spells "0".toList left.kinds :=
    Spells.number hrun (by decide) (fun c hc => by cases hc) Spells.nil
  have hvalue : constant (literalValue ['0']) = zero := by
    refine ext ?_
    decide
  exact parse_of_spells hspells rfl (congrArg some hvalue)

/-- **What is read is the polynomial that was written**, up to the signs of zeros, if the magnitudes
of its coefficients are read as they are written and its degree may stand as an exponent. -/
theorem parse_text {p : Polynomial Float} {limit : Nat}
    (hfinite : ∀ c ∈ p.coeffs, c.isFinite = true)
    (hliteral : ∀ c ∈ p.coeffs, (c == 0) = false →
      literalValue (plainText c.abs).toList = c.abs)
    (hdegree : p.degree ≤ maxExponent) (hlimit : max 1 p.degree ≤ limit) :
    ∃ e : Equation Float, Equation.parse limit p.text = .ok e ∧ e.right? = none ∧
      e.unknown? = (if 1 ≤ p.degree then some 'x' else none) ∧ e.left.same p = true := by
  obtain ⟨ss, hss⟩ := exists_summands hfinite hliteral hdegree
  rcases ss with _ | ⟨first, rest⟩
  · have hterms : p.terms = [] := hss.symm
    have hp : p = zero := ext (terms_eq_nil_iff.mp hterms)
    subst hp
    exact ⟨_, parse_zero limit, rfl, rfl, rfl⟩
  · have hpower : ∀ s ∈ first :: rest, s.power ≤ limit := by
      intro s hs
      have hmem : s.pair ∈ p.terms := hss ▸ List.mem_map_of_mem hs
      exact (le_degree_of_mem_terms hmem).trans ((le_max_right 1 p.degree).trans hlimit)
    obtain ⟨r, hr, hshows⟩ := exists_value?_sumTree (hss ▸ nodup_terms p) hpower
    have hparse := parse_of_spells (spells_text hss.symm) (soleLetter?_sumTree hss) hr
    exact ⟨_, hparse, rfl, rfl, same_of_shows_terms hfinite (hss ▸ hshows)⟩

set_option maxRecDepth 100000 in
/-- A cubic with a minus sign at its first term, a hidden one and a missing power. -/
theorem parse_text_cubic :
    let p : Polynomial Float := ofList [-1, 2.5, 0, -1]
    p.text = "-x^3 + 2.5x - 1" ∧ ∃ e : Equation Float, Equation.parse 3 p.text = .ok e ∧
      e.right? = none ∧ e.unknown? = some 'x' ∧ e.left.same p = true := by
  intro p
  have hdegree : p.degree = 3 := by decide
  have hlimit : max 1 p.degree ≤ 3 := by rw [hdegree]; decide
  have h := parse_text (p := p) (by decide) (by with_unfolding_all decide)
    (by rw [hdegree]; decide) hlimit
  rw [hdegree] at h
  exact ⟨by with_unfolding_all decide, h⟩

/-! ## Powers beyond the greatest exponent -/

theorem terms_monomial {c : Float} (hc : (c == 0) = false) (n : Nat) :
    (monomial c n).terms = [(c, n)] := by
  have hzeros : ((List.replicate n (0 : Float)).zipIdx.filter fun t => !(t.1 == 0)) = [] := by
    rw [List.filter_eq_nil_iff]
    rintro ⟨d, i⟩ ht
    have hd : d = 0 := List.eq_of_mem_replicate (List.fst_mem_of_mem_zipIdx ht)
    simp only [hd, float_zero_beq_zero, Bool.not_true, Bool.false_eq_true, not_false_eq_true]
  have hlast : [c].zipIdx (0 + (List.replicate n (0 : Float)).length) = [(c, n)] := by simp
  have hkeep : [(c, n)].filter (fun t => !(t.1 == 0)) = [(c, n)] :=
    List.filter_cons_of_pos (by rw [hc]; rfl)
  rw [terms, coeffs_monomial hc, List.filter_reverse, List.zipIdx_append, List.filter_append,
    hlast, hzeros, hkeep]
  rfl

theorem text_monomial {n : Nat} (h : 2 ≤ n) : (monomial 1 n).text = "x^" ++ natText n := by
  have hone : (Float.abs 1 == 1) = true := by decide
  have hneg : ¬ (1 : Float) < 0 := by decide
  rw [text, terms_monomial float_one_beq_zero]
  dsimp only
  rw [if_neg hneg, termText_of_ne_zero (by omega), if_pos hone, letterText, if_neg (by omega),
    furtherTerms, String.append_empty, String.empty_append, String.empty_append]

set_option maxRecDepth 100000 in
/-- The text of `x ^ 2 ^ 32` is not read, whatever degrees are allowed: the exponent has more than
32 bits. -/
theorem parse_text_power_of_33_bits :
    let p : Polynomial Float := monomial 1 (2 ^ 32)
    (∀ c ∈ p.coeffs, c.isFinite = true) ∧
      (∀ c ∈ p.coeffs, (c == 0) = false → literalValue (plainText c.abs).toList = c.abs) ∧
      max 1 p.degree ≤ 2 ^ 32 ∧ p.text = "x^4294967296" ∧
      Equation.parse (K := Float) (2 ^ 32) p.text = .error (.malformed (.badExponent 3)) := by
  intro p
  have hcoeffs : ∀ c ∈ p.coeffs, c = 0 ∨ c = 1 := by
    intro c hc
    rw [coeffs_monomial float_one_beq_zero] at hc
    rcases List.mem_append.mp hc with h | h
    · exact .inl (List.eq_of_mem_replicate h)
    · exact .inr (List.mem_singleton.mp h)
  have htext : p.text = "x^4294967296" := by
    rw [text_monomial (by decide)]
    with_unfolding_all decide
  have hdegree : p.degree = 2 ^ 32 := degree_monomial float_one_beq_zero _
  refine ⟨fun c hc => ?_, fun c hc _ => ?_, ?_, htext, ?_⟩
  · rcases hcoeffs c hc with rfl | rfl <;> decide
  · rcases hcoeffs c hc with rfl | rfl <;> with_unfolding_all decide
  · rw [hdegree]
    decide
  · rw [htext]
    with_unfolding_all rfl

end OneUnknown.Polynomial
