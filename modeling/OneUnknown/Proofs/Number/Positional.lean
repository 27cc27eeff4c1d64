import Mathlib.Algebra.Order.Field.Basic
import Mathlib.Data.List.Induction
import Mathlib.Tactic.FieldSimp
import Mathlib.Tactic.Ring
import OneUnknown.Proofs.Token.Literal

/-!
# Decimals in positional notation

A decimal is written as a sign, a numeral and, behind a point, further digits. Zeros at its end say
nothing, and neither does the sign of zero; without them the digits are determined by the number.

* `ofDigits_append`, `ofDigits_lt`, `eq_of_ofDigits_eq`: the number of a row of digits;
* **`IsWholeNumeral`**, **`IsWholeNumeral.digits_ofDigits`**: the rows of digits that are numerals;
* **`Positional`**: a decimal, with its text and its value;
* **`decimalValue`**, `decimalValue_text`: the number that a text stands for;
* `Positional.IsShort`, **`Positional.IsShort.eq_of_value_eq`**: decimals without idle zeros and
  signs.
-/

namespace OneUnknown

/-! ## Rows of digits -/

section

variable {c : Char} {ds es : List Char}

theorem digitValue_lt (h : c.isDigit = true) : digitValue c < 10 := by
  simp only [Char.isDigit, Bool.and_eq_true, decide_eq_true_eq] at h
  have hhigh : c.toNat ≤ 57 := UInt32.le_iff_toNat_le.mp h.2
  unfold digitValue
  omega

theorem digitChar_digitValue (h : c.isDigit = true) : digitChar (digitValue c) = c := by
  simp only [Char.isDigit, Bool.and_eq_true, decide_eq_true_eq] at h
  have hlow : 48 ≤ c.toNat := UInt32.le_iff_toNat_le.mp h.1
  rw [digitChar, digitValue, Nat.add_sub_cancel' hlow, Char.ofNat_toNat]

theorem eq_zero_of_digitValue (h : c.isDigit = true) (hc : digitValue c = 0) : c = '0' := by
  rw [← digitChar_digitValue h, hc]
  rfl

theorem ofDigits_append (ds es : List Char) :
    ofDigits (ds ++ es) = ofDigits ds * 10 ^ es.length + ofDigits es := by
  induction es using List.reverseRecOn with
  | nil => simp [ofDigits]
  | append_singleton es c ih =>
    rw [← List.append_assoc, ofDigits_append_singleton, ih, ofDigits_append_singleton,
      List.length_append, List.length_singleton]
    ring

theorem ofDigits_lt (h : ∀ c ∈ ds, c.isDigit = true) : ofDigits ds < 10 ^ ds.length := by
  induction ds using List.reverseRecOn with
  | nil => simp [ofDigits]
  | append_singleton ds c ih =>
    have hds := ih fun d hd => h d (List.mem_append_left _ hd)
    have hc := digitValue_lt (h c (List.mem_append_right _ (List.mem_singleton_self c)))
    rw [ofDigits_append_singleton, List.length_append, List.length_singleton, pow_succ]
    omega

theorem eq_of_ofDigits_eq (hds : ∀ c ∈ ds, c.isDigit = true) (hes : ∀ c ∈ es, c.isDigit = true)
    (hlength : ds.length = es.length) (h : ofDigits ds = ofDigits es) : ds = es := by
  induction ds using List.reverseRecOn generalizing es with
  | nil => exact (List.length_eq_zero_iff.mp hlength.symm).symm
  | append_singleton ds c ih =>
    obtain ⟨es, d, rfl⟩ : ∃ front last, es = front ++ [last] := by
      refine (List.eq_nil_or_concat' es).resolve_left ?_
      rintro rfl
      simp at hlength
    rw [List.forall_mem_append, List.forall_mem_singleton] at hds hes
    rw [ofDigits_append_singleton, ofDigits_append_singleton] at h
    have hc := digitValue_lt hds.2
    have hd := digitValue_lt hes.2
    have hfront : ds = es := ih hds.1 hes.1 (by simpa using hlength) (by omega)
    have hlast : c = d := by
      rw [← digitChar_digitValue hds.2, ← digitChar_digitValue hes.2,
        show digitValue c = digitValue d by omega]
    rw [hfront, hlast]

theorem eq_nil_of_ofDigits_eq_zero (hds : ∀ c ∈ ds, c.isDigit = true)
    (hlast : ds.getLast? ≠ some '0') (h : ofDigits ds = 0) : ds = [] := by
  rcases List.eq_nil_or_concat' ds with rfl | ⟨front, c, rfl⟩
  · rfl
  · have hc := hds c (List.mem_append_right _ (List.mem_singleton_self c))
    rw [ofDigits_append_singleton] at h
    rw [eq_zero_of_digitValue hc (by omega), List.getLast?_append_cons] at hlast
    exact absurd rfl hlast

end

/-! ## Numerals -/

/-- **The row of digits is a numeral**: there is no superfluous zero in front. -/
structure IsWholeNumeral (ds : List Char) : Prop where
  ne_nil : ds ≠ []
  isDigit : ∀ c ∈ ds, c.isDigit = true
  leading : ds.head? = some '0' → ds = ['0']

theorem digits_zero : digits 0 = ['0'] := by
  rw [digits, if_pos (by decide)]
  rfl

theorem isWholeNumeral_digits (n : Nat) : IsWholeNumeral (digits n) where
  ne_nil := digits_ne_nil n
  isDigit _ := isDigit_of_mem_digits
  leading := by
    induction n using digits.induct with
    | case1 n hn =>
      rw [digits, if_pos hn]
      intro h
      rw [Option.some.inj h]
    | case2 n hn ih =>
      rw [digits, if_neg hn, List.head?_append_of_ne_nil _ (digits_ne_nil _)]
      intro h
      have hzero : ofDigits (digits (n / 10)) = 0 := by
        rw [ih h]
        rfl
      rw [ofDigits_digits] at hzero
      omega

/-- **A numeral is written for its number.** -/
theorem IsWholeNumeral.digits_ofDigits {ds : List Char} (h : IsWholeNumeral ds) :
    digits (ofDigits ds) = ds := by
  induction ds using List.reverseRecOn with
  | nil => exact absurd rfl h.ne_nil
  | append_singleton front c ih =>
    have hdigit := h.isDigit
    rw [List.forall_mem_append, List.forall_mem_singleton] at hdigit
    have hc := digitValue_lt hdigit.2
    rw [ofDigits_append_singleton]
    by_cases hnil : front = []
    · subst hnil
      have hone : 10 * ofDigits [] + digitValue c = digitValue c := Nat.zero_add _
      rw [hone, digits, if_pos hc, digitChar_digitValue hdigit.2]
      rfl
    · have hleading : front.head? ≠ some '0' := by
        intro hhead
        have hall := h.leading ((List.head?_append_of_ne_nil _ hnil).trans hhead)
        rcases List.append_eq_singleton_iff.mp hall with ⟨hfront, -⟩ | ⟨-, hlast⟩
        · exact hnil hfront
        · exact List.cons_ne_nil _ _ hlast
      have hfront := ih ⟨hnil, hdigit.1, fun hhead => absurd hhead hleading⟩
      have hpos : ofDigits front ≠ 0 := by
        intro hzero
        rw [hzero, digits_zero] at hfront
        exact hleading (hfront ▸ rfl)
      rw [digits, if_neg (by omega), show (10 * ofDigits front + digitValue c) / 10 =
        ofDigits front by omega, hfront, show (10 * ofDigits front + digitValue c) % 10 =
        digitValue c by omega, digitChar_digitValue hdigit.2]

theorem IsWholeNumeral.eq_of_ofDigits_eq {ds es : List Char} (hds : IsWholeNumeral ds)
    (hes : IsWholeNumeral es) (h : ofDigits ds = ofDigits es) : ds = es := by
  rw [← hds.digits_ofDigits, h, hes.digits_ofDigits]

/-! ## Decimals -/

/-- **A decimal in positional notation**: its sign, the numeral before the point and the digits
behind it. -/
@[ext]
structure Positional where
  negative : Bool
  whole : List Char
  fraction : List Char
  isNumeral : IsWholeNumeral whole
  isDigit : ∀ c ∈ fraction, c.isDigit = true

namespace Positional

/-- What stands before the point. -/
def beforePoint (d : Positional) : List Char := (if d.negative then ['-'] else []) ++ d.whole

/-- **The text of a decimal.** The point is there if digits follow it. -/
def text (d : Positional) : List Char :=
  d.beforePoint ++ if d.fraction = [] then [] else '.' :: d.fraction

theorem minus_not_mem_whole (d : Positional) : '-' ∉ d.whole :=
  fun h => Bool.noConfusion (d.isNumeral.isDigit '-' h)

theorem point_not_mem_fraction (d : Positional) : '.' ∉ d.fraction :=
  fun h => Bool.noConfusion (d.isDigit '.' h)

theorem text_eq_negative_zero_iff {d : Positional} :
    d.text = ['-', '0'] ↔ d.negative = true ∧ d.whole = ['0'] ∧ d.fraction = [] := by
  constructor
  · intro h
    obtain ⟨c, tail, hwhole⟩ := List.exists_cons_of_ne_nil d.isNumeral.ne_nil
    have hc : c ≠ '-' := fun hc => d.minus_not_mem_whole (hwhole ▸ hc ▸ List.mem_cons_self)
    rw [text, beforePoint, hwhole] at h
    cases hnegative : d.negative with
    | false =>
      rw [hnegative] at h
      exact absurd (List.cons.inj h).1 hc
    | true =>
      rw [hnegative] at h
      obtain ⟨rfl, hrest⟩ := List.cons.inj (List.cons.inj h).2
      obtain ⟨rfl, hfraction⟩ := List.append_eq_nil_iff.mp hrest
      refine ⟨rfl, hwhole, ?_⟩
      by_contra hne
      rw [if_neg hne] at hfraction
      exact List.cons_ne_nil _ _ hfraction
  · rintro ⟨hnegative, hwhole, hfraction⟩
    rw [text, beforePoint, hnegative, hwhole, hfraction]
    rfl

/-- What is left of a decimal without its sign. -/
def magnitude (d : Positional) : ℚ :=
  ofDigits (d.whole ++ d.fraction) / 10 ^ d.fraction.length

/-- **The number that a decimal stands for.** -/
def value (d : Positional) : ℚ := if d.negative then -d.magnitude else d.magnitude

theorem magnitude_nonneg (d : Positional) : 0 ≤ d.magnitude := by
  unfold magnitude
  positivity

theorem abs_value (d : Positional) : |d.value| = d.magnitude := by
  unfold value
  split
  · rw [abs_neg, abs_of_nonneg d.magnitude_nonneg]
  · exact abs_of_nonneg d.magnitude_nonneg

end Positional

/-! ## Texts of decimals -/

/-- The number of digits with at most one point among them. -/
def unsignedValue (text : List Char) : ℚ :=
  let (whole, fraction) := splitPoint text
  ofDigits (whole ++ fraction) / 10 ^ fraction.length

/-- **The number that the text of a decimal stands for**: what its digits say, below zero if a minus
sign stands before them. -/
def decimalValue : List Char → ℚ
  | '-' :: text => -unsignedValue text
  | text => unsignedValue text

theorem splitPoint_append {whole : List Char} (hwhole : ∀ c ∈ whole, c.isDigit = true)
    (fraction : List Char) :
    splitPoint (whole ++ if fraction = [] then [] else '.' :: fraction) = (whole, fraction) := by
  split
  case isTrue hnil => rw [hnil, List.append_nil, splitPoint_of_isDigit hwhole]
  case isFalse =>
    have hpoint : ∀ c ∈ whole, decide (c ≠ '.') = true := fun c hc => by
      refine decide_eq_true ?_
      rintro rfl
      exact Bool.noConfusion (hwhole '.' hc)
    rw [splitPoint, List.takeWhile_append_of_pos hpoint, List.dropWhile_append_of_pos hpoint,
      List.takeWhile_cons_of_neg (by decide), List.dropWhile_cons_of_neg (by decide),
      List.append_nil, List.drop_succ_cons, List.drop_zero]

/-- **The text of a decimal stands for its number.** -/
theorem decimalValue_text (d : Positional) : decimalValue d.text = d.value := by
  have hsplit := splitPoint_append d.isNumeral.isDigit d.fraction
  have hunsigned : unsignedValue (d.whole ++ if d.fraction = [] then [] else '.' :: d.fraction) =
      d.magnitude := by
    unfold unsignedValue
    rw [hsplit]
    rfl
  rw [Positional.text, Positional.beforePoint, Positional.value, List.append_assoc]
  cases d.negative with
  | true => exact congrArg Neg.neg hunsigned
  | false =>
    obtain ⟨c, tail, hwhole⟩ := List.exists_cons_of_ne_nil d.isNumeral.ne_nil
    have hc : c ≠ '-' := fun hc => d.minus_not_mem_whole (hwhole ▸ hc ▸ List.mem_cons_self)
    rw [← hunsigned, hwhole]
    unfold decimalValue
    split
    case h_1 heq => exact absurd (List.cons.inj heq).1 hc
    case h_2 => rfl

/-! ## Short decimals -/

namespace Positional

variable {d e : Positional}

/-- **Nothing in the decimal is idle**: it does not end with a zero behind the point, and zero has
no sign. -/
structure IsShort (d : Positional) : Prop where
  last : d.fraction.getLast? ≠ some '0'
  sign : d.text ≠ ['-', '0']

/-- A decimal with more digits behind the point than another of the same magnitude ends with a
zero. -/
theorem getLast?_of_length_lt (hlength : d.fraction.length < e.fraction.length)
    (h : d.magnitude = e.magnitude) : e.fraction.getLast? = some '0' := by
  obtain ⟨k, hk⟩ := Nat.exists_eq_add_of_lt hlength
  have hscaled : ofDigits (e.whole ++ e.fraction) =
      ofDigits (d.whole ++ d.fraction) * 10 ^ k * 10 := by
    unfold magnitude at h
    rw [hk] at h
    have hpow : (10 : ℚ) ^ (d.fraction.length + k + 1) =
        10 ^ d.fraction.length * (10 ^ k * 10) := by ring
    rw [hpow, div_eq_div_iff (by positivity) (by positivity)] at h
    have hcancel : (10 : ℚ) ^ d.fraction.length * (ofDigits (e.whole ++ e.fraction) : ℚ) =
        10 ^ d.fraction.length * (ofDigits (d.whole ++ d.fraction) * 10 ^ k * 10) := by
      linear_combination -h
    exact_mod_cast mul_left_cancel₀ (pow_ne_zero _ (by norm_num)) hcancel
  obtain ⟨front, c, hfraction⟩ : ∃ front last, e.fraction = front ++ [last] := by
    refine (List.eq_nil_or_concat' e.fraction).resolve_left fun hnil => ?_
    rw [hnil] at hlength
    exact absurd hlength (Nat.not_lt_zero _)
  have hc := e.isDigit c (hfraction ▸ List.mem_append_right _ (List.mem_singleton_self c))
  have hlt := digitValue_lt hc
  rw [hfraction, ← List.append_assoc, ofDigits_append_singleton] at hscaled
  rw [hfraction, eq_zero_of_digitValue hc (by omega), List.getLast?_append_cons]
  rfl

theorem IsShort.digits_eq (hd : d.IsShort) (he : e.IsShort) (h : d.magnitude = e.magnitude) :
    d.whole = e.whole ∧ d.fraction = e.fraction := by
  have hlength : d.fraction.length = e.fraction.length := by
    rcases Nat.lt_trichotomy d.fraction.length e.fraction.length with hlt | heq | hlt
    · exact absurd (getLast?_of_length_lt hlt h) he.last
    · exact heq
    · exact absurd (getLast?_of_length_lt hlt h.symm) hd.last
  have hdigits : ofDigits (d.whole ++ d.fraction) = ofDigits (e.whole ++ e.fraction) := by
    unfold magnitude at h
    rw [hlength, div_left_inj' (by positivity)] at h
    exact_mod_cast h
  have hd' := ofDigits_lt d.isDigit
  have he' := ofDigits_lt e.isDigit
  rw [ofDigits_append, ofDigits_append, hlength] at hdigits
  rw [hlength] at hd'
  have hwhole : ofDigits d.whole = ofDigits e.whole := by
    have hpos : 0 < 10 ^ e.fraction.length := by positivity
    have hquotient := congrArg (· / 10 ^ e.fraction.length) hdigits
    simpa only [Nat.add_comm (_ * _), Nat.add_mul_div_right _ _ hpos, Nat.div_eq_of_lt hd',
      Nat.div_eq_of_lt he', Nat.zero_add] using hquotient
  rw [hwhole] at hdigits
  exact ⟨d.isNumeral.eq_of_ofDigits_eq e.isNumeral hwhole,
    eq_of_ofDigits_eq d.isDigit e.isDigit hlength (Nat.add_left_cancel hdigits)⟩

theorem IsShort.negative_eq_false (hd : d.IsShort) (h : d.magnitude = 0) :
    d.negative = false := by
  have hzero : ofDigits (d.whole ++ d.fraction) = 0 := by
    unfold magnitude at h
    rw [div_eq_zero_iff, or_iff_left (by positivity)] at h
    exact_mod_cast h
  rw [ofDigits_append, Nat.add_eq_zero_iff, Nat.mul_eq_zero] at hzero
  have hwhole : d.whole = ['0'] := by
    rw [← d.isNumeral.digits_ofDigits, hzero.1.resolve_right (by positivity), digits_zero]
  have hfraction := eq_nil_of_ofDigits_eq_zero d.isDigit hd.last hzero.2
  rw [← Bool.not_eq_true]
  exact fun hnegative => hd.sign (text_eq_negative_zero_iff.mpr ⟨hnegative, hwhole, hfraction⟩)

/-- **Short decimals of the same number are the same.** -/
theorem IsShort.eq_of_value_eq (hd : d.IsShort) (he : e.IsShort) (h : d.value = e.value) :
    d = e := by
  have hmagnitude : d.magnitude = e.magnitude := by rw [← abs_value, h, abs_value]
  obtain ⟨hwhole, hfraction⟩ := hd.digits_eq he hmagnitude
  refine Positional.ext ?_ hwhole hfraction
  by_cases hzero : d.magnitude = 0
  · rw [hd.negative_eq_false hzero, he.negative_eq_false (hmagnitude ▸ hzero)]
  · unfold value at h
    rw [← hmagnitude] at h
    -- Only zero is its own opposite.
    have hopposite : d.magnitude ≠ -d.magnitude := fun heq => hzero (self_eq_neg.mp heq)
    cases hnegative : d.negative <;> cases hnegative' : e.negative
    case false.false => rfl
    case true.true => rfl
    case false.true =>
      rw [hnegative, hnegative'] at h
      exact absurd h hopposite
    case true.false =>
      rw [hnegative, hnegative'] at h
      exact absurd h.symm hopposite

end Positional

end OneUnknown
