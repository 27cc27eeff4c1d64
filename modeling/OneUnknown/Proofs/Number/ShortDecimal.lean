import OneUnknown.Proofs.Number.Decimal
import OneUnknown.Proofs.Number.Positional
import OneUnknown.Proofs.Text.Trim

/-!
# The short text of a rounded number

A rounded number is first written with a fixed number of places, and then what says nothing is taken
away: zeros at the end, a point without digits behind it, and the sign of zero. The number that the
text stands for stays the same, and it has no other short text.

* `Positional.fixed`, **`exists_fixed`**: the text with a fixed number of places;
* `Positional.shortened`, **`withoutTrailingZeros_text`**: what is left of a decimal;
* `Positional.value_shortened`, `Positional.isShort_shortened`: its number and its form;
* **`IsShortDecimal`**, **`decimalText_short`**: the text of a rounded number.
-/

namespace OneUnknown

variable {places : Nat} {x : Float}

/-! ## Fixed places -/

theorem ofDigits_replicate_zero (k : Nat) : ofDigits (List.replicate k '0') = 0 := by
  induction k with
  | zero => rfl
  | succ k ih => rw [List.replicate_succ', ofDigits_append_singleton, ih]; rfl

theorem isWholeNumeral_take_padded (places n : Nat) :
    IsWholeNumeral ((padded (places + 1) n).take ((padded (places + 1) n).length - places)) where
  ne_nil := by
    have := le_length_padded (places + 1) n
    refine List.ne_nil_of_length_pos ?_
    rw [List.length_take]
    omega
  isDigit c hc := isDigit_of_mem_padded (List.mem_of_mem_take hc)
  leading := by
    intro h
    by_cases hshort : (digits n).length ≤ places
    · -- There is padding, so that one digit stands before the point.
      have hone : (padded (places + 1) n).length - places = 1 := by
        rw [padded, List.length_append, List.length_replicate]
        omega
      rw [hone] at h ⊢
      cases hpadded : padded (places + 1) n with
      | nil => rw [hpadded] at h; cases h
      | cons c rest =>
        rw [hpadded] at h
        rw [List.take_succ_cons, List.take_zero, Option.some.inj h]
    · -- There is none, so that a zero in front is the only digit of the numeral.
      have hpadded : padded (places + 1) n = digits n := by
        rw [padded, Nat.sub_eq_zero_of_le (by omega), List.replicate_zero, List.nil_append]
      rw [hpadded] at h ⊢
      have hhead : (digits n).head? = some '0' := by
        rw [← h, List.head?_take, if_neg (by omega)]
      have hzero := (isWholeNumeral_digits n).leading hhead
      have hplaces : places = 0 := by
        rw [hzero] at hshort
        simp only [List.length_singleton] at hshort
        omega
      rw [hzero, hplaces]
      rfl

namespace Positional

/-- **The decimal with `places` digits behind the point** that stands for `n` of the last of
them. -/
def fixed (negative : Bool) (places n : Nat) : Positional where
  negative := negative
  whole := (padded (places + 1) n).take ((padded (places + 1) n).length - places)
  fraction := (padded (places + 1) n).drop ((padded (places + 1) n).length - places)
  isNumeral := isWholeNumeral_take_padded places n
  isDigit _ hc := isDigit_of_mem_padded (List.mem_of_mem_drop hc)

theorem length_fraction_fixed (negative : Bool) (places n : Nat) :
    (fixed negative places n).fraction.length = places := by
  have := le_length_padded (places + 1) n
  rw [fixed, List.length_drop]
  omega

theorem text_fixed (negative : Bool) (places n : Nat) :
    (fixed negative places n).text = (if negative then ['-'] else []) ++ pointed places n := by
  have hlength := length_fraction_fixed negative places n
  rw [text, beforePoint, List.append_assoc, pointed]
  congr 1
  by_cases hplaces : places = 0
  · subst hplaces
    have hnil : (fixed negative 0 n).fraction = [] := List.length_eq_zero_iff.mp hlength
    rw [if_pos hnil, if_pos rfl, List.append_nil]
    exact List.take_length
  · have hne : (fixed negative places n).fraction ≠ [] := by
      intro hnil
      rw [hnil] at hlength
      exact hplaces hlength.symm
    rw [if_neg hne, if_neg hplaces]
    rfl

end Positional

/-- **A finite number is written with exactly the places asked for.** -/
theorem exists_fixed (hx : x.isFinite = true) (places : Nat) :
    ∃ d : Positional, (fixedText places x).toList = d.text ∧ d.fraction.length = places := by
  obtain ⟨d, hd, -⟩ := exists_ofFloat?_of_isFinite hx
  refine ⟨.fixed d.negative places (halfEven (d.numerator * Nat.pow 10 places) d.denominator), ?_,
    Positional.length_fraction_fixed _ _ _⟩
  rw [Positional.text_fixed, fixedText, signedText, hd]
  simp only [String.toList_ofList]
  split <;> rfl

/-! ## What is left of a decimal -/

/-- **Dropping what is idle behind a point** takes the point away with the last digit. -/
theorem dropIdle_append (front : List Char) {fraction : List Char} (h : '.' ∉ fraction) :
    dropIdle (front ++ '.' :: fraction) =
      front ++ if fraction.rdropWhile (· == '0') = [] then []
        else '.' :: fraction.rdropWhile (· == '0') := by
  have hkept : ((front ++ '.' :: fraction).reverse.dropWhile (· == '0')).reverse =
      front ++ '.' :: fraction.rdropWhile (· == '0') := rdropWhile_append_cons (by decide) _ _
  have hpoint : '.' ∉ fraction.rdropWhile (· == '0') :=
    fun hmem => h ((List.rdropWhile_prefix _ _).subset hmem)
  rw [dropIdle, hkept]
  generalize fraction.rdropWhile (· == '0') = kept at hpoint ⊢
  rcases List.eq_nil_or_concat' kept with rfl | ⟨tail, c, rfl⟩
  · rw [if_pos List.getLast?_concat, List.dropLast_concat, if_pos rfl, List.append_nil]
  · have hc : (front ++ '.' :: (tail ++ [c])).getLast? ≠ some '.' := by
      rw [← List.cons_append, ← List.append_assoc, List.getLast?_concat, Ne, Option.some.injEq]
      rintro rfl
      exact hpoint (List.mem_append_right _ (List.mem_singleton_self _))
    rw [if_neg hc, if_neg (List.append_ne_nil_of_right_ne_nil _ (List.cons_ne_nil _ _))]

namespace Positional

variable {d : Positional}

/-- The decimal without zeros at its end behind the point. -/
def trimmed (d : Positional) : Positional :=
  { d with
    fraction := d.fraction.rdropWhile (· == '0')
    isDigit := fun c hc => d.isDigit c ((List.rdropWhile_prefix _ _).subset hc) }

/-- The decimal without its sign. -/
def unsigned (d : Positional) : Positional := { d with negative := false }

/-- **The decimal without idle zeros**, and without its sign if it is zero. -/
def shortened (d : Positional) : Positional :=
  if d.trimmed.text = ['-', '0'] then d.trimmed.unsigned else d.trimmed

theorem point_mem_text_iff : '.' ∈ d.text ↔ d.fraction ≠ [] := by
  have hfront : '.' ∉ d.beforePoint := by
    rw [beforePoint, List.mem_append, not_or]
    exact ⟨by split <;> decide, fun h => Bool.noConfusion (d.isNumeral.isDigit '.' h)⟩
  rw [text, List.mem_append, or_iff_right hfront]
  split
  case isTrue h => simp [h]
  case isFalse h => simp [h]

/-- **What is left of the text of a decimal.** -/
theorem withoutTrailingZeros_text (d : Positional) :
    withoutTrailingZeros d.text = d.shortened.text := by
  have hshort : (if '.' ∈ d.text then dropIdle d.text else d.text) = d.trimmed.text := by
    by_cases h : d.fraction = []
    · have htrimmed : d.trimmed.fraction = [] := congrArg (List.rdropWhile (· == '0')) h
      rw [if_neg (mt point_mem_text_iff.mp (not_not.mpr h)), text, text, h, htrimmed]
      rfl
    · rw [if_pos (point_mem_text_iff.mpr h), text, if_neg h,
        dropIdle_append _ d.point_not_mem_fraction]
      rfl
  rw [withoutTrailingZeros, hshort, shortened]
  by_cases h : d.trimmed.text = ['-', '0']
  · obtain ⟨-, hwhole, hfraction⟩ := text_eq_negative_zero_iff.mp h
    have htext : d.trimmed.unsigned.text = d.trimmed.whole ++
      if d.trimmed.fraction = [] then [] else '.' :: d.trimmed.fraction := rfl
    rw [if_pos h, if_pos h, htext, hwhole, hfraction]
    rfl
  · rw [if_neg h, if_neg h]

theorem magnitude_trimmed (d : Positional) : d.trimmed.magnitude = d.magnitude := by
  obtain ⟨zeros, hzeros, hsplit⟩ : ∃ zeros, (∀ c ∈ zeros, c = '0') ∧
      d.trimmed.fraction ++ zeros = d.fraction :=
    ⟨d.fraction.rtakeWhile (· == '0'),
      fun c hc => beq_iff_eq.mp (List.mem_rtakeWhile_imp (p := (· == '0')) hc),
      List.rdropWhile_append_rtakeWhile⟩
  have hvalue : ofDigits (d.whole ++ d.fraction) =
      ofDigits (d.whole ++ d.trimmed.fraction) * 10 ^ zeros.length := by
    rw [← hsplit, ← List.append_assoc, ofDigits_append, List.eq_replicate_of_mem hzeros,
      ofDigits_replicate_zero, Nat.add_zero]
  have hlength : d.fraction.length = d.trimmed.fraction.length + zeros.length := by
    rw [← hsplit, List.length_append]
  have hwhole : d.trimmed.whole = d.whole := rfl
  rw [magnitude, magnitude, hvalue, hlength, hwhole, pow_add]
  push_cast
  rw [mul_div_mul_right _ _ (by positivity)]

/-- **Nothing that counts is dropped.** -/
theorem value_shortened (d : Positional) : d.shortened.value = d.value := by
  have htrimmed : d.trimmed.value = d.value := by
    rw [value, value, magnitude_trimmed]
    rfl
  rw [← htrimmed, shortened]
  split
  case isFalse => rfl
  case isTrue h =>
    obtain ⟨hnegative, hwhole, hfraction⟩ := text_eq_negative_zero_iff.mp h
    have hzero : d.trimmed.magnitude = 0 := by
      rw [magnitude, hwhole, hfraction]
      norm_num [ofDigits, digitValue]
    have hunsigned : d.trimmed.unsigned.value = d.trimmed.magnitude := rfl
    rw [hunsigned, value, hzero, neg_zero, ite_self]

/-- **Nothing that is left is idle.** -/
theorem isShort_shortened (d : Positional) : d.shortened.IsShort := by
  have hlast : d.trimmed.fraction.getLast? ≠ some '0' := by
    intro h
    obtain ⟨hne, hzero⟩ := List.mem_getLast?_eq_getLast h
    exact List.rdropWhile_last_not (· == '0') d.fraction hne (beq_iff_eq.mpr hzero.symm)
  rw [shortened]
  split
  case isFalse h => exact ⟨hlast, h⟩
  case isTrue => exact ⟨hlast, fun h => Bool.noConfusion (text_eq_negative_zero_iff.mp h).1⟩

theorem length_fraction_shortened_le (d : Positional) :
    d.shortened.fraction.length ≤ d.fraction.length := by
  have htrimmed : d.shortened.fraction = d.trimmed.fraction := by
    rw [shortened]
    split <;> rfl
  rw [htrimmed]
  exact (List.rdropWhile_prefix _ _).length_le

end Positional

/-! ## Rounded numbers -/

/-- **The text is that of a decimal with at most `places` digits behind the point** in which nothing
is idle. -/
def IsShortDecimal (places : Nat) (text : List Char) : Prop :=
  ∃ d : Positional, text = d.text ∧ d.IsShort ∧ d.fraction.length ≤ places

theorem IsShortDecimal.eq_of_decimalValue_eq {places' : Nat} {text text' : List Char}
    (h : IsShortDecimal places text) (h' : IsShortDecimal places' text')
    (hvalue : decimalValue text = decimalValue text') : text = text' := by
  obtain ⟨d, rfl, hd, -⟩ := h
  obtain ⟨e, rfl, he, -⟩ := h'
  rw [decimalValue_text, decimalValue_text] at hvalue
  rw [hd.eq_of_value_eq he hvalue]

theorem isShortDecimal_withoutTrailingZeros (hx : x.isFinite = true) (places : Nat) :
    IsShortDecimal places (withoutTrailingZeros (fixedText places x).toList) ∧
    decimalValue (withoutTrailingZeros (fixedText places x).toList) =
      decimalValue (fixedText places x).toList := by
  obtain ⟨d, htext, hlength⟩ := exists_fixed hx places
  rw [htext, d.withoutTrailingZeros_text, decimalValue_text, decimalValue_text]
  exact ⟨⟨_, rfl, d.isShort_shortened, hlength ▸ d.length_fraction_shortened_le⟩,
    d.value_shortened⟩

/-- **The text of a rounded number.** -/
theorem decimalText_short (h : (roundedAt places x).isFinite = true) :
    IsShortDecimal places (decimalText places x).toList ∧
    decimalText places x ≠ "-0" ∧
    (∃ fixed : Positional, (fixedText places (roundedAt places x)).toList = fixed.text ∧
      fixed.fraction.length = places) ∧
    decimalValue (decimalText places x).toList =
      decimalValue (fixedText places (roundedAt places x)).toList ∧
    ∀ {places' : Nat} {x' : Float}, (roundedAt places' x').isFinite = true →
      (decimalText places' x' = decimalText places x ↔
        decimalValue (fixedText places' (roundedAt places' x')).toList =
          decimalValue (fixedText places (roundedAt places x)).toList) := by
  have hlist : ∀ {places x}, (decimalText places x).toList =
      withoutTrailingZeros (fixedText places (roundedAt places x)).toList := String.toList_ofList
  obtain ⟨hshort, hvalue⟩ := isShortDecimal_withoutTrailingZeros h places
  rw [← hlist] at hshort hvalue
  refine ⟨hshort, fun hzero => ?_, exists_fixed h places, hvalue, fun {places' x'} h' => ?_⟩
  · obtain ⟨d, htext, hd, -⟩ := hshort
    exact hd.sign (htext ▸ congrArg String.toList hzero)
  · obtain ⟨hshort', hvalue'⟩ := isShortDecimal_withoutTrailingZeros h' places'
    rw [← hlist] at hshort' hvalue'
    rw [← hvalue, ← hvalue', ← String.toList_inj]
    exact ⟨congrArg decimalValue, hshort'.eq_of_decimalValue_eq hshort⟩

/-- A negative number whose zeros go, and one that vanishes with its sign. -/
theorem decimalText_short_trimmed :
    fixedText 6 (roundedAt 6 (-2.5)) = "-2.500000" ∧ decimalText 6 (-2.5) = "-2.5" ∧
    IsShortDecimal 6 (decimalText 6 (-2.5)).toList ∧
    decimalValue (decimalText 6 (-2.5)).toList = decimalValue "-2.500000".toList ∧
    decimalText 1 (-2.5) = decimalText 6 (-2.5) ∧
    fixedText 6 (roundedAt 6 (-1e-7)) = "-0.000000" ∧ decimalText 6 (-1e-7) = "0" ∧
    IsShortDecimal 6 (decimalText 6 (-1e-7)).toList ∧ decimalText 6 (-1e-7) ≠ "-0" ∧
    decimalText 6 (-1e-7) ≠ decimalText 6 (-2.5) := by
  have hhalf : (roundedAt 6 (-2.5)).isFinite = true := by decide +kernel
  have hhalf' : (roundedAt 1 (-2.5)).isFinite = true := by decide +kernel
  have hzero : (roundedAt 6 (-1e-7)).isFinite = true := by decide +kernel
  have hfixed : fixedText 6 (roundedAt 6 (-2.5)) = "-2.500000" := by decide +kernel
  have hfixed' : fixedText 1 (roundedAt 1 (-2.5)) = "-2.5" := by decide +kernel
  have hfixedZero : fixedText 6 (roundedAt 6 (-1e-7)) = "-0.000000" := by decide +kernel
  obtain ⟨hshort, -, -, hvalue, hsame⟩ := decimalText_short hhalf
  obtain ⟨hshortZero, hsign, -, -, -⟩ := decimalText_short hzero
  have hplaces := hsame hhalf'
  have hother := hsame hzero
  rw [hfixed] at hvalue hplaces hother
  rw [hfixed'] at hplaces
  rw [hfixedZero] at hother
  refine ⟨hfixed, by decide +kernel, hshort, hvalue, hplaces.mpr (by decide +kernel), hfixedZero,
    by decide +kernel, hshortZero, hsign, mt hother.mp (by decide +kernel)⟩

end OneUnknown
