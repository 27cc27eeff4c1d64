import OneUnknown.Proofs.Grammar.Derivation
import OneUnknown.Proofs.Number.Arithmetic
import OneUnknown.Proofs.Number.Numeral
import OneUnknown.Proofs.Token.Spelling

/-!
# Printed numbers are literals

What is printed for a finite number without a sign is a literal: digits, with at most one point
behind the first of them. The numeral of a whole number is read as this number.

* `isLiteral_digits`, `isLiteral_pointed`, **`isLiteral_plainText_abs`**: literals;
* **`literalValue_digits`**: the value of a numeral;
* `isExponent_literalValue_digits`: numerals as exponents.
-/

namespace OneUnknown

/-! ## Literals -/

theorem isLiteralChar_of_isDigit {c : Char} (h : c.isDigit = true) : isLiteralChar c = true := by
  rw [isLiteralChar, h, Bool.true_or]

theorem count_point_eq_zero {run : List Char} (h : ∀ c ∈ run, c.isDigit = true) :
    run.count '.' = 0 :=
  List.count_eq_zero.mpr fun hpoint => Bool.noConfusion (h '.' hpoint)

theorem isLiteral_of_isDigit {run : List Char} (hne : run ≠ [])
    (h : ∀ c ∈ run, c.isDigit = true) : IsLiteral run := by
  obtain ⟨c, tail, rfl⟩ := List.exists_cons_of_ne_nil hne
  exact ⟨⟨c, tail, rfl, h c List.mem_cons_self⟩, fun d hd => isLiteralChar_of_isDigit (h d hd),
    by rw [count_point_eq_zero h]; exact Nat.zero_le 1⟩

theorem isLiteral_digits (n : Nat) : IsLiteral (digits n) :=
  isLiteral_of_isDigit (digits_ne_nil n) fun _ hc => isDigit_of_mem_digits hc

theorem isDigit_of_mem_padded {width n : Nat} {c : Char} (h : c ∈ padded width n) :
    c.isDigit = true := by
  rcases List.mem_append.mp h with hc | hc
  · rw [List.eq_of_mem_replicate hc]
    rfl
  · exact isDigit_of_mem_digits hc

theorem le_length_padded (width n : Nat) : width ≤ (padded width n).length := by
  rw [padded, List.length_append, List.length_replicate]
  omega

theorem isLiteral_pointed (places n : Nat) : IsLiteral (pointed places n) := by
  unfold pointed
  have hlength := le_length_padded (places + 1) n
  have hdigit : ∀ c ∈ padded (places + 1) n, c.isDigit = true := fun c => isDigit_of_mem_padded
  generalize padded (places + 1) n = ds at hlength hdigit
  dsimp only
  split
  · exact isLiteral_of_isDigit (List.ne_nil_of_length_pos (by omega)) hdigit
  · generalize hwhole : ds.length - places = whole
    obtain ⟨k, rfl⟩ : ∃ k, whole = k + 1 := ⟨whole - 1, by omega⟩
    obtain ⟨c, tail, rfl⟩ := List.exists_cons_of_length_pos (l := ds) (by omega)
    have htake : ∀ d ∈ (c :: tail).take (k + 1), d.isDigit = true :=
      fun d hd => hdigit d (List.mem_of_mem_take hd)
    have hdrop : ∀ d ∈ (c :: tail).drop (k + 1), d.isDigit = true :=
      fun d hd => hdigit d (List.mem_of_mem_drop hd)
    refine ⟨⟨c, _, rfl, hdigit c List.mem_cons_self⟩, fun d hd => ?_, ?_⟩
    · rcases List.mem_append.mp hd with hd | hd
      · exact isLiteralChar_of_isDigit (htake d hd)
      · rcases List.mem_cons.mp hd with rfl | hd
        · rfl
        · exact isLiteralChar_of_isDigit (hdrop d hd)
    · rw [List.count_append, count_point_eq_zero htake, List.count_cons_self,
        count_point_eq_zero hdrop]

theorem isLiteral_text (d : Decimal) : IsLiteral d.text := by
  unfold Decimal.text
  split
  · exact isLiteral_digits _
  · exact isLiteral_pointed _ _

theorem exists_ofFloat?_abs {x : Float} (h : x.isFinite = true) :
    ∃ d, Dyadic.ofFloat? x.abs = some d ∧ d.negative = false := by
  rw [ofFloat?_eq, unpacked_abs]
  rcases isFinite_iff.mp h with ⟨s, hx⟩ | ⟨s, m, e, hm, hx⟩ <;> rw [hx] <;> exact ⟨_, rfl, rfl⟩

/-- **The text of a finite magnitude is a literal.** -/
theorem isLiteral_plainText_abs {x : Float} (h : x.isFinite = true) :
    IsLiteral (plainText x.abs).toList := by
  obtain ⟨d, hd, hsign⟩ := exists_ofFloat?_abs h
  rw [plainText, signedText, hd]
  simp only [hsign, Bool.false_eq_true, if_false, String.toList_ofList]
  exact isLiteral_text _

/-! ## Numerals -/

theorem splitPoint_of_isDigit {run : List Char} (h : ∀ c ∈ run, c.isDigit = true) :
    splitPoint run = (run, []) := by
  have hpoint : ∀ c ∈ run, decide (c ≠ '.') = true := fun c hc => by
    refine decide_eq_true ?_
    rintro rfl
    exact Bool.noConfusion (h '.' hc)
  have htake : (run ++ []).takeWhile (· ≠ '.') = _ := List.takeWhile_append_of_pos hpoint
  have hdrop : (run ++ []).dropWhile (· ≠ '.') = _ := List.dropWhile_append_of_pos hpoint
  rw [List.append_nil] at htake hdrop
  rw [splitPoint, htake, hdrop, List.takeWhile_nil, List.append_nil, List.dropWhile_nil,
    List.drop_nil]

/-- **A numeral of a whole number of at most 53 bits is read as this number.** -/
theorem literalValue_digits {n : Nat} (h : n < 2 ^ 53) :
    literalValue (digits n) = Float.ofNat n := by
  have hsplit : splitPoint (digits n) = (digits n, []) :=
    splitPoint_of_isDigit fun c hc => isDigit_of_mem_digits hc
  have hlength : (digits n).length ≤ 16 := length_digits_le (by decide) (by omega)
  rw [literalValue, hsplit]
  dsimp only
  rw [List.append_nil, ofDigits_digits, List.length_nil, Int.natCast_zero, Int.neg_zero]
  unfold nearestFloat
  dsimp only
  rcases Nat.eq_zero_or_pos n with rfl | hn
  · decide
  · rw [if_neg (by simp; omega), if_neg (by omega), if_pos (le_refl 0)]
    rfl

theorem isFinite_literalValue_digits {n : Nat} (h : n < 2 ^ 53) :
    (literalValue (digits n)).isFinite = true := by
  obtain ⟨d, hd, -⟩ := exists_ofFloat?_ofNat h
  rw [literalValue_digits h]
  exact isFinite_of_ofFloat? hd

theorem isExponent_literalValue_digits {n : Nat} (h : n ≤ maxExponent) :
    Grammar.IsExponent (literalValue (digits n)) n := by
  have hmax : maxExponent = 2 ^ 32 - 1 := rfl
  have hn : n < 2 ^ 53 := by omega
  obtain ⟨d, hd, hsign, hnumerator⟩ := exists_ofFloat?_ofNat hn
  rw [literalValue_digits hn]
  refine ⟨by rw [hd]; rfl, n, ?_, by omega, Int.toNat_natCast n⟩
  rw [Grammar.exactValue_eq_intCast_iff hd, hsign, hnumerator]
  push_cast
  rfl

end OneUnknown
