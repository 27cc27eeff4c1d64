import OneUnknown.Number.FixedPoint
import OneUnknown.Proofs.Number.Magnitude
import OneUnknown.Proofs.Quadratic.Layouts

/-!
# Numbers that cannot be written

A number is rounded to some places after the point by scaling it with a power of ten. What is not
finite, or becomes infinite by that, is written as an infinity or as `NaN`; and nothing else is.

* `exactValue_powerOfTen`, `isFinite_roundFloat`: scaling and rounding;
* **`Writable`**: the number and its multiple by the power of ten are in the range of the finite
  numbers; **`isFinite_roundedAt_iff`**: such a number stays finite when it is rounded;
* `Bounded.writable`: numbers of moderate size;
* **`ShowsNonFinite`**: a text with the name of an infinity or of `NaN`;
* **`showsNonFinite_decimalText_iff`**: the numbers whose decimals are such texts.
-/

namespace OneUnknown

open Float.Model Float.Model.UnpackedFloat
open Float.Model.Format (binary64)

variable {places : Nat} {x y : Float}

/-! ## Rounding to some places -/

theorem exactValue_powerOfTen (h : places ≤ 15) : exactValue (powerOfTen places) = 10 ^ places := by
  have hall : ∀ i : Fin 16, exactValue (powerOfTen i) = ((10 ^ i.val : Nat) : ℚ) := by
    decide +kernel
  simpa using hall ⟨places, by omega⟩

theorem isFinite_powerOfTen (h : places ≤ 15) : (powerOfTen places).isFinite = true := by
  have hall : ∀ i : Fin 16, (powerOfTen i).isFinite = true := by decide +kernel
  exact hall ⟨places, by omega⟩

theorem ofFloat?_eq_none (h : x.isFinite = false) : Dyadic.ofFloat? x = none := by
  by_contra hne
  obtain ⟨d, hd⟩ := Option.ne_none_iff_exists'.mp hne
  rw [isFinite_of_ofFloat? hd] at h
  exact Bool.noConfusion h

theorem isFinite_ofNat {n : Nat} (h : n < 2 ^ 53) : (Float.ofNat n).isFinite = true := by
  obtain ⟨d, hd, -⟩ := exists_ofFloat?_ofNat h
  exact isFinite_of_ofFloat? hd

theorem isFinite_roundFloat (x : Float) : (roundFloat x).isFinite = x.isFinite := by
  cases hx : x.isFinite with
  | false =>
    rw [roundFloat, ofFloat?_eq_none hx]
    exact hx
  | true =>
    obtain ⟨d, hd, hlt, -⟩ := exists_ofFloat?_of_isFinite hx
    by_cases he : 0 ≤ d.exponent
    · simp only [roundFloat, hd, if_pos he, hx]
    · rw [roundFloat_of_exponent_neg hd (by omega), withSign_isFinite]
      exact isFinite_ofNat (halfUp_lt hlt (by omega))

theorem not_isFinite_mul_div (hx : x.isFinite = false) (hy : y.isFinite)
    (hy₀ : (y == 0) = false) : (x * y).isFinite = false ∧ (x / y).isFinite = false := by
  obtain ⟨t, n, d, hn, ht⟩ := exists_unpacked_of_ne_zero hy hy₀
  have hresult : ∀ {f : UnpackedFloat}, Representable f → f.isFinite = false →
      (packed f).isFinite = false := fun hr hf => (isFinite_packed_iff hr).trans hf
  rw [mul_eq, div_eq, ht]
  rcases hs : unpacked x with s | _ | s | ⟨s, m, e, hm⟩
  · exact ⟨hresult trivial rfl, hresult trivial rfl⟩
  · exact ⟨hresult trivial rfl, hresult trivial rfl⟩
  · rw [isFinite_iff.mpr (.inl ⟨s, hs⟩)] at hx
    exact Bool.noConfusion hx
  · rw [isFinite_iff.mpr (.inr ⟨s, m, e, hm, hs⟩)] at hx
    exact Bool.noConfusion hx

/-- **The number can be written with some places after the point**: it is finite, and so is its
multiple by the power of ten. -/
def Writable (places : Nat) (x : Float) : Prop :=
  x.isFinite = true ∧ |exactValue x| * 10 ^ places < overflowBound

/-- **A number stays finite when it is rounded** just if it can be written. -/
theorem isFinite_roundedAt_iff (h : places ≤ 15) :
    (roundedAt places x).isFinite = true ↔ Writable places x := by
  have hpower := isFinite_powerOfTen h
  have hvalue := exactValue_powerOfTen h
  have hone : 1 ≤ |exactValue (powerOfTen places)| := by
    rw [hvalue, abs_of_pos (by positivity)]
    exact one_le_pow₀ (by norm_num)
  have hzero := beq_zero_eq_false (one_pos.trans_le hone)
  have hscaled : (roundedAt places x).isFinite = (x * powerOfTen places).isFinite := by
    rw [← isFinite_roundFloat (x * powerOfTen places), roundedAt]
    cases hround : (roundFloat (x * powerOfTen places)).isFinite with
    | true => exact isFinite_div hround hpower hone
    | false => exact (not_isFinite_mul_div hround hpower hzero).2
  rw [hscaled, Writable]
  cases hx : x.isFinite with
  | true =>
    rw [isFinite_mul_iff hx hpower, hvalue, abs_mul, abs_of_pos (show (0 : ℚ) < 10 ^ places by
      positivity)]
    simp
  | false =>
    rw [(not_isFinite_mul_div hx hpower hzero).1]
    simp

theorem Bounded.writable {k : Nat} (hx : Bounded k x) (hk : k ≤ 900) (h : places ≤ 15) :
    Writable places x := by
  refine ⟨hx.1, ?_⟩
  have hpower : (10 : ℚ) ^ places ≤ 2 ^ 50 :=
    (pow_le_pow_right₀ (by norm_num) h).trans (by norm_num)
  calc |exactValue x| * 10 ^ places ≤ 2 ^ k * 2 ^ 50 := by
        have := hx.2
        gcongr
    _ = 2 ^ (k + 50) := (pow_add 2 k 50).symm
    _ < overflowBound := two_pow_lt_overflowBound (by omega)

/-! ## Texts -/

/-- **The text shows an infinity or `NaN`.** -/
def ShowsNonFinite (text : String) : Prop :=
  "inf".toList <:+: text.toList ∨ "NaN".toList <:+: text.toList

instance (text : String) : Decidable (ShowsNonFinite text) := by
  unfold ShowsNonFinite
  infer_instance

theorem not_showsNonFinite {text : String} (hn : 'n' ∉ text.toList) (ha : 'a' ∉ text.toList) :
    ¬ ShowsNonFinite text := by
  rintro (h | h)
  · exact hn (h.subset (by decide))
  · exact ha (h.subset (by decide))

theorem mem_fixedText_of_isFinite (hx : x.isFinite) {c : Char}
    (h : c ∈ (fixedText places x).toList) : c.isDigit = true ∨ c = '.' ∨ c = '-' := by
  obtain ⟨d, hd, -⟩ := exists_ofFloat?_of_isFinite hx
  simp only [fixedText, signedText, hd, String.toList_ofList] at h
  split at h
  · rcases List.mem_cons.mp h with h | h
    · exact .inr (.inr h)
    · exact (mem_pointed h).imp_right .inl
  · exact (mem_pointed h).imp_right .inl

/-- **The decimal of a number shows an infinity or `NaN`** just if the number cannot be written. -/
theorem showsNonFinite_decimalText_iff (h : places ≤ 15) :
    ShowsNonFinite (decimalText places x) ↔ ¬ Writable places x := by
  rw [← isFinite_roundedAt_iff h, Bool.not_eq_true]
  cases hrounded : (roundedAt places x).isFinite with
  | true =>
    have hmem : ∀ c ∈ (decimalText places x).toList, c.isDigit = true ∨ c = '.' ∨ c = '-' := by
      intro c hc
      rw [decimalText, String.toList_ofList] at hc
      exact mem_fixedText_of_isFinite hrounded (mem_withoutTrailingZeros hc)
    refine iff_of_false (not_showsNonFinite ?_ ?_) (by decide)
    · exact fun hn => absurd (hmem _ hn) (by decide)
    · exact fun ha => absurd (hmem _ ha) (by decide)
  | false =>
    refine iff_of_true ?_ rfl
    rw [decimalText, fixedText, signedText, ofFloat?_eq_none hrounded]
    simp only []
    split
    · decide
    · split <;> decide

end OneUnknown
