import Mathlib.Algebra.Group.Nat.Defs
import Mathlib.Logic.Function.Basic
import OneUnknown.Number.Numeral

/-!
# What a numeral looks like

A numeral is a row of decimal digits that determines its number, and the text of an integer is a
numeral with a minus sign before it if the integer is negative.

* `isDigit_of_mem_digits`: there is nothing but digits in a numeral;
* **`digits_injective`**, **`intText_injective`**: a number is determined by its text;
* `length_digits_le`: a bound on the length of a numeral.
-/

namespace OneUnknown

/-! ## Natural numbers -/

theorem isDigit_digitChar {d : Nat} (h : d < 10) : (digitChar d).isDigit = true := by
  match d, h with
  | 0, _ | 1, _ | 2, _ | 3, _ | 4, _ | 5, _ | 6, _ | 7, _ | 8, _ | 9, _ => rfl

theorem isDigit_of_mem_digits {n : Nat} {c : Char} (h : c ∈ digits n) : c.isDigit = true := by
  induction n using digits.induct with
  | case1 n hn =>
    rw [digits, if_pos hn, List.mem_singleton] at h
    rw [h]
    exact isDigit_digitChar hn
  | case2 n hn ih =>
    rw [digits, if_neg hn, List.mem_append, List.mem_singleton] at h
    rcases h with h | h
    · exact ih h
    · rw [h]
      exact isDigit_digitChar (Nat.mod_lt n (by decide))

theorem not_mem_digits {n : Nat} {c : Char} (h : c.isDigit = false) : c ∉ digits n := by
  intro hc
  rw [isDigit_of_mem_digits hc] at h
  exact Bool.noConfusion h

theorem digits_injective : Function.Injective digits :=
  Function.LeftInverse.injective ofDigits_digits

theorem length_digits_le {n k : Nat} (hk : 0 < k) (h : n < 10 ^ k) : (digits n).length ≤ k := by
  induction n using digits.induct generalizing k with
  | case1 n hn =>
    rw [digits, if_pos hn]
    exact hk
  | case2 n hn ih =>
    obtain ⟨k, rfl⟩ : ∃ j, k = j + 1 := ⟨k - 1, by omega⟩
    have hlt : n / 10 < 10 ^ k := by
      rw [Nat.pow_succ] at h
      omega
    have hk' : 0 < k := by
      rcases Nat.eq_zero_or_pos k with rfl | hk'
      · rw [Nat.pow_zero] at hlt
        omega
      · exact hk'
    have := ih hk' hlt
    rw [digits, if_neg hn, List.length_append, List.length_singleton]
    omega

@[simp] theorem toList_natText (n : Nat) : (natText n).toList = digits n := String.toList_ofList

/-! ## Integers -/

theorem toList_intText (n : Int) :
    (intText n).toList = if n < 0 then '-' :: digits n.natAbs else digits n.natAbs := by
  unfold intText
  split
  · rw [String.toList_append, toList_natText]
    rfl
  · exact toList_natText _

theorem isDigit_or_of_mem_intText {n : Int} {c : Char} (h : c ∈ (intText n).toList) :
    c.isDigit = true ∨ c = '-' := by
  rw [toList_intText] at h
  split at h
  · rcases List.mem_cons.mp h with h | h
    · exact Or.inr h
    · exact Or.inl (isDigit_of_mem_digits h)
  · exact Or.inl (isDigit_of_mem_digits h)

theorem intText_injective : Function.Injective intText := by
  intro m n h
  have hlist := congrArg String.toList h
  rw [toList_intText, toList_intText] at hlist
  have hminus : ∀ k, '-' ∉ digits k := fun k => not_mem_digits rfl
  -- A minus sign stands before one of the numerals just if it stands before the other.
  by_cases hm : m < 0 <;> by_cases hn : n < 0
  · rw [if_pos hm, if_pos hn, List.cons.injEq] at hlist
    have := digits_injective hlist.2
    omega
  · rw [if_pos hm, if_neg hn] at hlist
    exact absurd (hlist ▸ List.mem_cons_self) (hminus _)
  · rw [if_neg hm, if_pos hn] at hlist
    exact absurd (hlist ▸ List.mem_cons_self) (hminus _)
  · rw [if_neg hm, if_neg hn] at hlist
    have := digits_injective hlist
    omega

end OneUnknown
