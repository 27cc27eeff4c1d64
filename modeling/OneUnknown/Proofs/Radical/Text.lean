import OneUnknown.Proofs.Number.Numeral
import OneUnknown.Radical

/-!
# The text of a radical determines it

The text of a reduced radical can be read back from the left. A parenthesis stands before it if a
root is divided, a root sign separates the radicand from what stands before it, and blanks separate
the constant from the root. None of these characters occurs in a numeral.

* `eq_and_eq_of_append_cons`: a list is cut at the first separator in one way;
* `mem_text`: the characters of a text;
* `eq_of_beforeRoot_eq`, `eq_of_numerator_eq`: the parts of a text;
* **`IsReduced.eq_of_text_eq`**, `Reduced.eq_of_text_eq`: a reduced radical is determined by its
  text.
-/

namespace OneUnknown

theorem eq_and_eq_of_append_cons {α : Type} {separator : α} {x y z w : List α}
    (hx : separator ∉ x) (hy : separator ∉ y) (h : x ++ separator :: z = y ++ separator :: w) :
    x = y ∧ z = w := by
  induction x generalizing y with
  | nil =>
    cases y with
    | nil => exact ⟨rfl, (List.cons.inj h).2⟩
    | cons b y => exact absurd ((List.cons.inj h).1 ▸ List.mem_cons_self) hy
  | cons a x ih =>
    cases y with
    | nil => exact absurd ((List.cons.inj h).1 ▸ List.mem_cons_self) hx
    | cons b y =>
      obtain ⟨rfl, htail⟩ := List.cons.inj h
      obtain ⟨rfl, rfl⟩ := ih (fun hm => hx (List.mem_cons_of_mem _ hm))
        (fun hm => hy (List.mem_cons_of_mem _ hm)) htail
      exact ⟨rfl, rfl⟩

theorem not_mem_intText {n : Int} {c : Char} (hc : c.isDigit = false) (hm : c ≠ '-') :
    c ∉ (intText n).toList := by
  intro h
  rcases isDigit_or_of_mem_intText h with h | h
  · rw [h] at hc
    exact Bool.noConfusion hc
  · exact hm h

namespace Radical

variable {r s : Radical}

/-! ## Texts as lists of characters -/

/-- The magnitude of the coefficient of the root, which is left out if it is one. -/
def factorDigits (r : Radical) : List Char :=
  if r.coefficient.natAbs = 1 then [] else digits r.coefficient.natAbs

theorem toList_rootText (r : Radical) :
    r.rootText.toList = r.factorDigits ++ '√' :: digits r.radicand := by
  unfold rootText factorDigits
  simp only [String.toList_append, toList_natText]
  split <;> simp [toList_natText]

/-- What stands before the root sign in a numerator. -/
def beforeRoot (r : Radical) : List Char :=
  if r.constant = 0 then (if r.coefficient < 0 then ['-'] else []) ++ r.factorDigits
  else (intText r.constant).toList ++ ' ' :: (if r.coefficient < 0 then '-' else '+') :: ' ' ::
    r.factorDigits

theorem toList_numeratorText (r : Radical) :
    r.numeratorText.toList = r.beforeRoot ++ '√' :: digits r.radicand := by
  unfold numeratorText beforeRoot
  split <;> simp only [String.toList_append, toList_rootText] <;> split <;> simp

theorem toList_text (r : Radical) : r.text.toList =
    if r.coefficient = 0 then
      if r.denominator = 1 then (intText r.constant).toList
      else (intText r.constant).toList ++ '/' :: (intText r.denominator).toList
    else if r.denominator = 1 then r.beforeRoot ++ '√' :: digits r.radicand
    else '(' :: (r.beforeRoot ++ '√' :: digits r.radicand) ++
      ')' :: '/' :: (intText r.denominator).toList := by
  unfold text
  split <;> split <;> simp [toList_numeratorText]

/-! ## Characters -/

theorem mem_factorDigits {c : Char} (h : c ∈ r.factorDigits) : c.isDigit = true := by
  unfold factorDigits at h
  split at h
  · exact absurd h List.not_mem_nil
  · exact isDigit_of_mem_digits h

theorem mem_beforeRoot {c : Char} (h : c ∈ r.beforeRoot) :
    c.isDigit = true ∨ c ∈ ['-', '+', ' '] := by
  unfold beforeRoot at h
  split at h
  · rcases List.mem_append.mp h with h | h
    · split at h <;> simp_all
    · exact Or.inl (mem_factorDigits h)
  · simp only [List.mem_append, List.mem_cons] at h
    rcases h with h | h | h | h | h
    · rcases isDigit_or_of_mem_intText h with h | h
      · exact Or.inl h
      · simp [h]
    · simp [h]
    · split at h <;> simp [h]
    · simp [h]
    · exact Or.inl (mem_factorDigits h)

theorem mem_text {c : Char} (h : c ∈ r.text.toList) :
    c.isDigit = true ∨ c ∈ ['-', '+', ' ', '√', '/', '(', ')'] := by
  have hint : ∀ n : Int, c ∈ (intText n).toList →
      c.isDigit = true ∨ c ∈ ['-', '+', ' ', '√', '/', '(', ')'] := by
    intro n hn
    rcases isDigit_or_of_mem_intText hn with h | h
    · exact Or.inl h
    · simp [h]
  have hbefore : c ∈ r.beforeRoot → c.isDigit = true ∨ c ∈ ['-', '+', ' ', '√', '/', '(', ')'] := by
    intro hc
    rcases mem_beforeRoot hc with h | h
    · exact Or.inl h
    · simp only [List.mem_cons, List.not_mem_nil, or_false] at h
      rcases h with h | h | h <;> simp [h]
  rw [toList_text] at h
  split at h <;> split at h
  · exact hint _ h
  · rcases List.mem_append.mp h with h | h
    · exact hint _ h
    · rcases List.mem_cons.mp h with h | h
      · simp [h]
      · exact hint _ h
  · rcases List.mem_append.mp h with h | h
    · exact hbefore h
    · rcases List.mem_cons.mp h with h | h
      · simp [h]
      · exact Or.inl (isDigit_of_mem_digits h)
  · simp only [List.mem_append, List.mem_cons] at h
    rcases h with (h | h | h | h) | h | h | h
    · simp [h]
    · exact hbefore h
    · simp [h]
    · exact Or.inl (isDigit_of_mem_digits h)
    · simp [h]
    · simp [h]
    · exact hint _ h

theorem not_mem_beforeRoot {c : Char} (hc : c.isDigit = false) (hn : c ∉ ['-', '+', ' ']) :
    c ∉ r.beforeRoot := by
  intro h
  rcases mem_beforeRoot h with h | h
  · rw [h] at hc
    exact Bool.noConfusion hc
  · exact hn h

/-! ## Reading back -/

theorem natAbs_eq_of_factorDigits_eq (h : r.factorDigits = s.factorDigits) :
    r.coefficient.natAbs = s.coefficient.natAbs := by
  unfold factorDigits at h
  split at h <;> split at h
  · omega
  · exact absurd h.symm (digits_ne_nil _)
  · exact absurd h (digits_ne_nil _)
  · exact digits_injective h

theorem coefficient_eq_of_signed_eq
    (h : (if r.coefficient < 0 then ['-'] else []) ++ r.factorDigits =
      (if s.coefficient < 0 then ['-'] else []) ++ s.factorDigits) :
    r.coefficient = s.coefficient := by
  have hminus : ∀ t : Radical, '-' ∉ t.factorDigits := by
    intro t ht
    exact absurd (mem_factorDigits ht) (by decide)
  by_cases hr : r.coefficient < 0 <;> by_cases hs : s.coefficient < 0
  · rw [if_pos hr, if_pos hs] at h
    have := natAbs_eq_of_factorDigits_eq (List.append_cancel_left h)
    omega
  · rw [if_pos hr, if_neg hs, List.nil_append] at h
    exact absurd (h ▸ List.mem_cons_self) (hminus s)
  · rw [if_neg hr, if_pos hs, List.nil_append] at h
    exact absurd (h ▸ List.mem_cons_self) (hminus r)
  · rw [if_neg hr, if_neg hs] at h
    have := natAbs_eq_of_factorDigits_eq h
    omega

theorem blank_mem_beforeRoot_iff : ' ' ∈ r.beforeRoot ↔ r.constant ≠ 0 := by
  have hfactor : ' ' ∉ r.factorDigits := fun h => absurd (mem_factorDigits h) (by decide)
  unfold beforeRoot
  split
  · rename_i h
    split <;> simp [h, hfactor]
  · rename_i h
    simp [h]

theorem eq_of_beforeRoot_eq (h : r.beforeRoot = s.beforeRoot) :
    r.constant = s.constant ∧ r.coefficient = s.coefficient := by
  have hiff : r.constant ≠ 0 ↔ s.constant ≠ 0 := by
    rw [← blank_mem_beforeRoot_iff, ← blank_mem_beforeRoot_iff, h]
  by_cases hr : r.constant = 0
  · have hs : s.constant = 0 := by
      by_contra hs
      exact hiff.mpr hs hr
    rw [beforeRoot, beforeRoot, if_pos hr, if_pos hs] at h
    exact ⟨hr.trans hs.symm, coefficient_eq_of_signed_eq h⟩
  · have hs := hiff.mp hr
    rw [beforeRoot, beforeRoot, if_neg hr, if_neg hs] at h
    have hblank : ∀ n : Int, ' ' ∉ (intText n).toList := fun n =>
      not_mem_intText (by decide) (by decide)
    obtain ⟨hconstant, hrest⟩ := eq_and_eq_of_append_cons (hblank _) (hblank _) h
    obtain ⟨hsign, hfactor⟩ := List.cons.inj hrest
    have habs := natAbs_eq_of_factorDigits_eq (List.cons.inj hfactor).2
    refine ⟨intText_injective (String.toList_injective hconstant), ?_⟩
    by_cases hrk : r.coefficient < 0 <;> by_cases hsk : s.coefficient < 0
    · omega
    · rw [if_pos hrk, if_neg hsk] at hsign
      exact absurd hsign (by decide)
    · rw [if_neg hrk, if_pos hsk] at hsign
      exact absurd hsign (by decide)
    · omega

theorem eq_of_numerator_eq (h : r.beforeRoot ++ '√' :: digits r.radicand =
    s.beforeRoot ++ '√' :: digits s.radicand) :
    r.constant = s.constant ∧ r.coefficient = s.coefficient ∧ r.radicand = s.radicand := by
  have hroot : ∀ t : Radical, '√' ∉ t.beforeRoot := fun t =>
    not_mem_beforeRoot (by decide) (by decide)
  obtain ⟨hbefore, hradicand⟩ := eq_and_eq_of_append_cons (hroot r) (hroot s) h
  obtain ⟨hconstant, hcoefficient⟩ := eq_of_beforeRoot_eq hbefore
  exact ⟨hconstant, hcoefficient, digits_injective hradicand⟩

theorem root_mem_text_iff : '√' ∈ r.text.toList ↔ r.coefficient ≠ 0 := by
  have hint : ∀ n : Int, '√' ∉ (intText n).toList := fun n =>
    not_mem_intText (by decide) (by decide)
  rw [toList_text]
  split <;> split <;> simp_all

theorem slash_mem_text_iff : '/' ∈ r.text.toList ↔ r.denominator ≠ 1 := by
  have hint : ∀ n : Int, '/' ∉ (intText n).toList := fun n =>
    not_mem_intText (by decide) (by decide)
  have hbefore : '/' ∉ r.beforeRoot := not_mem_beforeRoot (by decide) (by decide)
  have hdigits : ∀ n, '/' ∉ digits n := fun n => not_mem_digits (by decide)
  rw [toList_text]
  split <;> split <;> simp_all

/-- **A reduced radical is determined by its text.** -/
theorem IsReduced.eq_of_text_eq (hr : r.IsReduced) (hs : s.IsReduced) (h : r.text = s.text) :
    r = s := by
  have hroot : r.coefficient ≠ 0 ↔ s.coefficient ≠ 0 := by
    rw [← root_mem_text_iff, ← root_mem_text_iff, h]
  have hslash : r.denominator ≠ 1 ↔ s.denominator ≠ 1 := by
    rw [← slash_mem_text_iff, ← slash_mem_text_iff, h]
  have hlist := congrArg String.toList h
  rw [toList_text, toList_text] at hlist
  have hparts : r.constant = s.constant ∧ r.coefficient = s.coefficient ∧
      r.radicand = s.radicand ∧ r.denominator = s.denominator := by
    by_cases hrk : r.coefficient = 0
    · -- A fraction
      have hsk : s.coefficient = 0 := not_not.mp (mt hroot.mpr (not_not.mpr hrk))
      have hradicand : r.radicand = s.radicand := by
        rw [hr.coefficient_eq_zero_iff.mp hrk, hs.coefficient_eq_zero_iff.mp hsk]
      rw [if_pos hrk, if_pos hsk] at hlist
      by_cases hrd : r.denominator = 1
      · have hsd : s.denominator = 1 := not_not.mp (mt hslash.mpr (not_not.mpr hrd))
        rw [if_pos hrd, if_pos hsd] at hlist
        exact ⟨intText_injective (String.toList_injective hlist), hrk.trans hsk.symm, hradicand,
          hrd.trans hsd.symm⟩
      · rw [if_neg hrd, if_neg (hslash.mp hrd)] at hlist
        have hint : ∀ n : Int, '/' ∉ (intText n).toList := fun n =>
          not_mem_intText (by decide) (by decide)
        obtain ⟨hc, hd⟩ := eq_and_eq_of_append_cons (hint _) (hint _) hlist
        exact ⟨intText_injective (String.toList_injective hc), hrk.trans hsk.symm, hradicand,
          intText_injective (String.toList_injective hd)⟩
    · rw [if_neg hrk, if_neg (hroot.mp hrk)] at hlist
      by_cases hrd : r.denominator = 1
      · have hsd : s.denominator = 1 := not_not.mp (mt hslash.mpr (not_not.mpr hrd))
        rw [if_pos hrd, if_pos hsd] at hlist
        obtain ⟨hc, hk, hm⟩ := eq_of_numerator_eq hlist
        exact ⟨hc, hk, hm, hrd.trans hsd.symm⟩
      · rw [if_neg hrd, if_neg (hslash.mp hrd), List.cons_append, List.cons_append,
          List.cons.injEq] at hlist
        have hclose : ∀ t : Radical, ')' ∉ t.beforeRoot ++ '√' :: digits t.radicand := by
          intro t
          have hbefore : ')' ∉ t.beforeRoot := not_mem_beforeRoot (by decide) (by decide)
          have hdigits : ')' ∉ digits t.radicand := not_mem_digits (by decide)
          simp [hbefore, hdigits]
        obtain ⟨hnumerator, hd⟩ := eq_and_eq_of_append_cons (hclose r) (hclose s) hlist.2
        obtain ⟨hc, hk, hm⟩ := eq_of_numerator_eq hnumerator
        exact ⟨hc, hk, hm, intText_injective (String.toList_injective (List.cons.inj hd).2)⟩
  cases r
  cases s
  simp_all

theorem Reduced.eq_of_text_eq {r s : Reduced} (h : r.text = s.text) : r = s :=
  toRadical_injective (r.isReduced.eq_of_text_eq s.isReduced h)

end Radical

end OneUnknown
