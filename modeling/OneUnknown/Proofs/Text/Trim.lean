import Mathlib.Data.List.DropRight
import Mathlib.Data.List.Induction
import OneUnknown.Text.Blank

/-!
# Texts without blanks around them

* **`IsTrimmed`**: a text neither begins nor ends with a blank;
* **`isTrimmed_trim`**, `IsTrimmed.trim_eq`: that is what trimming makes of a text, and what it
  leaves as it is;
* `exists_trim_eq`: trimming takes nothing but blanks away;
* `trim_cons_of_isBlank`, `trim_blank_append`, `trim_append_blank`: blanks around a text make no
  difference;
* `rdropWhile_append_cons`: the end of a text is dropped up to a character that stays.
-/

namespace OneUnknown

variable {text : List Char} {c : Char}

/-! ## Trimmed texts -/

/-- **The text neither begins nor ends with a blank.** -/
structure IsTrimmed (text : List Char) : Prop where
  head : ∀ c, text.head? = some c → isBlank c = false
  last : ∀ c, text.getLast? = some c → isBlank c = false

theorem head?_trimEnd (text : List Char) (h : ∀ c, text.head? = some c → isBlank c = false) :
    (trimEnd text).head? = text.head? := by
  cases text with
  | nil => rfl
  | cons c rest =>
    have hne : trimEnd (c :: rest) ≠ [] := by
      intro hnil
      have hall := List.rdropWhile_eq_nil_iff.mp hnil c List.mem_cons_self
      rw [h c rfl] at hall
      exact Bool.noConfusion hall
    have happend := trimEnd_append (c :: rest)
    rw [← happend, List.head?_append_of_ne_nil _ hne, happend]

theorem isTrimmed_trim (text : List Char) : IsTrimmed (trim text) where
  head c hc := by
    have hhead : ∀ d, (text.dropWhile isBlank).head? = some d → isBlank d = false := by
      intro d hd
      simpa [hd] using List.head?_dropWhile_not isBlank text
    rw [trim, head?_trimEnd _ hhead] at hc
    exact hhead c hc
  last c hc := by
    obtain ⟨hne, rfl⟩ := List.mem_getLast?_eq_getLast hc
    exact Bool.not_eq_true _ ▸ List.rdropWhile_last_not isBlank (text.dropWhile isBlank) hne

theorem IsTrimmed.trim_eq (h : IsTrimmed text) : trim text = text := by
  have hfront : text.dropWhile isBlank = text := by
    cases text with
    | nil => rfl
    | cons c rest => rw [List.dropWhile_cons_of_neg (by rw [h.head c rfl]; decide)]
  rw [trim, hfront]
  refine (List.rdropWhile_eq_self_iff (p := isBlank) (l := text)).mpr fun hne => ?_
  rw [h.last _ (List.getLast?_eq_some_getLast hne)]
  decide

@[simp] theorem trim_trim (text : List Char) : trim (trim text) = trim text :=
  (isTrimmed_trim text).trim_eq

/-! ## What trimming leaves out -/

/-- **Trimming takes nothing but blanks away.** -/
theorem exists_trim_eq (text : List Char) : ∃ front back, text = front ++ trim text ++ back ∧
    (∀ c ∈ front, isBlank c = true) ∧ ∀ c ∈ back, isBlank c = true := by
  refine ⟨text.takeWhile isBlank, ((text.dropWhile isBlank).reverse.takeWhile isBlank).reverse, ?_,
    fun c hc => List.mem_takeWhile_imp hc,
    fun c hc => List.mem_takeWhile_imp (List.mem_reverse.mp hc)⟩
  rw [trim, List.append_assoc, trimEnd_append, List.takeWhile_append_dropWhile]

theorem trim_cons_of_isBlank (hc : isBlank c = true) (text : List Char) :
    trim (c :: text) = trim text := by
  rw [trim, trim, List.dropWhile_cons_of_pos hc]

theorem trim_blank_append {front : List Char} (hfront : ∀ c ∈ front, isBlank c = true)
    (text : List Char) : trim (front ++ text) = trim text := by
  rw [trim, trim, List.dropWhile_append_of_pos hfront]

theorem trim_append_blank {back : List Char} (hback : ∀ c ∈ back, isBlank c = true)
    (text : List Char) : trim (text ++ back) = trim text := by
  rw [trim, trim, List.dropWhile_append]
  split
  case isTrue hall =>
    rw [List.isEmpty_iff.mp hall, List.dropWhile_eq_nil_iff.mpr hback]
  case isFalse =>
    have hreverse : ∀ c ∈ back.reverse, isBlank c = true := fun c hc =>
      hback c (List.mem_reverse.mp hc)
    rw [trimEnd, trimEnd, List.reverse_append, List.dropWhile_append_of_pos hreverse]

theorem trim_trimEnd (text : List Char) : trim (trimEnd text) = trim text := by
  have hblank : ∀ c ∈ (text.reverse.takeWhile isBlank).reverse, isBlank c = true := fun c hc =>
    List.mem_takeWhile_imp (List.mem_reverse.mp hc)
  rw [← trim_append_blank hblank, trimEnd_append]

/-! ## Ends of texts -/

/-- The end of a text is dropped up to a character that stays. -/
theorem rdropWhile_append_cons {p : Char → Bool} (hc : ¬ p c) (front rest : List Char) :
    (front ++ c :: rest).rdropWhile p = front ++ c :: rest.rdropWhile p := by
  induction rest using List.reverseRecOn with
  | nil => exact List.rdropWhile_concat_neg p front c hc
  | append_singleton rest d ih =>
    rw [← List.cons_append, ← List.append_assoc]
    by_cases hd : p d
    · rw [List.rdropWhile_concat_pos p _ d hd, List.rdropWhile_concat_pos p _ d hd, ih]
    · rw [List.rdropWhile_concat_neg p _ d hd, List.rdropWhile_concat_neg p _ d hd,
        List.append_assoc, List.cons_append]

end OneUnknown
