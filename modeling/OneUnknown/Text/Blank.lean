/-!
# Blanks and lines

A property of characters is given as a list of inclusive ranges of code points. A blank is a
character of the Unicode property `White_Space`. Blanks around a text are dropped before it is
looked at, and between the tokens of an equation they mean nothing.

* `CodeRange`, **`CodeRange.covers`**: a character lies in one of the ranges of a table;
* `blanks`, **`isBlank`**: the property;
* `trimEnd`, **`trim`**: a text without the blanks around it;
* `cut?`: the two sides of the first separator;
* **`lines`**: a text as lines, which end at a line feed.
-/

namespace OneUnknown

/-! ## Ranges of code points -/

/-- An inclusive range of code points: its least and its greatest member. -/
abbrev CodeRange := Nat × Nat

namespace CodeRange

/-- The code point lies in the range. -/
def contains (range : CodeRange) (code : Nat) : Bool :=
  range.1 ≤ code && code ≤ range.2

/-- **The character lies in one of the ranges.** -/
def covers (table : List CodeRange) (c : Char) : Bool :=
  table.any fun range => range.contains c.toNat

theorem covers_eq_true_iff (table : List CodeRange) (c : Char) :
    covers table c = true ↔ ∃ range ∈ table, range.1 ≤ c.toNat ∧ c.toNat ≤ range.2 := by
  simp [covers, contains]

end CodeRange

/-! ## The property -/

/-- The code points with property `White_Space`, as ascending inclusive ranges. -/
def blanks : List CodeRange := [
  (0x0009, 0x000D), (0x0020, 0x0020), (0x0085, 0x0085), (0x00A0, 0x00A0), (0x1680, 0x1680),
  (0x2000, 0x200A), (0x2028, 0x2029), (0x202F, 0x202F), (0x205F, 0x205F), (0x3000, 0x3000)]

/-- **The character is blank.** -/
def isBlank (c : Char) : Bool := CodeRange.covers blanks c

/-! ## Trimming -/

/-- The text without the blanks at its end. -/
def trimEnd (text : List Char) : List Char :=
  (text.reverse.dropWhile isBlank).reverse

/-- **The text without the blanks around it.** -/
def trim (text : List Char) : List Char := trimEnd (text.dropWhile isBlank)

/-- Trimming for strings. -/
def trimString (text : String) : String := String.ofList (trim text.toList)

@[simp] theorem trim_nil : trim [] = [] := rfl

theorem trimEnd_append (text : List Char) :
    trimEnd text ++ (text.reverse.takeWhile isBlank).reverse = text := by
  rw [trimEnd, ← List.reverse_append, List.takeWhile_append_dropWhile, List.reverse_reverse]

/-! ## Cutting -/

/-- What stands before and after the first character with property `p`. -/
def cut? (p : Char → Bool) : List Char → Option (List Char × List Char)
  | [] => none
  | c :: rest =>
    if p c then some ([], rest)
    else (cut? p rest).map fun (before, after) => (c :: before, after)

theorem eq_append_of_cut? {p : Char → Bool} {text before after : List Char}
    (h : cut? p text = some (before, after)) :
    ∃ c, p c = true ∧ text = before ++ c :: after ∧ ∀ d ∈ before, p d = false := by
  induction text generalizing before after with
  | nil => simp [cut?] at h
  | cons c rest ih =>
    by_cases hc : p c = true
    · simp [cut?, hc] at h
      obtain ⟨rfl, rfl⟩ := h
      exact ⟨c, hc, rfl, by simp⟩
    · simp only [cut?, hc, Bool.false_eq_true, ↓reduceIte, Option.map_eq_some_iff, Prod.exists,
        Prod.mk.injEq] at h
      obtain ⟨before', after', hrest, rfl, rfl⟩ := h
      obtain ⟨d, hd, rfl, hall⟩ := ih hrest
      exact ⟨d, hd, rfl, by simpa [hc] using hall⟩

/-! ## Lines -/

/-- **The lines of a text.** A line feed ends a line, and no line follows the last line feed. A
carriage return before it stays on the line, where it is a blank at the end. -/
def lines : List Char → List (List Char)
  | [] => []
  | c :: rest =>
    if c = '\n' then [] :: lines rest
    else match lines rest with
      | [] => [[c]]
      | line :: others => (c :: line) :: others

theorem newline_not_mem_of_mem_lines {text line : List Char} (h : line ∈ lines text) :
    '\n' ∉ line := by
  induction text generalizing line with
  | nil => simp [lines] at h
  | cons c rest ih =>
    by_cases hc : c = '\n'
    · simp only [lines, hc, ↓reduceIte, List.mem_cons] at h
      rcases h with rfl | h
      · simp
      · exact ih h
    · have hc' : ¬ '\n' = c := fun e => hc e.symm
      simp only [lines, hc, ↓reduceIte] at h
      split at h
      · simp_all
      · rename_i first others heq
        rcases List.mem_cons.mp h with rfl | h
        · simpa [hc'] using ih (by rw [heq]; exact List.mem_cons_self)
        · exact ih (by rw [heq]; exact List.mem_cons_of_mem _ h)

end OneUnknown
