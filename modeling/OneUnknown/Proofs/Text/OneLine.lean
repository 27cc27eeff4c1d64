import OneUnknown.Proofs.Number.Numeral
import OneUnknown.Proofs.Text.Trim

/-!
# Texts on one line

A text stands on one line if it has no line feed. Texts that are put together from such ones are
such themselves, and lines that are each closed by a line feed can be told apart again.

* **`IsOneLine`**: a text without a line feed;
* `isOneLine_append`, `isOneLine_intercalate`: texts made from others;
* `exists_lines_append`: the lines of two texts with a line feed between;
* **`splitOn_join_lines`**: lines that have been written one after another.
-/

namespace OneUnknown

variable {text first second : String}

/-! ## The property -/

/-- **The text has no line feed.** -/
def IsOneLine (text : String) : Prop := '\n' ∉ text.toList

instance (text : String) : Decidable (IsOneLine text) := by
  unfold IsOneLine
  infer_instance

@[simp] theorem isOneLine_append : IsOneLine (first ++ second) ↔
    IsOneLine first ∧ IsOneLine second := by
  simp [IsOneLine, String.toList_append]

theorem isOneLine_ofList {text : List Char} : IsOneLine (String.ofList text) ↔ '\n' ∉ text := by
  rw [IsOneLine, String.toList_ofList]

theorem isOneLine_toString {c : Char} : IsOneLine c.toString ↔ c ≠ '\n' := by
  simp [IsOneLine, eq_comm]

theorem isOneLine_natText (n : Nat) : IsOneLine (natText n) := by
  rw [IsOneLine, toList_natText]
  exact not_mem_digits (by decide)

theorem isOneLine_intercalate {separator : String} {texts : List String}
    (hseparator : IsOneLine separator) (htexts : ∀ t ∈ texts, IsOneLine t) :
    IsOneLine (separator.intercalate texts) := by
  induction texts with
  | nil => exact List.not_mem_nil
  | cons t texts ih =>
    obtain ⟨ht, htexts⟩ := List.forall_mem_cons.mp htexts
    rcases texts with _ | ⟨u, texts⟩
    · simpa using ht
    · rw [String.intercalate_cons_cons, isOneLine_append, isOneLine_append]
      exact ⟨⟨ht, hseparator⟩, ih htexts⟩

theorem mem_of_mem_trim {text : List Char} {c : Char} (h : c ∈ trim text) : c ∈ text := by
  obtain ⟨front, back, heq, -⟩ := exists_trim_eq text
  rw [heq]
  exact List.mem_append_left back (List.mem_append_right front h)

/-! ## Lines -/

/-- **The lines of two texts with a line feed between** are those of the one and those of the other,
apart from an empty line if the first text ends with a line feed of its own or is empty. -/
theorem exists_lines_append (first second : List Char) : ∃ gap, (gap = [] ∨ gap = [[]]) ∧
    lines (first ++ '\n' :: second) = lines first ++ gap ++ lines second := by
  induction first with
  | nil => exact ⟨[[]], .inr rfl, rfl⟩
  | cons c first ih =>
    obtain ⟨gap, hgap, hlines⟩ := ih
    by_cases hc : c = '\n'
    · exact ⟨gap, hgap, by simp [lines, hc, hlines]⟩
    · rcases hfirst : lines first with _ | ⟨line, others⟩
      · -- The line that `c` begins is closed by the line feed between.
        have hnil : first = [] := by
          rcases first with _ | ⟨d, first⟩
          · rfl
          · exfalso
            rw [lines] at hfirst
            split at hfirst
            · cases hfirst
            · split at hfirst <;> cases hfirst
        subst hnil
        exact ⟨[], .inl rfl, by simp [lines, hc]⟩
      · rw [hfirst] at hlines
        exact ⟨gap, hgap, by simp [lines, hc, hlines, hfirst]⟩

/-- **Lines that are each closed by a line feed** can be told apart again. -/
theorem splitOn_join_lines {texts : List String} (h : ∀ t ∈ texts, IsOneLine t) :
    (String.join (texts.map (· ++ "\n"))).toList.splitOn '\n' =
      texts.map String.toList ++ [[]] := by
  have hjoin : (String.join (texts.map (· ++ "\n"))).toList =
      ['\n'].intercalate (texts.map String.toList ++ [[]]) := by
    clear h
    induction texts with
    | nil => rfl
    | cons t texts ih =>
      have hne : texts.map String.toList ++ [[]] ≠ [] := by simp
      obtain ⟨u, later, hlater⟩ := List.exists_cons_of_ne_nil hne
      rw [List.map_cons, List.map_cons, List.cons_append, hlater, List.intercalate_cons_cons,
        ← hlater, ← ih, String.join_cons, String.toList_append, String.toList_append]
      simp
  rw [hjoin]
  refine List.splitOn_intercalate '\n' (fun l hl => ?_) (by simp)
  rcases List.mem_append.mp hl with hl | hl
  · obtain ⟨t, ht, rfl⟩ := List.mem_map.mp hl
    exact h t ht
  · rw [List.mem_singleton.mp hl]
    exact List.not_mem_nil

end OneUnknown
