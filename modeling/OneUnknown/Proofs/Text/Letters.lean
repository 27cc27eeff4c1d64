import OneUnknown.Proofs.Text.Kept
import OneUnknown.Proofs.Token.Language
import OneUnknown.Text.Alphabetic

/-!
# Letters and alphabetic characters

Two properties make a letter. A linear equation is refused if its text has no alphabetic character,
while the scanner takes the start of an identifier for the unknown. The tables of both properties
are compared here with each other, with the other characters that a token may have, and with the
rows by which characters are taken apart.

* `CodeRange.holds`, `CodeRange.Apart`, `CodeRange.Within`: membership of a code point, and tables
  compared range by range;
* `RangeTree`: a table in which ranges are found fast;
* `unlettered`: characters that are not alphabetic; `IsPlain`: those that tokens other than letters
  have;
* `AlphabeticTables`: what is checked of the tables;
* **`isKept_alphabetics`**: a character is alphabetic just if some part of it is;
* **`any_isAlphabetic_composed`**: so is a text, just if its composed form is;
* **`IsForeign`**: tables of characters that no text of tokens has;
* **`isAlphabetic_or_of_isIdentifierStart`**, **`isIdentifierStart_of_isAlphabetic`**: in a text of
  tokens the two properties differ in two characters.
-/

namespace OneUnknown

/-! ## Ranges -/

namespace CodeRange

variable {table other : List CodeRange} {code : Nat}

/-- The code point lies in one of the ranges. -/
def holds (table : List CodeRange) (code : Nat) : Bool :=
  table.any fun range => Nat.ble range.1 code && Nat.ble code range.2

theorem holds_eq_true_iff : holds table code = true ↔
    ∃ range ∈ table, range.1 ≤ code ∧ code ≤ range.2 := by
  simp [holds]

theorem covers_eq_holds (table : List CodeRange) (c : Char) :
    covers table c = holds table c.toNat := by
  rw [Bool.eq_iff_iff, covers_eq_true_iff, holds_eq_true_iff]

/-- **No code point lies in both tables.** -/
def Apart (table other : List CodeRange) : Prop :=
  ∀ range ∈ table, ∀ range' ∈ other, range.2 < range'.1 ∨ range'.2 < range.1

instance (table other : List CodeRange) : Decidable (Apart table other) :=
  decidable_of_iff
    (table.all fun range => other.all fun range' =>
      Nat.blt range.2 range'.1 || Nat.blt range'.2 range.1)
    (by simp [Apart])

theorem Apart.holds_eq_false (h : Apart table other) (hc : holds table code = true) :
    holds other code = false := by
  by_contra hother
  rw [Bool.not_eq_false] at hother
  obtain ⟨range, hrange, hlow, hhigh⟩ := holds_eq_true_iff.mp hc
  obtain ⟨range', hrange', hlow', hhigh'⟩ := holds_eq_true_iff.mp hother
  rcases h range hrange range' hrange' with h | h <;> omega

/-- **Every range of a table lies in one of another.** -/
def Within (table other : List CodeRange) : Prop :=
  ∀ range ∈ table, ∃ range' ∈ other, range'.1 ≤ range.1 ∧ range.2 ≤ range'.2

instance (table other : List CodeRange) : Decidable (Within table other) := by
  unfold Within
  infer_instance

theorem Within.holds (h : Within table other) (hc : CodeRange.holds table code = true) :
    CodeRange.holds other code = true := by
  obtain ⟨range, hrange, hlow, hhigh⟩ := holds_eq_true_iff.mp hc
  obtain ⟨range', hrange', hlow', hhigh'⟩ := h range hrange
  exact holds_eq_true_iff.mpr ⟨range', hrange', by omega, by omega⟩

/-- All ranges are those of characters other than the zeroth. -/
def IsProper (table : List CodeRange) : Prop :=
  ∀ range ∈ table, 0 < range.1 ∧ (range.2 < 0xD800 ∨ 0xDFFF < range.1 ∧ range.2 < 0x110000)

instance (table : List CodeRange) : Decidable (IsProper table) := by
  unfold IsProper
  infer_instance

/-- A code point of no character stands for the zeroth one, which lies in no proper table. -/
theorem holds_ofNat (h : IsProper table) (code : Nat) :
    holds table (Char.ofNat code).toNat = holds table code := by
  by_cases hvalid : code.isValidChar
  · have hcode : (Char.ofNat code).toNat = code := by
      rw [Char.ofNat, dif_pos hvalid]
      rfl
    rw [hcode]
  · have hzero : (Char.ofNat code).toNat = 0 := by
      rw [Char.ofNat, dif_neg hvalid]
      rfl
    have hnone : ∀ n, n = 0 ∨ ¬ n.isValidChar → holds table n = false := by
      intro n hn
      by_contra hholds
      rw [Bool.not_eq_false] at hholds
      obtain ⟨range, hrange, hlow, hhigh⟩ := holds_eq_true_iff.mp hholds
      have := h range hrange
      unfold Nat.isValidChar at hn
      omega
    rw [hzero, hnone 0 (.inl rfl), hnone code (.inr hvalid)]

end CodeRange

/-! ## Trees of ranges -/

/-- **Ranges in a tree**, in which one is found in a few steps. -/
inductive RangeTree where
  | leaf
  | node (left : RangeTree) (range : CodeRange) (right : RangeTree)

namespace RangeTree

/-- The tree of a given depth that the ranges at the head of a table fill, and the others. -/
def grow : Nat → List CodeRange → RangeTree × List CodeRange
  | 0, table => (leaf, table)
  | depth + 1, table =>
    match grow depth table with
    | (left, []) => (left, [])
    | (left, range :: rest) =>
      match grow depth rest with
      | (right, rest) => (node left range right, rest)

/-- All code points of the range lie in one of the ranges of the tree. -/
def finds : RangeTree → CodeRange → Bool
  | leaf, _ => false
  | node left range right, wanted =>
    bif Nat.blt wanted.2 range.1 then left.finds wanted
    else bif Nat.blt range.2 wanted.1 then right.finds wanted
    else Nat.ble range.1 wanted.1 && Nat.ble wanted.2 range.2

/-- The ranges of a tree. -/
def ranges : RangeTree → List CodeRange
  | leaf => []
  | node left range right => left.ranges ++ range :: right.ranges

theorem ranges_grow (depth : Nat) (table : List CodeRange) :
    (grow depth table).1.ranges ++ (grow depth table).2 = table := by
  induction depth generalizing table with
  | zero => rfl
  | succ depth ih =>
    have hleft := ih table
    rw [grow]
    rcases hgrow : grow depth table with ⟨left, _ | ⟨range, rest⟩⟩
    · rwa [hgrow] at hleft
    · have hright := ih rest
      rw [hgrow] at hleft
      simp only [ranges, List.append_assoc, List.cons_append, hright]
      exact hleft

theorem exists_of_finds {tree : RangeTree} {wanted : CodeRange} (h : tree.finds wanted = true) :
    ∃ range ∈ tree.ranges, range.1 ≤ wanted.1 ∧ wanted.2 ≤ range.2 := by
  induction tree with
  | leaf => simp [finds] at h
  | node left range right ihl ihr =>
    rw [finds, Bool.cond_eq_ite, Bool.cond_eq_ite] at h
    split at h
    · obtain ⟨range', hmem, hin⟩ := ihl h
      exact ⟨range', by simp [ranges, hmem], hin⟩
    · split at h
      · obtain ⟨range', hmem, hin⟩ := ihr h
        exact ⟨range', by simp [ranges, hmem], hin⟩
      · exact ⟨range, by simp [ranges], by simpa using h⟩

end RangeTree

open CodeRange (holds holds_eq_true_iff Apart Within IsProper)

/-! ## Alphabetic characters -/

/-- The alphabetic ranges as a tree. -/
def alphabeticTree : RangeTree := (RangeTree.grow 10 alphabetics).1

theorem isAlphabetic_eq (c : Char) : isAlphabetic c = holds alphabetics c.toNat :=
  CodeRange.covers_eq_holds alphabetics c

theorem isIdentifierStart_eq (c : Char) :
    isIdentifierStart c = holds identifierStarts c.toNat :=
  CodeRange.covers_eq_holds identifierStarts c

theorem holds_of_alphabeticTree_finds {range : CodeRange} {code : Nat}
    (h : alphabeticTree.finds range = true) (hlow : range.1 ≤ code) (hhigh : code ≤ range.2) :
    holds alphabetics code = true := by
  obtain ⟨range', hmem, hlow', hhigh'⟩ := RangeTree.exists_of_finds h
  refine holds_eq_true_iff.mpr ⟨range', ?_, by omega, by omega⟩
  rw [← RangeTree.ranges_grow 10 alphabetics]
  exact List.mem_append_left _ hmem

/-- Characters that are not alphabetic: blanks, signs, digits, and marks and signs that other
characters stand for. -/
def unlettered : List CodeRange := [
  (0x0000, 0x0040), (0x005B, 0x0060), (0x007B, 0x00A9), (0x00AB, 0x00B4), (0x00B6, 0x00B9),
  (0x00D7, 0x00D7), (0x00F7, 0x00F7), (0x02EF, 0x0344), (0x037E, 0x037E), (0x0380, 0x0385),
  (0x0387, 0x0387), (0x1680, 0x1680), (0x1FBF, 0x1FC1), (0x1FCD, 0x1FCF), (0x1FDC, 0x1FDF),
  (0x1FED, 0x1FF1), (0x1FFD, 0x2070), (0x2072, 0x207E), (0x2118, 0x2118), (0x212E, 0x212E),
  (0x2189, 0x24B5), (0x24EA, 0x2BFF), (0x2E30, 0x3004), (0x3008, 0x3020), (0x1BC9F, 0x1D3FF)]

/-- Syllables and their letters, and the symbols next to the Weierstrass sign and the estimated
sign. -/
def alphabeticBlocks : List CodeRange := [
  (0x1100, 0x1112), (0x1161, 0x11C2), (0xAC00, 0xD7A3), (0x2119, 0x211D), (0x212A, 0x212D),
  (0x212F, 0x2139)]

/-- The tables decide that a code point and some part of it are alphabetic, or that none of them
is. -/
def decided (whole : Nat) (parts : List Nat) : Bool :=
  let finds (code : Nat) := alphabeticTree.finds (code, code)
  finds whole && parts.any finds ||
    holds unlettered whole && parts.all (holds unlettered)

/-- **What the tables say**, row by row. -/
structure AlphabeticTables : Prop where
  apart : Apart unlettered alphabetics
  proper : IsProper alphabetics
  blocks : Within alphabeticBlocks alphabetics
  rows : ∀ row ∈ partings, decided row.1 row.2 = true
  starts : ∀ range ∈ identifierStarts, alphabeticTree.finds range = true ∨
    range = (0x2118, 0x211D) ∨ range = (0x212A, 0x2139)

theorem alphabeticTables : AlphabeticTables where
  apart := by decide +kernel
  proper := by decide +kernel
  blocks := by decide +kernel
  rows := by decide +kernel
  starts := by decide +kernel

theorem apart_unlettered : Apart unlettered alphabetics := AlphabeticTables.apart alphabeticTables

theorem within_alphabetics : Within alphabeticBlocks alphabetics :=
  AlphabeticTables.blocks alphabeticTables

theorem holds_eq_any_of_decided {whole : Nat} {parts : List Nat} (h : decided whole parts = true) :
    holds alphabetics whole = parts.any (holds alphabetics) := by
  rcases Bool.or_eq_true_iff.mp h with h | h
  · obtain ⟨hwhole, hparts⟩ := Bool.and_eq_true_iff.mp h
    obtain ⟨part, hpart, hfinds⟩ := List.any_eq_true.mp hparts
    rw [holds_of_alphabeticTree_finds hwhole (Nat.le_refl _) (Nat.le_refl _)]
    refine (List.any_eq_true.mpr ⟨part, hpart, ?_⟩).symm
    exact holds_of_alphabeticTree_finds hfinds (Nat.le_refl _) (Nat.le_refl _)
  · obtain ⟨hwhole, hparts⟩ := Bool.and_eq_true_iff.mp h
    rw [apart_unlettered.holds_eq_false hwhole]
    refine (List.any_eq_false.mpr fun part hpart => ?_).symm
    simpa using apart_unlettered.holds_eq_false (List.all_eq_true.mp hparts part hpart)

theorem total_or (f : Nat → Bool) (codes : List Nat) : total or false f codes = codes.any f := by
  induction codes with
  | nil => rfl
  | cons code codes ih => rw [total_cons, ih, List.any_cons]

/-- **A character is alphabetic just if some part of it is.** -/
theorem isKept_alphabetics : IsKept or false (holds alphabetics) where
  parted row hrow := by
    rw [total_or]
    exact holds_eq_any_of_decided (AlphabeticTables.rows alphabeticTables row hrow)
  hangul := by
    refine ⟨true, rfl, fun code h => within_alphabetics.holds (holds_eq_true_iff.mpr ?_)⟩
    rcases h with h | h | h
    · exact ⟨(0x1100, 0x1112), by decide, h⟩
    · exact ⟨(0x1161, 0x11C2), by decide, h⟩
    · exact ⟨(0xAC00, 0xD7A3), by decide, h⟩
  ofNat := CodeRange.holds_ofNat (AlphabeticTables.proper alphabeticTables)

/-- **A text has an alphabetic character just if its composed form has one.** -/
theorem any_isAlphabetic_composed (text : List Char) :
    (composed text).any isAlphabetic = text.any isAlphabetic := by
  have h := isKept_alphabetics.total_composed text
  rw [total_or, total_or, List.any_map, List.any_map] at h
  rwa [show isAlphabetic = holds alphabetics ∘ Char.toNat from funext isAlphabetic_eq]

/-! ## Letters -/

theorem eq_of_toNat_eq {c d : Char} (h : c.toNat = d.toNat) : c = d :=
  Char.ext (UInt32.toNat_inj.mp h)

/-- **A letter is alphabetic**, but for the Weierstrass sign and the estimated sign. -/
theorem isAlphabetic_or_of_isIdentifierStart {c : Char} (h : isIdentifierStart c = true) :
    isAlphabetic c = true ∨ c = '℘' ∨ c = '℮' := by
  have hblock : ∀ range ∈ alphabeticBlocks, range.1 ≤ c.toNat → c.toNat ≤ range.2 →
      holds alphabetics c.toNat = true := fun range hmem hlow hhigh =>
    within_alphabetics.holds (holds_eq_true_iff.mpr ⟨range, hmem, hlow, hhigh⟩)
  rw [isAlphabetic_eq]
  obtain ⟨range, hrange, hlow, hhigh⟩ := (CodeRange.covers_eq_true_iff _ _).mp h
  rcases AlphabeticTables.starts alphabeticTables range hrange with hfinds | rfl | rfl
  · exact .inl (holds_of_alphabeticTree_finds hfinds hlow hhigh)
  · by_cases hc : c.toNat = 0x2118
    · exact .inr (.inl (eq_of_toNat_eq hc))
    · exact .inl (hblock (0x2119, 0x211D) (by decide) (by omega) hhigh)
  · by_cases hc : c.toNat = 0x212E
    · exact .inr (.inr (eq_of_toNat_eq hc))
    · by_cases hlt : c.toNat < 0x212E
      · exact .inl (hblock (0x212A, 0x212D) (by decide) hlow (by omega))
      · exact .inl (hblock (0x212F, 0x2139) (by decide) (by omega) hhigh)

/-! ## Characters of other classes -/

/-- The character is blank, a sign, a digit, a point or a superscript digit. -/
def IsPlain (c : Char) : Prop :=
  isBlank c = true ∨ symbol? c ≠ none ∨ isLiteralChar c = true ∨ isSuperscript c = true

/-- The ranges of these characters. -/
def plainRanges : List CodeRange := [
  (0x0009, 0x0020), (0x0028, 0x0039), (0x003D, 0x003D), (0x005E, 0x005E), (0x0085, 0x0085),
  (0x00A0, 0x00A0), (0x00B2, 0x00B3), (0x00B7, 0x00B7), (0x00B9, 0x00B9), (0x00D7, 0x00D7),
  (0x00F7, 0x00F7), (0x1680, 0x1680), (0x2000, 0x2070), (0x2074, 0x2079), (0x2212, 0x2212),
  (0x3000, 0x3000)]

theorem IsPlain.holds_plainRanges {c : Char} (h : IsPlain c) :
    holds plainRanges c.toNat = true := by
  rcases h with hblank | hsymbol | hliteral | hsuperscript
  · exact Within.holds (by decide) ((CodeRange.covers_eq_holds _ c).symm.trans hblank)
  · unfold symbol? at hsymbol
    split at hsymbol <;> first | decide | simp at hsymbol
  · rcases Bool.or_eq_true_iff.mp hliteral with hdigit | hpoint
    · obtain ⟨d, hd, rfl⟩ := exists_digitChar hdigit
      match d, hd with
      | 0, _ | 1, _ | 2, _ | 3, _ | 4, _ | 5, _ | 6, _ | 7, _ | 8, _ | 9, _ => decide
    · rw [beq_iff_eq.mp hpoint]
      decide
  · unfold isSuperscript superscriptDigit? at hsuperscript
    split at hsuperscript <;> first | decide | simp at hsuperscript

theorem isLexical_iff {c : Char} :
    isLexical c = true ↔ IsPlain c ∨ isIdentifierStart c = true := by
  simp [isLexical, IsPlain, Option.isSome_iff_ne_none, or_assoc]

theorem isAlphabetic_eq_false {c : Char} (h : holds unlettered c.toNat = true) :
    isAlphabetic c = false :=
  (isAlphabetic_eq c).trans (apart_unlettered.holds_eq_false h)

theorem IsPlain.isAlphabetic_eq_false {c : Char} (h : IsPlain c) : isAlphabetic c = false :=
  OneUnknown.isAlphabetic_eq_false (Within.holds (by decide) h.holds_plainRanges)

/-! ## Characters of no token -/

/-- **No token has a character of the table**, nor any that stands for one. -/
structure IsForeign (table : List CodeRange) : Prop where
  kept : IsKept or false (holds table)
  apart : Apart (plainRanges ++ identifierStarts) table

namespace IsForeign

variable {table : List CodeRange} {text : List Char} {c : Char}

theorem holds_eq_false_of_isLexical (h : IsForeign table) (hc : isLexical c = true) :
    holds table c.toNat = false := by
  refine h.apart.holds_eq_false ?_
  rw [holds, List.any_append, Bool.or_eq_true]
  rcases isLexical_iff.mp hc with hplain | hletter
  · exact .inl hplain.holds_plainRanges
  · exact .inr ((isIdentifierStart_eq c).symm.trans hletter)

/-- **A text of tokens has no such character**, also before it is composed. -/
theorem any_eq_false (h : IsForeign table) (htext : ∀ c ∈ composed text, isLexical c = true) :
    text.any (holds table ∘ Char.toNat) = false := by
  have hcomposed : (composed text).any (holds table ∘ Char.toNat) = false :=
    List.any_eq_false.mpr fun c hc => by simp [h.holds_eq_false_of_isLexical (htext c hc)]
  have hkept := h.kept.total_composed text
  rw [total_or, total_or, List.any_map, List.any_map, hcomposed] at hkept
  exact hkept.symm

end IsForeign

/-! ## Letters of tokens -/

/-- **An alphabetic character of a token is a letter.** -/
theorem isIdentifierStart_of_isAlphabetic {c : Char} (h : isAlphabetic c = true)
    (hlexical : isLexical c = true) : isIdentifierStart c = true := by
  rcases isLexical_iff.mp hlexical with hplain | hletter
  · rw [hplain.isAlphabetic_eq_false] at h
    exact Bool.noConfusion h
  · exact hletter

/-- **Letters belong to no other class.** -/
theorem not_isPlain_of_isIdentifierStart {c : Char} (h : isIdentifierStart c = true) :
    ¬ IsPlain c := by
  intro hplain
  rcases isAlphabetic_or_of_isIdentifierStart h with hc | rfl | rfl
  · rw [hplain.isAlphabetic_eq_false] at hc
    exact Bool.noConfusion hc
  · exact absurd hplain.holds_plainRanges (by decide)
  · exact absurd hplain.holds_plainRanges (by decide)

end OneUnknown
