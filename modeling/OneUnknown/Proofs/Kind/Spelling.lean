import Mathlib
import OneUnknown.Kind
import OneUnknown.Proofs.Text.Trim

/-!
# How the names of kinds are spelled

A kind is named by its tag, and just as well by the tag with its letters in any case, with hyphens
and underscores anywhere and with blanks around it. No other text names a kind: although case is
disregarded for all letters there are, no letter beyond ASCII passes for one of a tag.

* `exists_mem_lowerCase`: the lower case of a character beyond ASCII;
* **`Recased`**, **`Spelling`**: a word in other letter case, and with hyphens and underscores;
  `spelling_iff`: the one by the other;
* `isBlank_of_isAlpha`, `flatMap_lowerCase_eq_iff`: letters are no blanks; names that are the same
  in lower case;
* **`EquationKind.ofName?_eq_some_iff`**: the names of a kind;
* `EquationKind.isAlpha_or_of_mem_name`: the characters in them.
-/

namespace OneUnknown

/-! ## Lower case beyond ASCII -/

/-- The lower case of a row is a row of characters beyond ASCII; only that of the Kelvin sign is
`k`. -/
theorem lower_capitals : ∀ row ∈ capitals,
    (0x80 ≤ row.lower ∧ row.lowerCode row.range.2 < 0xD800 ∨
      0xDFFF < row.lower ∧ row.lowerCode row.range.2 < 0x110000) ∨
    row.range.1 = row.range.2 ∧ row.lower = 'k'.toNat := by
  decide +kernel

variable {c d : Char} {word name : List Char}

theorem lowerCase_of_lt (h : c.toNat < 0x80) : lowerCase c = [c.toLower] := if_pos h

/-- **The lower case of a character beyond ASCII** is not made of ASCII letters other than `k`. -/
theorem exists_mem_lowerCase (hc : 0x80 ≤ c.toNat) :
    ∃ d ∈ lowerCase c, 0x80 ≤ d.toNat ∨ d = 'k' := by
  rw [lowerCase, if_neg (by omega)]
  split
  · exact ⟨'\u0307', by simp, .inl (by decide)⟩
  · split
    case h_1 row hrow =>
      refine ⟨_, List.mem_singleton_self _, ?_⟩
      have hcontains := List.find?_some hrow
      simp only [CaseRow.contains, CodeRange.contains, Bool.and_eq_true, decide_eq_true_eq,
        beq_iff_eq] at hcontains
      have hrange := lower_capitals row (List.mem_of_find?_eq_some hrow)
      unfold CaseRow.lowerCode at hrange ⊢
      rcases hrange with hrange | ⟨hone, hkelvin⟩
      · have hvalid : (row.lower + (c.toNat - row.range.1)).isValidChar := by
          unfold Nat.isValidChar
          omega
        left
        rw [Char.toNat_ofNat, if_pos hvalid]
        omega
      · right
        rw [hkelvin, show c.toNat - row.range.1 = 0 by omega]
        rfl
    case h_2 => exact ⟨c, List.mem_singleton_self c, .inl hc⟩

/-! ## Spellings -/

/-- The characters are the same but for the case of an ASCII letter. -/
def SameLetter (c d : Char) : Prop := c.toLower = d.toLower

/-- **The name is the word in another case of its ASCII letters.** -/
def Recased (word name : List Char) : Prop := word.map Char.toLower = name.map Char.toLower

instance (word name : List Char) : Decidable (Recased word name) := by
  unfold Recased
  infer_instance

/-- A name without its hyphens and underscores. -/
def bareName (name : List Char) : List Char := name.filter fun c => c ≠ '-' && c ≠ '_'

/-- **The name spells the word**: letter by letter in any case, with hyphens and underscores
anywhere. -/
inductive Spelling : List Char → List Char → Prop
  | nil : Spelling [] []
  | letter {c d : Char} {word name : List Char} (same : SameLetter c d)
      (rest : Spelling word name) : Spelling (c :: word) (d :: name)
  | joint {d : Char} {word name : List Char} (hd : d = '-' ∨ d = '_') (rest : Spelling word name) :
      Spelling word (d :: name)

theorem SameLetter.isAlpha_eq (h : SameLetter c d) : c.isAlpha = d.isAlpha := by
  rw [← Char.isAlpha_toLower_eq_isAlpha, ← Char.isAlpha_toLower_eq_isAlpha d, h]

theorem bareName_cons_joint (hd : d = '-' ∨ d = '_') (name : List Char) :
    bareName (d :: name) = bareName name := by
  rcases hd with rfl | rfl <;> rfl

theorem bareName_cons_letter (hd : ¬ (d = '-' ∨ d = '_')) (name : List Char) :
    bareName (d :: name) = d :: bareName name := by
  rw [bareName, List.filter_cons_of_pos (by simpa using hd)]
  rfl

theorem not_joint_of_isAlpha (h : c.isAlpha = true) : ¬ (c = '-' ∨ c = '_') := by
  rintro (rfl | rfl) <;> exact absurd h (by decide)

/-- **A name spells a word of letters** just if it is the word in another case once hyphens and
underscores are left out. -/
theorem spelling_iff (hword : ∀ c ∈ word, c.isAlpha = true) :
    Spelling word name ↔ Recased word (bareName name) := by
  constructor
  · intro h
    induction h with
    | nil => rfl
    | letter same rest ih =>
      rw [List.forall_mem_cons] at hword
      rw [bareName_cons_letter (not_joint_of_isAlpha (same.isAlpha_eq ▸ hword.1))]
      exact List.cons_eq_cons.mpr ⟨same, ih hword.2⟩
    | joint hd rest ih =>
      rw [bareName_cons_joint hd]
      exact ih hword
  · intro h
    induction name generalizing word with
    | nil =>
      obtain rfl : word = [] := List.map_eq_nil_iff.mp h
      exact .nil
    | cons d name ih =>
      by_cases hd : d = '-' ∨ d = '_'
      · rw [bareName_cons_joint hd] at h
        exact .joint hd (ih hword h)
      · rw [bareName_cons_letter hd] at h
        obtain ⟨c, word, rfl, same, hrest⟩ := List.map_eq_cons_iff.mp h
        rw [List.forall_mem_cons] at hword
        exact .letter same (ih hword.2 hrest)

/-! ## Names in lower case -/

theorem code_of_isAlpha (h : c.isAlpha = true) :
    65 ≤ c.toNat ∧ c.toNat ≤ 90 ∨ 97 ≤ c.toNat ∧ c.toNat ≤ 122 := by
  simpa [Char.isAlpha, Char.isUpper, Char.isLower, UInt32.le_iff_toNat_le] using h

theorem lt_of_isAlpha (h : c.isAlpha = true) : c.toNat < 0x80 := by
  have := code_of_isAlpha h
  omega

theorem isBlank_of_isAlpha (h : c.isAlpha = true) : isBlank c = false := by
  rw [← Bool.not_eq_true]
  intro hblank
  obtain ⟨range, hrange, hlow, hhigh⟩ := (CodeRange.covers_eq_true_iff _ _).mp hblank
  have hcode := code_of_isAlpha h
  simp only [blanks, List.mem_cons, List.not_mem_nil, or_false] at hrange
  rcases hrange with rfl | rfl | rfl | rfl | rfl | rfl | rfl | rfl | rfl | rfl <;> omega

theorem flatMap_lowerCase_of_lt (h : ∀ c ∈ name, c.toNat < 0x80) :
    name.flatMap lowerCase = name.map Char.toLower := by
  induction name with
  | nil => rfl
  | cons c name ih =>
    rw [List.forall_mem_cons] at h
    rw [List.flatMap_cons, lowerCase_of_lt h.1, ih h.2]
    rfl

theorem Recased.isAlpha (h : Recased word name) (hword : ∀ c ∈ word, c.isAlpha = true) :
    ∀ d ∈ name, d.isAlpha = true := by
  intro d hd
  obtain ⟨c, hc, same⟩ : ∃ c ∈ word, SameLetter c d :=
    List.mem_map.mp (h ▸ List.mem_map_of_mem hd : d.toLower ∈ word.map Char.toLower)
  rw [← same.isAlpha_eq]
  exact hword c hc

/-- **The lower case of a name is that of a word of ASCII letters** just if the name is the word in
another case. The letter `k` is excepted, which is also the lower case of the Kelvin sign. -/
theorem flatMap_lowerCase_eq_iff (hword : ∀ c ∈ word, c.isAlpha = true ∧ c.toLower ≠ 'k') :
    name.flatMap lowerCase = word.map Char.toLower ↔ Recased word name := by
  constructor
  · intro h
    have hlt : ∀ d ∈ name, d.toNat < 0x80 := by
      intro d hd
      by_contra hlarge
      obtain ⟨x, hx, hforeign⟩ := exists_mem_lowerCase (Nat.not_lt.mp hlarge)
      have hmem : x ∈ word.map Char.toLower := h ▸ List.mem_flatMap.mpr ⟨d, hd, hx⟩
      obtain ⟨c, hc, rfl⟩ := List.mem_map.mp hmem
      obtain ⟨halpha, hk⟩ := hword c hc
      rw [← Char.isAlpha_toLower_eq_isAlpha] at halpha
      exact hforeign.elim (Nat.not_le.mpr (lt_of_isAlpha halpha)) hk
    rw [flatMap_lowerCase_of_lt hlt] at h
    exact h.symm
  · intro h
    have halpha := h.isAlpha fun c hc => (hword c hc).1
    rw [flatMap_lowerCase_of_lt fun d hd => lt_of_isAlpha (halpha d hd)]
    exact h.symm

/-! ## Names of kinds -/

namespace EquationKind

variable {kind : EquationKind}

theorem isAlpha_tag (kind : EquationKind) :
    ∀ c ∈ kind.tag.toList, c.isAlpha = true ∧ c.toLower ≠ 'k' := by
  have hall : ∀ kind ∈ all,
      (kind.tag.toList.all fun c => c.isAlpha && c.toLower != 'k') = true := by decide
  simpa using hall kind (mem_all kind)

theorem eq_of_map_toLower_tag {kind' : EquationKind}
    (h : kind.tag.toList.map Char.toLower = kind'.tag.toList.map Char.toLower) : kind = kind' := by
  have hall : ∀ kind ∈ all, ∀ kind' ∈ all,
      kind.tag.toList.map Char.toLower = kind'.tag.toList.map Char.toLower → kind = kind' := by
    decide
  exact hall kind (mem_all kind) kind' (mem_all kind') h

theorem plainName_tag (kind : EquationKind) :
    plainName kind.tag.toList = kind.tag.toList.map Char.toLower := by
  have hall : ∀ kind ∈ all, plainName kind.tag.toList = kind.tag.toList.map Char.toLower := by
    decide
  exact hall kind (mem_all kind)

theorem plainName_of_ofName? (h : ofName? name = some kind) :
    plainName (trim name) = plainName kind.tag.toList := by
  have := List.find?_some h
  exact (beq_iff_eq.mp this).symm

/-- **The names of a kind** are those that are its tag in some case, but for hyphens, underscores
and blanks around them. -/
theorem ofName?_eq_some_iff :
    ofName? name = some kind ↔ Recased kind.tag.toList (bareName (trim name)) := by
  have hplain : ∀ kind : EquationKind, plainName (trim name) = plainName kind.tag.toList ↔
      Recased kind.tag.toList (bareName (trim name)) := by
    intro kind
    rw [plainName_tag]
    exact flatMap_lowerCase_eq_iff (isAlpha_tag kind)
  constructor
  · intro h
    exact (hplain kind).mp (plainName_of_ofName? h)
  · intro h
    obtain ⟨kind', hkind'⟩ : ∃ kind', ofName? name = some kind' := by
      refine Option.isSome_iff_exists.mp (List.find?_isSome.mpr ⟨kind, mem_all kind, ?_⟩)
      exact beq_iff_eq.mpr ((hplain kind).mpr h).symm
    have h' := (hplain kind').mp (plainName_of_ofName? hkind')
    rw [hkind', eq_of_map_toLower_tag (h'.trans h.symm)]

/-- **The name of a kind consists of ASCII letters**, hyphens and underscores. -/
theorem isAlpha_or_of_mem_name (h : ofName? name = some kind) :
    ∀ c ∈ trim name, c.isAlpha = true ∨ c = '-' ∨ c = '_' := by
  intro c hc
  by_cases hjoint : c = '-' ∨ c = '_'
  · exact .inr hjoint
  · refine .inl ((ofName?_eq_some_iff.mp h).isAlpha (fun d hd => (isAlpha_tag kind d hd).1) c ?_)
    exact List.mem_filter.mpr ⟨hc, by simpa using hjoint⟩

end EquationKind

end OneUnknown
