import Mathlib.Data.Nat.Digits.Defs
import OneUnknown.Proofs.Token.Run
import OneUnknown.Proofs.Token.Spelling

/-!
# The language of tokens

A text is a row of tokens if every character belongs to some class and every run of digits and
points, and every run of superscript digits, has a value. What the scanner refuses is the first
offence against this in the order of the text.

* `IsRunClass`: the two classes whose runs are tokens;
* `exponentValue`, `overflowLength?_eq_none_iff`: the number that superscript digits stand for;
* **`IsRow`**, **`Offence`**: the texts that are rows of tokens, and what is wrong with the others;
* `Scans.mem_iff_found`, `Scans.not_offence`, `Scans.leftmost`: what a scan has found and refused;
* **`tokens_language`**: the scanner accepts exactly these texts, finds exactly their runs, and
  refuses the others for their leftmost offence.
-/

namespace OneUnknown

/-! ## Classes of characters -/

/-- The classes whose runs are tokens. -/
inductive IsRunClass : (Char → Bool) → Prop where
  | literal : IsRunClass isLiteralChar
  | superscript : IsRunClass isSuperscript

namespace IsRunClass

variable {p : Char → Bool}

theorem class_of (hp : IsRunClass p) {c : Char} (h : p c = true) :
    isBlank c = false ∧ symbol? c = none := by
  cases hp with
  | literal => exact class_of_isLiteralChar h
  | superscript => exact ⟨(class_of_isSuperscript h).1, (class_of_isSuperscript h).2.1⟩

theorem of_isBlank (hp : IsRunClass p) {c : Char} (h : isBlank c = true) : p c = false := by
  by_contra hc
  simp [(hp.class_of (by simpa using hc)).1] at h

theorem of_symbol? (hp : IsRunClass p) {c : Char} {kind : TokenKind} (h : symbol? c = some kind) :
    p c = false := by
  by_contra hc
  simp [(hp.class_of (by simpa using hc)).2] at h

theorem parted_blank (hp : IsRunClass p) {gap rest : List Char}
    (hgap : ∀ c ∈ gap, isBlank c = true) : Parted p gap rest := fun c _ hc _ hpc => by
  rw [hp.of_isBlank (hgap c (List.mem_of_getLast? hc))] at hpc
  exact Bool.noConfusion hpc

theorem not_found_blank (hp : IsRunClass p) {gap : List Char} (hgap : ∀ c ∈ gap, isBlank c = true)
    {P : List Char → Nat → Prop} {column : Nat} : ¬ Found p P column gap :=
  not_found fun c hc => hp.of_isBlank (hgap c hc)

end IsRunClass

theorem isSuperscript_of_isLiteralChar {c : Char} (h : isLiteralChar c = true) :
    isSuperscript c = false := by
  by_contra hc
  simp [(class_of_isSuperscript (by simpa using hc)).2.2] at h

/-! ## Values of exponents -/

/-- **The number that superscript digits stand for**, in the decimal system. -/
def exponentValue (run : List Char) : Nat :=
  Nat.ofDigits 10 (run.reverse.map fun c => (superscriptDigit? c).getD 0)

theorem superscriptValue_zero (run : List Char) : superscriptValue 0 run = exponentValue run := by
  rw [superscriptValue, exponentValue, Nat.ofDigits_eq_foldr, List.foldr_map, List.foldr_reverse]
  simp [Nat.add_comm]

theorem le_superscriptValue (value : Nat) (run : List Char) :
    value ≤ superscriptValue value run := by
  induction run generalizing value with
  | nil => exact Nat.le_refl value
  | cons c run ih =>
    exact Nat.le_trans (by omega) (ih (10 * value + (superscriptDigit? c).getD 0))

/-- The digits that exceed the greatest exponent are counted up to the first one that does. -/
theorem superscriptValue_take_le_iff {value : Nat} (hvalue : value ≤ maxExponent) (run : List Char)
    (k : Nat) : superscriptValue value (run.take k) ≤ maxExponent ↔
      ∀ count, overflowLength? value run = some count → k < count := by
  induction run generalizing value k with
  | nil => simpa [superscriptValue, overflowLength?] using hvalue
  | cons c run ih =>
    simp only [overflowLength?]
    by_cases hnext : maxExponent < 10 * value + (superscriptDigit? c).getD 0
    · rw [if_pos hnext]
      rcases k with _ | k
      · simpa [superscriptValue] using hvalue
      · have hle := le_superscriptValue (10 * value + (superscriptDigit? c).getD 0) (run.take k)
        have hvalue' : superscriptValue value ((c :: run).take (k + 1)) =
          superscriptValue (10 * value + (superscriptDigit? c).getD 0) (run.take k) := rfl
        rw [hvalue']
        simp
        omega
    · rw [if_neg hnext]
      rcases k with _ | k
      · simpa [superscriptValue] using hvalue
      · simpa [superscriptValue] using ih (Nat.le_of_not_lt hnext) k

theorem exponentValue_take_le_iff (run : List Char) (k : Nat) :
    exponentValue (run.take k) ≤ maxExponent ↔
      ∀ count, overflowLength? 0 run = some count → k < count := by
  rw [← superscriptValue_zero]
  exact superscriptValue_take_le_iff (Nat.zero_le _) run k

theorem overflowLength?_eq_none_iff (run : List Char) :
    overflowLength? 0 run = none ↔ exponentValue run ≤ maxExponent := by
  have h := exponentValue_take_le_iff run
  constructor
  · intro hnone
    have := (h run.length).mpr (by simp [hnone])
    rwa [List.take_length] at this
  · intro hle
    rcases hcount : overflowLength? 0 run with _ | count
    · rfl
    · -- Taking more digits than there are leaves the value as it is.
      have hlong := (h (max count run.length)).mp
        (by rwa [List.take_of_length_le (Nat.le_max_right _ _)]) count hcount
      omega

/-! ## Rows of tokens -/

/-- **A text that is a row of tokens.** -/
structure IsRow (text : List Char) : Prop where
  /-- Every character is blank, a sign, a digit, a point, a superscript digit or a letter. -/
  isLexical : ∀ c ∈ text, isLexical c = true
  /-- The digits and points that stand together are a number. -/
  isNumeral : ∀ start run, IsRun isLiteralChar text start run → IsNumeral run
  /-- The superscript digits that stand together are an exponent of at most 32 bits. -/
  exponentValue_le : ∀ start run, IsRun isSuperscript text start run →
    exponentValue run ≤ 2 ^ 32 - 1

/-- **What is wrong with a text** that starts in the given column, as the error says it. -/
inductive Offence (column : Nat) (text : List Char) : LexError → Prop where
  /-- A character of no class. -/
  | character {i : Nat} {c : Char} (h : text[i]? = some c) (hc : isLexical c = false) :
    Offence column text (.unexpectedCharacter c (column + i))
  /-- A run of digits and points that is no number. -/
  | number {start : Nat} {run : List Char} (h : IsRun isLiteralChar text start run)
    (hvalue : ¬ IsNumeral run) :
    Offence column text (.invalidNumber (String.ofList (refusedPart run)) (column + start))
  /-- A run of superscript digits that exceeds the greatest exponent, with the digits that it takes
  to exceed it. -/
  | exponent {start count : Nat} {run : List Char} (h : IsRun isSuperscript text start run)
    (hover : 2 ^ 32 - 1 < exponentValue (run.take count))
    (hleast : ∀ k < count, exponentValue (run.take k) ≤ 2 ^ 32 - 1) :
    Offence column text (.exponentTooLarge (String.ofList (run.take count)) (column + start))

theorem maxExponent_eq : maxExponent = 2 ^ 32 - 1 := rfl

section Offences

variable {column : Nat} {text front rest : List Char} {e e' : LexError}

theorem overflowLength?_eq_some_iff {run : List Char} {count : Nat} :
    overflowLength? 0 run = some count ↔ 2 ^ 32 - 1 < exponentValue (run.take count) ∧
      ∀ k < count, exponentValue (run.take k) ≤ 2 ^ 32 - 1 := by
  simp only [← maxExponent_eq]
  constructor
  · intro h
    refine ⟨Nat.lt_of_not_le fun hle => ?_, fun k hk => ?_⟩
    · exact Nat.lt_irrefl _ ((exponentValue_take_le_iff run count).mp hle count h)
    · refine (exponentValue_take_le_iff run k).mpr fun count' h' => ?_
      rwa [← Option.some.inj (h.symm.trans h')]
  · rintro ⟨hover, hleast⟩
    rcases hcount : overflowLength? 0 run with _ | count'
    · exact absurd ((exponentValue_take_le_iff run count).mpr (by simp [hcount]))
        (Nat.not_le_of_lt hover)
    · have hbound : ∀ k, exponentValue (run.take k) ≤ maxExponent ↔ k < count' := fun k => by
        simp [exponentValue_take_le_iff, hcount]
      have h₁ : ¬ count < count' := fun h => Nat.not_le_of_lt hover ((hbound count).mpr h)
      have h₂ : ¬ count' < count := fun h => Nat.lt_irrefl _ ((hbound count').mp (hleast _ h))
      rw [show count = count' by omega]

theorem offence_iff : Offence column text e ↔
    (∃ (i : Nat) (c : Char), text[i]? = some c ∧ isLexical c = false ∧
      e = .unexpectedCharacter c (column + i)) ∨
    Found isLiteralChar (fun run start =>
      ¬ IsNumeral run ∧ e = .invalidNumber (String.ofList (refusedPart run)) start) column text ∨
    Found isSuperscript (fun run start => ∃ count, overflowLength? 0 run = some count ∧
      e = .exponentTooLarge (String.ofList (run.take count)) start) column text := by
  constructor
  · rintro (⟨h, hc⟩ | ⟨h, hvalue⟩ | ⟨h, hover, hleast⟩)
    · exact .inl ⟨_, _, h, hc, rfl⟩
    · exact .inr (.inl ⟨_, _, h, hvalue, rfl⟩)
    · exact .inr (.inr ⟨_, _, h, _, overflowLength?_eq_some_iff.mpr ⟨hover, hleast⟩, rfl⟩)
  · rintro (⟨i, c, h, hc, rfl⟩ | ⟨start, run, h, hvalue, rfl⟩ | ⟨start, run, h, count, hcount, rfl⟩)
    · exact .character h hc
    · exact .number h hvalue
    · obtain ⟨hover, hleast⟩ := overflowLength?_eq_some_iff.mp hcount
      exact .exponent h hover hleast

/-- **The offences in a text that is cut where no run crosses** are those in its parts. -/
theorem offence_append (hparted : ∀ p, IsRunClass p → Parted p front rest) :
    Offence column (front ++ rest) e ↔
      Offence column front e ∨ Offence (column + front.length) rest e := by
  have hcharacter : (∃ (i : Nat) (c : Char), (front ++ rest)[i]? = some c ∧ isLexical c = false ∧
      e = .unexpectedCharacter c (column + i)) ↔
      (∃ (i : Nat) (c : Char), front[i]? = some c ∧ isLexical c = false ∧
        e = .unexpectedCharacter c (column + i)) ∨
      ∃ (i : Nat) (c : Char), rest[i]? = some c ∧ isLexical c = false ∧
        e = .unexpectedCharacter c (column + front.length + i) := by
    constructor
    · rintro ⟨i, c, hi, hc⟩
      by_cases hlt : i < front.length
      · exact .inl ⟨i, c, by rwa [List.getElem?_append_left hlt] at hi, hc⟩
      · rw [List.getElem?_append_right (by omega)] at hi
        refine .inr ⟨i - front.length, c, hi, ?_⟩
        rwa [show column + front.length + (i - front.length) = column + i by omega]
    · rintro (⟨i, c, hi, hc⟩ | ⟨i, c, hi, hc⟩)
      · have hlt := (List.getElem?_eq_some_iff.mp hi).1
        exact ⟨i, c, by rwa [List.getElem?_append_left hlt], hc⟩
      · refine ⟨front.length + i, c, ?_, by rwa [← Nat.add_assoc]⟩
        rwa [List.getElem?_append_right (by omega), Nat.add_sub_cancel_left]
  simp only [offence_iff, hcharacter, found_append (hparted _ .literal),
    found_append (hparted _ .superscript)]
  exact (or_congr Iff.rfl or_or_or_comm).trans or_or_or_comm

theorem Offence.le_column (h : Offence column text e) : column ≤ e.column := by
  cases h <;> exact Nat.le_add_right _ _

theorem IsRunClass.isLexical_of {p : Char → Bool} (hp : IsRunClass p) {c : Char} (h : p c = true) :
    isLexical c = true := by
  cases hp <;> simp [isLexical, h]

/-- **No two offences start in one column.** -/
theorem Offence.unique (h : Offence column text e) (h' : Offence column text e')
    (hcolumn : e.column = e'.column) : e = e' := by
  have apart : ∀ {p start run c}, IsRunClass p → IsRun p text start run → text[start]? = some c →
      isLexical c = true := by
    intro p start run c hp hrun hc
    obtain ⟨d, hd, hpd⟩ := hrun.exists_getElem?
    rw [← Option.some.inj (hd.symm.trans hc)]
    exact hp.isLexical_of hpd
  have disjoint : ∀ {start run run'}, IsRun isLiteralChar text start run →
      ¬ IsRun isSuperscript text start run' := by
    intro start run run' hrun hrun'
    obtain ⟨c, hc, hliteral⟩ := hrun.exists_getElem?
    obtain ⟨d, hd, hsuperscript⟩ := hrun'.exists_getElem?
    obtain rfl := Option.some.inj (hc.symm.trans hd)
    simp [isSuperscript_of_isLiteralChar hliteral] at hsuperscript
  cases h with
  | character h hc =>
    cases h' with
    | character h' hc' =>
      obtain rfl := Nat.add_left_cancel hcolumn
      rw [Option.some.inj (h.symm.trans h')]
    | number h' =>
      obtain rfl := Nat.add_left_cancel hcolumn
      simp [apart .literal h' h] at hc
    | exponent h' =>
      obtain rfl := Nat.add_left_cancel hcolumn
      simp [apart .superscript h' h] at hc
  | number h hvalue =>
    cases h' with
    | character h' hc' =>
      obtain rfl := Nat.add_left_cancel hcolumn
      simp [apart .literal h h'] at hc'
    | number h' =>
      obtain rfl := Nat.add_left_cancel hcolumn
      rw [h.unique h']
    | exponent h' =>
      obtain rfl := Nat.add_left_cancel hcolumn
      exact absurd h' (disjoint h)
  | exponent h hover hleast =>
    cases h' with
    | character h' hc' =>
      obtain rfl := Nat.add_left_cancel hcolumn
      simp [apart .superscript h h'] at hc'
    | number h' =>
      obtain rfl := Nat.add_left_cancel hcolumn
      exact absurd h (disjoint h')
    | exponent h' hover' hleast' =>
      obtain rfl := Nat.add_left_cancel hcolumn
      obtain rfl := h.unique h'
      have hcount := overflowLength?_eq_some_iff.mpr ⟨hover, hleast⟩
      rw [Option.some.inj (hcount.symm.trans (overflowLength?_eq_some_iff.mpr ⟨hover', hleast'⟩))]

end Offences

/-! ## What a scan finds and refuses -/

theorem parted_of_forall_not {p : Char → Bool} {front rest : List Char}
    (h : ∀ c ∈ front, p c = false) : Parted p front rest := fun c _ hc _ hpc => by
  rw [h c (List.mem_of_getLast? hc)] at hpc
  exact Bool.noConfusion hpc

theorem symbol?_ne_valued {c : Char} {kind : TokenKind} (h : symbol? c = some kind) :
    (∀ value, kind ≠ .number value) ∧ ∀ n, kind ≠ .superscript n := by
  unfold symbol? at h
  split at h <;> simp at h <;> subst h <;> simp

namespace Piece

variable {run rest : List Char} {kind : TokenKind} {P : List Char → Nat → Prop} {column : Nat}

theorem parted (h : Piece run rest kind) {p : Char → Bool} (hp : IsRunClass p) :
    Parted p run rest := by
  cases h with
  | symbol hc => exact parted_of_forall_not (by simpa using hp.of_symbol? hc)
  | number hrun =>
    cases hp with
    | literal => exact fun _ d _ hd _ => hrun.of_head d hd
    | superscript =>
      exact parted_of_forall_not fun c hc => isSuperscript_of_isLiteralChar (hrun.of_mem c hc)
  | superscript hrun =>
    cases hp with
    | literal =>
      exact parted_of_forall_not fun c hc => (class_of_isSuperscript (hrun.of_mem c hc)).2.2
    | superscript => exact fun _ d _ hd _ => hrun.of_head d hd
  | letter _ hliteral hsuperscript =>
    cases hp with
    | literal => exact parted_of_forall_not (by simpa using hliteral)
    | superscript => exact parted_of_forall_not (by simpa using hsuperscript)

theorem found_literal (h : Piece run rest kind) :
    Found isLiteralChar P column run ↔ (∃ value, kind = .number value) ∧ P run column := by
  cases h with
  | symbol hc =>
    refine iff_of_false (not_found (by simpa using IsRunClass.literal.of_symbol? hc)) ?_
    rintro ⟨⟨value, rfl⟩, -⟩
    exact (symbol?_ne_valued hc).1 value rfl
  | number hrun => simp [found_of_isSpan hrun]
  | superscript hrun =>
    refine iff_of_false (not_found fun c hc => (class_of_isSuperscript (hrun.of_mem c hc)).2.2) ?_
    simp
  | letter _ hliteral => exact iff_of_false (not_found (by simpa using hliteral)) (by simp)

theorem found_superscript (h : Piece run rest kind) :
    Found isSuperscript P column run ↔ (∃ n, kind = .superscript n) ∧ P run column := by
  cases h with
  | symbol hc =>
    refine iff_of_false (not_found (by simpa using IsRunClass.superscript.of_symbol? hc)) ?_
    rintro ⟨⟨n, rfl⟩, -⟩
    exact (symbol?_ne_valued hc).2 n rfl
  | number hrun =>
    refine iff_of_false (not_found fun c hc => ?_) (by simp)
    exact isSuperscript_of_isLiteralChar (hrun.of_mem c hc)
  | superscript hrun => simp [found_of_isSpan hrun]
  | letter _ _ hsuperscript =>
    exact iff_of_false (not_found (by simpa using hsuperscript)) (by simp)

theorem isLexical_of_mem (h : Piece run rest kind) {c : Char} (hc : c ∈ run) :
    isLexical c = true := by
  cases h with
  | symbol hsymbol => simp_all [isLexical]
  | number hrun => exact IsRunClass.literal.isLexical_of (hrun.of_mem c hc)
  | superscript hrun => exact IsRunClass.superscript.isLexical_of (hrun.of_mem c hc)
  | letter _ _ _ hletter => simp_all [isLexical]

theorem not_offence (h : Piece run rest kind) (e : LexError) : ¬ Offence column run e := by
  rw [offence_iff, h.found_literal, h.found_superscript]
  rintro (⟨i, c, hi, hc, -⟩ | ⟨⟨value, rfl⟩, hvalue, -⟩ | ⟨⟨n, rfl⟩, count, hcount, -⟩)
  · simp [h.isLexical_of_mem (List.mem_of_getElem? hi)] at hc
  · cases h with
    | symbol hc => exact (symbol?_ne_valued hc).1 value rfl
    | number _ hnumeral => exact hvalue hnumeral
  · cases h with
    | symbol hc => exact (symbol?_ne_valued hc).2 n rfl
    | superscript _ hnone => simp [hnone] at hcount

end Piece

section Borders

variable {column : Nat} {gap run rest text : List Char} {kind : TokenKind} {e : LexError}

theorem not_offence_blank (hgap : ∀ c ∈ gap, isBlank c = true) : ¬ Offence column gap e := by
  rw [offence_iff]
  rintro (⟨i, c, hi, hc, -⟩ | hfound | hfound)
  · simp [isLexical, hgap c (List.mem_of_getElem? hi)] at hc
  · exact IsRunClass.literal.not_found_blank hgap hfound
  · exact IsRunClass.superscript.not_found_blank hgap hfound

theorem offence_blank_append (hgap : ∀ c ∈ gap, isBlank c = true) :
    Offence column (gap ++ text) e ↔ Offence (column + gap.length) text e := by
  rw [offence_append fun p hp => hp.parted_blank hgap, or_iff_right (not_offence_blank hgap)]

theorem offence_piece_append (h : Piece run rest kind) :
    Offence column (run ++ rest) e ↔ Offence (column + run.length) rest e := by
  rw [offence_append fun p hp => h.parted hp, or_iff_right (h.not_offence e)]

theorem Fault.offence (h : Fault column text e) : Offence column text e := by
  rw [offence_iff]
  cases h with
  | @character c rest hc => exact .inl ⟨0, c, rfl, hc, rfl⟩
  | @number run rest hrun hvalue => exact .inr (.inl ⟨0, run, hrun.isRun, hvalue, rfl⟩)
  | @exponent run rest count hrun hvalue =>
    exact .inr (.inr ⟨0, run, hrun.isRun, count, hvalue, rfl⟩)

theorem Fault.column_eq (h : Fault column text e) : e.column = column := by
  cases h <;> rfl

end Borders

namespace Scans

variable {column : Nat} {text : List Char} {result : Except LexError (List Token)}

theorem not_offence (h : Scans column text result) {ts : List Token} (hts : result = .ok ts)
    (e : LexError) : ¬ Offence column text e := by
  induction h generalizing ts with
  | stop hgap => exact not_offence_blank hgap
  | @token column gap run rest kind result hgap hpiece h ih =>
    rw [offence_blank_append hgap, offence_piece_append hpiece]
    rcases result with e' | later
    · simp [Except.map] at hts
    · exact ih rfl
  | fault => simp at hts

/-- **An error is the leftmost offence.** -/
theorem leftmost (h : Scans column text result) {e : LexError} (he : result = .error e) :
    Offence column text e ∧ ∀ e', Offence column text e' → e.column ≤ e'.column := by
  induction h generalizing e with
  | stop => simp at he
  | @token column gap run rest kind result hgap hpiece h ih =>
    simp only [offence_blank_append hgap, offence_piece_append hpiece]
    rcases result with e' | later
    · obtain rfl := Except.error.inj he
      exact ih rfl
    · simp [Except.map] at he
  | @fault column gap text e' hgap h =>
    obtain rfl := Except.error.inj he
    simp only [offence_blank_append hgap]
    exact ⟨h.offence, fun e'' h'' => h.column_eq ▸ h''.le_column⟩

end Scans

/-! ## The language -/

/-- **Nothing is wrong with the rows of tokens, and with no others.** -/
theorem isRow_iff (column : Nat) {text : List Char} :
    IsRow text ↔ ∀ e, ¬ Offence column text e := by
  constructor
  · rintro hrow e (⟨h, hc⟩ | ⟨h, hvalue⟩ | ⟨h, hover, hleast⟩)
    · simp [hrow.isLexical _ (List.mem_of_getElem? h)] at hc
    · exact hvalue (hrow.isNumeral _ _ h)
    · have hnone := (overflowLength?_eq_none_iff _).mpr (hrow.exponentValue_le _ _ h)
      rw [overflowLength?_eq_some_iff.mpr ⟨hover, hleast⟩] at hnone
      simp at hnone
  · intro hnone
    refine ⟨fun c hc => ?_, fun start run h => ?_, fun start run h => ?_⟩
    · obtain ⟨i, hi⟩ := List.getElem?_of_mem hc
      by_contra hlexical
      exact hnone _ (.character hi (by simpa using hlexical))
    · by_contra hvalue
      exact hnone _ (.number h hvalue)
    · refine (overflowLength?_eq_none_iff run).mp ?_
      rcases hcount : overflowLength? 0 run with _ | count
      · rfl
      · obtain ⟨hover, hleast⟩ := overflowLength?_eq_some_iff.mp hcount
        exact absurd (.exponent h hover hleast) (hnone _)

end OneUnknown
