import OneUnknown.Proofs.Equation.Column
import OneUnknown.Proofs.Solver.Undefined
import OneUnknown.Proofs.Text.Letters
import OneUnknown.Quadratic
import OneUnknown.RealRoots

/-!
# What a text shows before it is read

A linear equation is checked in the text as it was typed: for a second sign of equality, and for a
letter. The scanner sees the composed form. Signs of equality are the same in both, but a sign may
stand in another column, since accents are joined to their letters. The test for a letter misses
the two letters that are not alphabetic.

* `SecondSign`, `SecondSign.signColumns_eq`: where the second sign of equality stands;
* `Scans.equalsColumns_eq`, `Scans.letter_iff`: the signs and letters among the tokens of a text;
* `equalities`, `crossables`, `SignTables`: the signs that the tables of decompositions are checked
  for; **`count_equals_composed`**: composition keeps the signs of equality of a text of tokens;
* **`solve_surplus_equals`**: what the solvers answer to a second sign of equality;
* **`Linear.solve_eq_noVariable_iff`**: the equations in which no unknown is found.
-/

namespace OneUnknown

open CodeRange (holds holds_eq_true_iff Apart)

/-! ## Columns of signs -/

theorem signColumns_append (column : Nat) (front rest : List Char) :
    signColumns column (front ++ rest) =
      signColumns column front ++ signColumns (column + front.length) rest := by
  induction front generalizing column with
  | nil => rfl
  | cons c front ih =>
    have hcolumn : column + (c :: front).length = column + 1 + front.length := by
      simp only [List.length_cons]
      omega
    rw [List.cons_append, hcolumn]
    simp only [signColumns, ih]
    split <;> rfl

theorem length_signColumns (column : Nat) (text : List Char) :
    (signColumns column text).length = text.count '=' := by
  induction text generalizing column with
  | nil => rfl
  | cons c text ih =>
    simp only [signColumns, List.count_cons, beq_iff_eq]
    split <;> simp [ih]

theorem signColumns_eq_nil {column : Nat} {text : List Char} (h : '=' ∉ text) :
    signColumns column text = [] := by
  rw [← List.length_eq_zero_iff, length_signColumns]
  exact List.count_eq_zero.mpr h

/-- **The second sign of equality** of a text stands in the column. -/
def SecondSign (text : List Char) (column : Nat) : Prop :=
  ∃ before after, text = before ++ '=' :: after ∧ before.count '=' = 1 ∧ column = before.length + 1

theorem exists_secondSign {text : List Char} (h : 2 ≤ text.count '=') :
    ∃ column, SecondSign text column := by
  obtain ⟨front, rest, rfl, hfront⟩ :=
    List.eq_append_cons_of_mem (List.count_pos_iff.mp (Nat.lt_of_lt_of_le Nat.zero_lt_two h))
  have hcount : front.count '=' = 0 := List.count_eq_zero.mpr hfront
  simp only [List.count_append, List.count_cons_self, hcount] at h
  obtain ⟨middle, after, rfl, hmiddle⟩ :=
    List.eq_append_cons_of_mem (List.count_pos_iff.mp (show 0 < rest.count '=' by omega))
  refine ⟨_, front ++ '=' :: middle, after, by simp, ?_, rfl⟩
  simp [hcount, List.count_eq_zero.mpr hmiddle]

theorem SecondSign.signColumns_eq {text : List Char} {column : Nat} (h : SecondSign text column) :
    ∃ first others, signColumns 1 text = first :: column :: others := by
  obtain ⟨before, after, rfl, hcount, rfl⟩ := h
  obtain ⟨first, hfirst⟩ := List.length_eq_one_iff.mp ((length_signColumns 1 before).trans hcount)
  refine ⟨first, signColumns (before.length + 2) after, ?_⟩
  rw [signColumns_append, hfirst, Nat.add_comm 1]
  rfl

theorem SecondSign.unique {text : List Char} {column column' : Nat} (h : SecondSign text column)
    (h' : SecondSign text column') : column = column' := by
  obtain ⟨first, others, hsigns⟩ := h.signColumns_eq
  obtain ⟨first', others', hsigns'⟩ := h'.signColumns_eq
  rw [hsigns] at hsigns'
  simp only [List.cons.injEq] at hsigns'
  exact hsigns'.2.1

/-! ## Signs and letters among tokens -/

theorem isPlain_of_symbol? {c : Char} {kind : TokenKind} (h : symbol? c = some kind) :
    IsPlain c := .inr (.inl (by simp [h]))

theorem symbol?_isEquals_iff {c : Char} {kind : TokenKind} (h : symbol? c = some kind) :
    kind.isEquals = true ↔ c = '=' := by
  unfold symbol? at h
  split at h <;> simp at h <;> subst h <;> simp_all [TokenKind.isEquals]

theorem symbol?_ne_letter {c name : Char} {kind : TokenKind} (h : symbol? c = some kind) :
    kind ≠ .letter name := by
  unfold symbol? at h
  split at h <;> simp at h <;> subst h <;> simp

namespace Piece

variable {run rest : List Char} {kind : TokenKind}

theorem signColumns_eq (h : Piece run rest kind) (column : Nat) :
    signColumns column run = if kind.isEquals then [column] else [] := by
  cases h with
  | @symbol c _ _ hc =>
    by_cases hequals : c = '='
    · rw [if_pos ((symbol?_isEquals_iff hc).mpr hequals), hequals]
      rfl
    · rw [if_neg fun hk => hequals ((symbol?_isEquals_iff hc).mp hk)]
      exact signColumns_eq_nil (by simpa using Ne.symm hequals)
  | number hrun => exact signColumns_eq_nil fun hmem => absurd (hrun.of_mem _ hmem) (by decide)
  | superscript hrun => exact signColumns_eq_nil fun hmem => absurd (hrun.of_mem _ hmem) (by decide)
  | letter hsymbol =>
    refine signColumns_eq_nil fun hmem => ?_
    rw [← List.mem_singleton.mp hmem] at hsymbol
    simp [symbol?] at hsymbol

theorem letter_iff (h : Piece run rest kind) (name : Char) :
    kind = .letter name ↔ name ∈ run ∧ isIdentifierStart name = true := by
  have none_of : (∀ c ∈ run, IsPlain c) → ¬ (name ∈ run ∧ isIdentifierStart name = true) :=
    fun hplain hname => not_isPlain_of_isIdentifierStart hname.2 (hplain name hname.1)
  cases h with
  | symbol hc =>
    exact iff_of_false (symbol?_ne_letter hc) (none_of (by simpa using isPlain_of_symbol? hc))
  | number hrun =>
    exact iff_of_false (by simp) (none_of fun c hc => .inr (.inr (.inl (hrun.of_mem c hc))))
  | superscript hrun =>
    exact iff_of_false (by simp) (none_of fun c hc => .inr (.inr (.inr (hrun.of_mem c hc))))
  | @letter c _ _ _ _ hletter =>
    constructor
    · intro hkind
      obtain rfl := TokenKind.letter.inj hkind
      exact ⟨by simp, hletter⟩
    · rintro ⟨hname, -⟩
      rw [List.mem_singleton.mp hname]

end Piece

namespace Scans

variable {column : Nat} {text : List Char} {result : Except LexError (List Token)}

/-- **The signs of equality among the tokens** are those of the text. -/
theorem equalsColumns_eq (h : Scans column text result) {ts : List Token} (hts : result = .ok ts) :
    equalsColumns ts = signColumns column text := by
  have hblank : ∀ {column : Nat} {gap : List Char}, (∀ c ∈ gap, isBlank c = true) →
      signColumns column gap = [] :=
    fun hgap => signColumns_eq_nil fun hmem => absurd (hgap _ hmem) (by decide)
  induction h generalizing ts with
  | stop hgap =>
    obtain rfl := Except.ok.inj hts
    exact (hblank hgap).symm
  | @token column gap run rest kind result hgap hpiece h ih =>
    rcases result with e | later
    · simp [Except.map] at hts
    · obtain rfl := Except.ok.inj hts
      rw [signColumns_append, signColumns_append, hblank hgap, hpiece.signColumns_eq, ← ih rfl,
        List.nil_append]
      cases hkind : kind.isEquals <;> simp [equalsColumns, hkind]
  | fault => simp at hts

/-- **The letters among the tokens** are those of the text. -/
theorem letter_iff (h : Scans column text result) {ts : List Token} (hts : result = .ok ts)
    (name : Char) :
    (∃ t ∈ ts, t.kind = .letter name) ↔ name ∈ text ∧ isIdentifierStart name = true := by
  have hblank : ∀ {gap : List Char}, (∀ c ∈ gap, isBlank c = true) →
      ¬ (name ∈ gap ∧ isIdentifierStart name = true) :=
    fun hgap hname => not_isPlain_of_isIdentifierStart hname.2 (.inl (hgap name hname.1))
  induction h generalizing ts with
  | stop hgap =>
    obtain rfl := Except.ok.inj hts
    exact iff_of_false (by simp) (hblank hgap)
  | @token column gap run rest kind result hgap hpiece h ih =>
    rcases result with e | later
    · simp [Except.map] at hts
    · obtain rfl := Except.ok.inj hts
      have hlater : (∃ t ∈ later, t.kind = .letter name) ↔ _ := ih rfl
      rw [List.exists_mem_cons_iff, hlater, hpiece.letter_iff, List.mem_append, List.mem_append,
        or_and_right, or_and_right, or_iff_right (hblank hgap)]
  | fault => simp at hts

theorem isLexical_of_mem (h : Scans column text result) {ts : List Token} (hts : result = .ok ts)
    {c : Char} (hc : c ∈ text) : isLexical c = true :=
  ((isRow_iff column).mpr (h.not_offence hts)).isLexical c hc

end Scans

theorem scans_text (text : String) : Scans 1 (composed text.toList) (tokens text) :=
  (Cursor.start text).scans_tokens

/-! ## What composition keeps -/

/-- The sign of equality, and the one that is crossed out. -/
def equalities : List CodeRange := [(0x003D, 0x003D), (0x2260, 0x2260)]

/-- The stroke that crosses out a sign, and a region of signs that can be crossed out. The minus
sign in its midst cannot. -/
def crossables : List CodeRange := [
  (0x0338, 0x0338), (0x2190, 0x2211), (0x2213, 0x22FF), (0x2ADC, 0x2ADD)]

theorem not_isLetter_of_holds {table : List CodeRange}
    (h : Apart table [(0x1100, 0x1112), (0x1161, 0x11C2), (0xAC00, 0xD7A3)]) {code : Nat}
    (hcode : Hangul.IsLetter code) : holds table code = false := by
  by_contra hholds
  rw [Bool.not_eq_false] at hholds
  have hapart := h.holds_eq_false hholds
  rw [← Bool.not_eq_true, holds_eq_true_iff] at hapart
  simp only [List.mem_cons, List.not_mem_nil, or_false, exists_eq_or_imp, exists_eq_left] at hapart
  exact hapart hcode

/-- **What the tables say of signs.** -/
structure SignTables : Prop where
  equalities : IsKept (· + ·) 0 fun code => (holds equalities code).toNat
  crossables : IsKept or false (holds crossables)
  apart : Apart (plainRanges ++ identifierStarts) OneUnknown.crossables

theorem signTables : SignTables where
  equalities := {
    parted := by decide +kernel
    hangul := ⟨0, rfl, fun code h => by rw [not_isLetter_of_holds (by decide) h]; rfl⟩
    ofNat := fun code => by rw [CodeRange.holds_ofNat (by decide)] }
  crossables := {
    parted := by decide +kernel
    hangul := ⟨false, rfl, fun code h => not_isLetter_of_holds (by decide) h⟩
    ofNat := CodeRange.holds_ofNat (by decide) }
  apart := by decide +kernel

theorem total_add (f : Nat → Bool) (codes : List Nat) :
    total (· + ·) 0 (fun code => (f code).toNat) codes = codes.countP f := by
  induction codes with
  | nil => rfl
  | cons code codes ih => rw [total_cons, ih, List.countP_cons, Nat.add_comm]; cases f code <;> rfl

theorem isForeign_crossables : IsForeign crossables :=
  ⟨SignTables.crossables signTables, SignTables.apart signTables⟩

theorem countP_equalities {text : List Char}
    (h : text.any (holds crossables ∘ Char.toNat) = false) :
    (text.map Char.toNat).countP (holds equalities) = text.count '=' := by
  rw [List.countP_map, List.count_eq_countP]
  refine List.countP_congr fun c hc => ?_
  have hcode : c.toNat ≠ 0x2260 := fun hcode => by
    simpa [hcode, show holds crossables 0x2260 = true by decide] using List.any_eq_false.mp h c hc
  rw [Function.comp, holds_eq_true_iff, beq_iff_eq]
  constructor
  · rintro ⟨range, hrange, hlow, hhigh⟩
    simp only [equalities, List.mem_cons, List.not_mem_nil, or_false] at hrange
    rcases hrange with rfl | rfl
    · exact eq_of_toNat_eq (Nat.le_antisymm hhigh hlow)
    · exact absurd (Nat.le_antisymm hhigh hlow) hcode
  · rintro rfl
    exact ⟨(0x003D, 0x003D), by simp [equalities], by decide⟩

/-- **Composition keeps the signs of equality** of a text of tokens. A sign that is crossed out is
none of them, neither before nor after. -/
theorem count_equals_composed {text : List Char}
    (h : ∀ c ∈ composed text, isLexical c = true) :
    (composed text).count '=' = text.count '=' := by
  have hcomposed : (composed text).any (holds crossables ∘ Char.toNat) = false :=
    List.any_eq_false.mpr fun c hc => by
      simp [isForeign_crossables.holds_eq_false_of_isLexical (h c hc)]
  have htext := isForeign_crossables.any_eq_false h
  have hkept := (SignTables.equalities signTables).total_composed text
  rwa [total_add, total_add, countP_equalities hcomposed, countP_equalities htext] at hkept

/-! ## A second sign of equality -/

theorem Linear.solve_of_secondSign {places limit : Nat} {text : String} {column : Nat}
    (h : SecondSign text.toList column) :
    Linear.solve places limit text = .error (.malformed (.severalEquals column)) := by
  obtain ⟨first, others, hsigns⟩ := h.signColumns_eq
  simp only [Linear.solve, Linear.checkText, hsigns]
  rfl

theorem Equation.parse_of_equalsColumns {K : Type} [Scalar K] {limit : Nat} {text : String}
    {ts : List Token} {first second : Nat} {others : List Nat} (h : tokens text = .ok ts)
    (hsigns : equalsColumns ts = first :: second :: others) :
    Equation.parse (K := K) limit text = .error (.malformed (.severalEquals second)) := by
  simp only [Equation.parse, h, Equation.ofTokens, hsigns]

theorem Quadratic.solve_of_parse_error {places limit : Nat} {text : String} {e : SolveError}
    (h : Equation.parse (K := Float) limit text = .error e) :
    Quadratic.solve places limit text = .error e := by
  simp only [Quadratic.solve, Quadratic.parse, h]
  rfl

theorem RealRoots.solve_of_parse_error {settings : NewtonSettings} {places limit : Nat}
    {text : String} {e : SolveError} (h : Equation.parse (K := Float) limit text = .error e) :
    RealRoots.solve settings places limit text = .error e := by
  simp only [RealRoots.solve, h]
  rfl

/-- **What the solvers answer to a second sign of equality** in a text of tokens. They complain in
the same words. Two of them point at the second such token, which stands in the composed form; for
a linear equation the column is that of the sign as it was typed. -/
theorem solve_surplus_equals (settings : NewtonSettings) (places limit : Nat) {text : String}
    {ts : List Token} (h : tokens text = .ok ts)
    (hequals : 2 ≤ (ts.filter (·.kind.isEquals)).length) :
    ∃ typed scanned, SecondSign text.toList typed ∧ SecondSign (composed text.toList) scanned ∧
      (∃ first others, equalsColumns ts = first :: scanned :: others) ∧
      Linear.solve places limit text = .error (.malformed (.severalEquals typed)) ∧
      Quadratic.solve places limit text = .error (.malformed (.severalEquals scanned)) ∧
      RealRoots.solve settings places limit text = .error (.malformed (.severalEquals scanned)) ∧
      (composed text.toList = text.toList → typed = scanned) := by
  have hscans := scans_text text
  have hcolumns := hscans.equalsColumns_eq h
  have hcount : 2 ≤ (composed text.toList).count '=' := by
    rw [← length_signColumns 1, ← hcolumns, equalsColumns, List.length_map]
    exact hequals
  obtain ⟨scanned, hscanned⟩ := exists_secondSign hcount
  rw [count_equals_composed fun c hc => hscans.isLexical_of_mem h hc] at hcount
  obtain ⟨typed, htyped⟩ := exists_secondSign hcount
  obtain ⟨first, others, hfirst⟩ := hscanned.signColumns_eq
  have hsigns := hcolumns.trans hfirst
  have hparse : Equation.parse (K := Float) limit text = _ :=
    Equation.parse_of_equalsColumns h hsigns
  refine ⟨typed, scanned, htyped, hscanned, ⟨first, others, hsigns⟩,
    Linear.solve_of_secondSign htyped, Quadratic.solve_of_parse_error hparse,
    RealRoots.solve_of_parse_error hparse, fun hcomposed => ?_⟩
  rw [hcomposed] at hscanned
  exact htyped.unique hscanned

theorem exists_ok_of_toOption_map {ε α β : Type} {x : Except ε α} {f : α → β} {b : β}
    (h : x.toOption.map f = some b) : ∃ a, x = .ok a ∧ f a = b := by
  rcases x with e | a
  · simp [Except.toOption] at h
  · exact ⟨a, rfl, by simpa [Except.toOption] using h⟩

/-- An accent that is joined to its letter moves the signs behind it by one column. -/
theorem exists_tokens_joined_accent : ∃ ts, tokens "e\u0301 = 1 = 2" = .ok ts ∧
    equalsColumns ts = [3, 7] := by
  have h : (tokens "e\u0301 = 1 = 2").toOption.map equalsColumns = some [3, 7] := by
    decide +kernel
  exact exists_ok_of_toOption_map h

theorem solve_surplus_equals_joined_accent :
    ∃ ts, tokens "e\u0301 = 1 = 2" = .ok ts ∧ 2 ≤ (ts.filter (·.kind.isEquals)).length ∧
      ∃ typed scanned, SecondSign "e\u0301 = 1 = 2".toList typed ∧
        Linear.solve 6 64 "e\u0301 = 1 = 2" = .error (.malformed (.severalEquals typed)) ∧
        Quadratic.solve 6 64 "e\u0301 = 1 = 2" = .error (.malformed (.severalEquals scanned)) := by
  obtain ⟨ts, hts, hsigns⟩ := exists_tokens_joined_accent
  have hequals : 2 ≤ (ts.filter (·.kind.isEquals)).length := by
    rw [← List.length_map, ← equalsColumns, hsigns]
    decide
  obtain ⟨typed, scanned, htyped, -, -, hlinear, hquadratic, -⟩ :=
    solve_surplus_equals {} 6 64 hts hequals
  exact ⟨ts, hts, hequals, typed, scanned, htyped, hlinear, hquadratic⟩

/-- The second sign is the eighth character as typed, and the seventh once the accent is joined. -/
theorem surplus_equals_columns_differ :
    (∃ ts, tokens "e\u0301 = 1 = 2" = .ok ts ∧ equalsColumns ts = [3, 7]) ∧
      Linear.solve 6 64 "e\u0301 = 1 = 2" = .error (.malformed (.severalEquals 8)) ∧
      Quadratic.solve 6 64 "e\u0301 = 1 = 2" = .error (.malformed (.severalEquals 7)) ∧
      RealRoots.solve {} 6 64 "e\u0301 = 1 = 2" = .error (.malformed (.severalEquals 7)) := by
  obtain ⟨ts, hts, hsigns⟩ := exists_tokens_joined_accent
  have hparse : Equation.parse (K := Float) 64 "e\u0301 = 1 = 2" = _ :=
    Equation.parse_of_equalsColumns hts hsigns
  refine ⟨⟨ts, hts, hsigns⟩, Linear.solve_of_secondSign ?_, Quadratic.solve_of_parse_error hparse,
    RealRoots.solve_of_parse_error hparse⟩
  exact ⟨"e\u0301 = 1 ".toList, " 2".toList, by decide, by decide, by decide⟩

/-! ## No unknown -/

theorem Equation.parse_ne_noVariable {K : Type} [Scalar K] {limit : Nat} {text : String} :
    Equation.parse (K := K) limit text ≠ .error .noVariable := by
  intro hparse
  rcases htokens : tokens text with e | ts
  · simp [Equation.parse, htokens] at hparse
  · obtain ⟨before, hends, -⟩ := (laidOut_tokens htokens).ends
    have hpoints := points_ofTokens (K := K) limit
      (show ⟨.endOfInput, "", 1 + (composed text.toList).length⟩ ∈ ts by simp [hends]) rfl
    simp only [Equation.parse, htokens] at hparse
    rw [hparse] at hpoints
    exact hpoints.1 rfl

namespace Linear

variable {places limit : Nat}

theorem answer_ne_noVariable (e : Equation Float) : answer places e ≠ .error .noVariable := by
  by_cases h : e.normalized.degree? = some 1
  · simp [answer_eq_error_iff h]
  · unfold answer
    dsimp only
    split <;> simp_all

theorem solve_eq_noVariable_iff_any {text : String} (h : text.toList.count '=' = 1) :
    solve places limit text = .error .noVariable ↔ text.toList.any isAlphabetic = false := by
  obtain ⟨column, hsigns⟩ := List.length_eq_one_iff.mp ((length_signColumns 1 text.toList).trans h)
  simp only [solve, checkText, hsigns]
  by_cases hany : text.toList.any isAlphabetic = true
  · rw [if_pos hany]
    refine iff_of_false ?_ (by simp [hany])
    have hparse : Equation.parse (K := Float) limit text ≠ _ := Equation.parse_ne_noVariable
    rcases he : Equation.parse (K := Float) limit text with e | e
    · rw [he] at hparse
      simpa [bind, Except.bind] using hparse
    · exact answer_ne_noVariable e
  · rw [if_neg hany]
    exact iff_of_true rfl (by simpa using hany)

/-- **The equations in which no unknown is found**, among the texts of tokens with one sign of
equality as they were typed: those without any letter, and those whose only letters are the two
that are not alphabetic, the Weierstrass sign and the estimated sign. -/
theorem solve_eq_noVariable_iff {text : String} {ts : List Token} (h : tokens text = .ok ts)
    (hequals : text.toList.count '=' = 1) :
    solve places limit text = .error .noVariable ↔
      ∀ t ∈ ts, ∀ name, t.kind = .letter name → name = '℘' ∨ name = '℮' := by
  have hscans := scans_text text
  rw [solve_eq_noVariable_iff_any hequals, ← any_isAlphabetic_composed, List.any_eq_false]
  constructor
  · intro hnone t ht name hname
    obtain ⟨hmem, hletter⟩ := (hscans.letter_iff h name).mp ⟨t, ht, hname⟩
    exact (isAlphabetic_or_of_isIdentifierStart hletter).resolve_left (hnone name hmem)
  · intro hletters c hc halphabetic
    have hletter := isIdentifierStart_of_isAlphabetic halphabetic (hscans.isLexical_of_mem h hc)
    obtain ⟨t, ht, hkind⟩ := (hscans.letter_iff h c).mpr ⟨hc, hletter⟩
    rw [isAlphabetic_eq_false (by rcases hletters t ht c hkind with rfl | rfl <;> decide)]
      at halphabetic
    exact Bool.noConfusion halphabetic

set_option maxRecDepth 100000 in
/-- The Weierstrass sign is scanned as an unknown. -/
theorem exists_tokens_weierstrass : ∃ ts, tokens "℘ = 3" = .ok ts ∧
    ∃ t ∈ ts, t.kind = .letter '℘' := by
  have h : tokens "℘ = 3" = .ok [⟨.letter '℘', "℘", 1⟩, ⟨.equals, "=", 3⟩, ⟨.number 3, "3", 5⟩,
      ⟨.endOfInput, "", 6⟩] := by
    with_unfolding_all rfl
  exact ⟨_, h, _, List.mem_cons_self, rfl⟩

theorem solve_weierstrass : solve 6 64 "℘ = 3" = .error .noVariable := by
  have htext : "℘ = 3".toList = ['℘', ' ', '=', ' ', '3'] := by decide
  have hunlettered : (['℘', ' ', '=', ' ', '3'].all fun c => holds unlettered c.toNat) = true := rfl
  rw [solve_eq_noVariable_iff_any (by decide), htext]
  exact List.any_eq_false.mpr fun c hc => by
    simp [isAlphabetic_eq_false (List.all_eq_true.mp hunlettered c hc)]

theorem solve_eq_noVariable_iff_weierstrass :
    ∃ ts, tokens "℘ = 3" = .ok ts ∧ "℘ = 3".toList.count '=' = 1 ∧
      ∀ t ∈ ts, ∀ name, t.kind = .letter name → name = '℘' ∨ name = '℮' := by
  obtain ⟨ts, hts, -⟩ := exists_tokens_weierstrass
  exact ⟨ts, hts, by decide, (solve_eq_noVariable_iff hts (by decide)).mp solve_weierstrass⟩

/-- In `℘ = 3` no unknown is found, although there is one. -/
theorem noVariable_despite_letter :
    (∃ ts, tokens "℘ = 3" = .ok ts ∧ ∃ t ∈ ts, t.kind = .letter '℘') ∧
      "℘ = 3".toList.count '=' = 1 ∧ solve 6 64 "℘ = 3" = .error .noVariable :=
  ⟨exists_tokens_weierstrass, by decide, solve_weierstrass⟩

end Linear

end OneUnknown
