import Mathlib.Data.List.Basic
import OneUnknown.Proofs.Number.Arithmetic
import OneUnknown.Proofs.Solver.Answered
import OneUnknown.Proofs.Token.Append

/-!
# A missing right side counts as zero

Writing `= 0` behind a text without a sign of equality changes no answer. The tokens of the text
stay as they are and three are added to them. They spell a sentence just if those before them spell
one without a right side, with the same left side. And although the right side is then subtracted
and the difference trimmed again, no coefficient changes, not even the sign of a zero.

* `numberPhrase`, `exists_left_of_kinds`: a number as the right side of a sentence;
* **`ofTokens_append_number`**: the equation that the tokens are read as;
* `Polynomial.sub_zero`, `normalized_zeroSide`: zero as the right side of an equation;
* `scans_zeroSide`, `parse_append_zero_iff`: the text;
* **`RealRoots.solve_append_zero`**: the answer.
-/

namespace OneUnknown

variable {K : Type} [Scalar K] {limit : Nat}

namespace Grammar

/-! ## A number as the right side -/

/-- A phrase that is a number. -/
def numberPhrase (v : Float) : Phrase := .term (.factor (.power (.of (.number v) none)))

theorem kinds_numberPhrase (v : Float) : (numberPhrase v).kinds = [.number v] := rfl

theorem Sentence.right?_eq_none {s : Sentence} (h : TokenKind.equals ∉ s.kinds) :
    s.right? = none := by
  rcases s with ⟨left, _ | right⟩
  · rfl
  · exact absurd (by simp [Sentence.kinds]) h

/-- **A sentence that ends with a number behind a sign of equality** has the number as its right
side, and spells before the sign what its left side does. -/
theorem exists_left_of_kinds {s : Sentence} {kinds : List TokenKind} {v : Float}
    (h : s.kinds = kinds ++ [.equals, .number v]) :
    ∃ left : Phrase, left.kinds = kinds ∧ s = ⟨left, some (numberPhrase v)⟩ := by
  rcases s with ⟨left, _ | right⟩
  · have hmem : TokenKind.equals ∈ left.kinds ++ [] := by
      rw [show left.kinds ++ [] = kinds ++ [.equals, .number v] from h]
      simp
    exact absurd (by simpa using hmem) left.equals_not_mem
  · have hsplit : left.kinds ++ .equals :: right.kinds = kinds ++ .equals :: [.number v] := h
    obtain ⟨hleft, -, hright⟩ :=
      (List.append_cons_inj_of_notMem left.equals_not_mem right.equals_not_mem).mp hsplit
    have hphrase : (⟨right, none⟩ : Sentence) = ⟨numberPhrase v, none⟩ :=
      Sentence.kinds_injective (by simpa [Sentence.kinds, kinds_numberPhrase] using hright)
    rw [Sentence.mk.injEq] at hphrase
    exact ⟨left, hleft, by rw [hphrase.1]⟩

theorem value?_some_numberPhrase (left : Phrase) (v : Float) :
    Sentence.value? (K := K) limit ⟨left, some (numberPhrase v)⟩ =
      (Sentence.value? limit ⟨left, none⟩).map fun e =>
        { e with right? := some (.constant (Scalar.ofFloat v)) } := by
  have hletter : soleLetter? (Sentence.kinds ⟨left, some (numberPhrase v)⟩) =
      soleLetter? (Sentence.kinds ⟨left, none⟩) := by
    have hkinds : Sentence.kinds ⟨left, some (numberPhrase v)⟩ =
        (left.kinds ++ [.equals]) ++ [.number v] := by
      simp [Sentence.kinds, kinds_numberPhrase]
    rw [hkinds, soleLetter?_append (by simp), soleLetter?_append (by simp)]
    simp [Sentence.kinds]
  rw [Sentence.value?, Sentence.value?, hletter]
  rcases soleLetter? (Sentence.kinds ⟨left, none⟩) with _ | unknown?
  · rfl
  rcases left.value? (K := K) limit with _ | p
  · rfl
  · rfl

section Read

variable {ts : List Token} (hequals : equalsColumns ts = [])

include hequals

theorem isEquals_of_mem_body {t : Token} (ht : t ∈ body ts) : t.kind.isEquals = false := by
  rw [equalsColumns, List.map_eq_nil_iff, List.filter_eq_nil_iff] at hequals
  simpa using hequals t ((List.takeWhile_sublist _).subset ht)

theorem ofTokens_eq_ok_iff_left {e : Equation K} : Equation.ofTokens limit ts = .ok e ↔
    ∃ left : Phrase, left.kinds = (body ts).map (·.kind) ∧
      Sentence.value? limit ⟨left, none⟩ = some e := by
  rw [ofTokens_eq_ok_iff_of_equals (by rw [hequals]; exact Nat.zero_le 1)]
  constructor
  · rintro ⟨⟨left, right?⟩, hs, hvalue⟩
    have hnone : TokenKind.equals ∉ (body ts).map (·.kind) := by
      intro hmem
      obtain ⟨t, ht, hkind⟩ := List.mem_map.mp hmem
      have hother := isEquals_of_mem_body hequals ht
      rw [hkind] at hother
      exact Bool.noConfusion hother
    obtain rfl : right? = none := Sentence.right?_eq_none (hs ▸ hnone)
    exact ⟨left, by simpa [Sentence.kinds] using hs, hvalue⟩
  · rintro ⟨left, hleft, hvalue⟩
    exact ⟨⟨left, none⟩, by simpa [Sentence.kinds] using hleft, hvalue⟩

theorem right?_eq_none_of_ofTokens {e : Equation K} (h : Equation.ofTokens limit ts = .ok e) :
    e.right? = none := by
  obtain ⟨left, -, hvalue⟩ := (ofTokens_eq_ok_iff_left hequals).mp h
  rw [Sentence.value?] at hvalue
  obtain ⟨unknown?, -, hvalue⟩ := Option.bind_eq_some_iff.mp hvalue
  obtain ⟨p, -, hvalue⟩ := Option.bind_eq_some_iff.mp hvalue
  rw [← Option.some.inj hvalue]

/-- **The tokens that are read as an equation with a number as its right side**: those of one that
has no right side, and behind them a sign of equality and the number. -/
theorem ofTokens_append_number {ts' : List Token} {v : Float}
    (hequals' : (equalsColumns ts').length ≤ 1)
    (hkinds : (body ts').map (·.kind) = (body ts).map (·.kind) ++ [.equals, .number v])
    {e' : Equation K} : Equation.ofTokens limit ts' = .ok e' ↔
      ∃ e, Equation.ofTokens limit ts = .ok e ∧
        e' = { e with right? := some (.constant (Scalar.ofFloat v)) } := by
  rw [ofTokens_eq_ok_iff_of_equals hequals', hkinds]
  simp only [ofTokens_eq_ok_iff_left hequals]
  constructor
  · rintro ⟨s, hs, hvalue⟩
    obtain ⟨left, hleft, rfl⟩ := exists_left_of_kinds hs
    rw [value?_some_numberPhrase] at hvalue
    obtain ⟨e, he, rfl⟩ := Option.map_eq_some_iff.mp hvalue
    exact ⟨e, ⟨left, hleft, he⟩, rfl⟩
  · rintro ⟨e, ⟨left, hleft, hvalue⟩, rfl⟩
    refine ⟨⟨left, some (numberPhrase v)⟩, ?_, ?_⟩
    · rw [← hleft]
      rfl
    · rw [value?_some_numberPhrase, hvalue]
      rfl

end Read

end Grammar

/-! ## Zero as the right side -/

/-- Subtracting zero changes no coefficient, so that nothing is left to trim. -/
theorem Polynomial.sub_zero (p : Polynomial Float) : p.sub zero = p := by
  have hcoeffs : (List.range (max p.coeffs.length 0)).map (fun i => p.coeff i - 0) = p.coeffs := by
    refine List.ext_getElem (by simp) fun i _ hi => ?_
    rw [List.getElem_map, List.getElem_range, float_sub_positive_zero, coeff,
      List.getD_eq_getElem _ _ hi]
  calc p.sub zero = ofList p.coeffs := congrArg ofList hcoeffs
    _ = p := ofList_coeffs p

theorem normalized_zeroSide {e : Equation Float} (h : e.right? = none) :
    Equation.normalized { e with right? := some (.constant (Scalar.ofFloat 0)) } =
      e.normalized := by
  have hzero : Polynomial.constant (Scalar.ofFloat 0 : Float) = .zero := Polynomial.ext rfl
  rw [Equation.normalized, Equation.normalized, h]
  dsimp only
  rw [hzero, Polynomial.sub_zero]

/-! ## Texts -/

/-- The tokens of `= 0` behind a blank in the given column, and the end of input. -/
def zeroSide (column : Nat) : List Token :=
  [⟨.equals, "=", column + 1⟩, ⟨.number 0, "0", column + 3⟩, ⟨.endOfInput, "", column + 4⟩]

theorem scans_zeroSide (column : Nat) :
    Scans column [' ', '=', ' ', '0'] (.ok (zeroSide column)) := by
  have hblank : ∀ c ∈ [' '], isBlank c = true := List.forall_mem_singleton.mpr (by decide)
  have hzero : literalValue ['0'] = 0 := by decide
  have hspan : IsSpan isLiteralChar ['0'] [] :=
    ⟨by simp, List.forall_mem_singleton.mpr (by decide), by simp⟩
  have hnumber : Piece ['0'] [] (.number 0) := by
    have h : Piece ['0'] [] (.number (literalValue ['0'])) :=
      .number hspan ⟨⟨'0', by simp, by decide⟩, by decide, by rw [hzero]; decide⟩
    rwa [hzero] at h
  have hend : Scans (column + 4) [] (.ok [⟨.endOfInput, "", column + 4⟩]) := .stop (by simp)
  exact .token hblank (.symbol rfl) (.token hblank hnumber hend)

theorem tokens_append_zero_iff {text : String} {ts' : List Token} :
    tokens (text ++ " = 0") = .ok ts' ↔ ∃ ts, tokens text = .ok ts ∧
      ts' = body ts ++ zeroSide (1 + (composed text.toList).length) := by
  have hbehind : " = 0".toList = [' ', '=', ' ', '0'] := rfl
  refine tokens_append_eq_ok_iff ?_ ?_ (hbehind ▸ scans_zeroSide _)
  · rw [hbehind]
    simp [firstWhole]
  · intro c hc
    obtain rfl := Option.some.inj hc
    decide

theorem ofTokens_append_zeroSide {ts : List Token} {column : Nat} (hequals : equalsColumns ts = [])
    {e' : Equation K} : Equation.ofTokens limit (body ts ++ zeroSide column) = .ok e' ↔
      ∃ e, Equation.ofTokens limit ts = .ok e ∧
        e' = { e with right? := some (.constant (Scalar.ofFloat 0)) } := by
  refine Grammar.ofTokens_append_number hequals ?_ ?_
  · have hbody : (body ts).filter (·.kind.isEquals) = [] :=
      List.filter_eq_nil_iff.mpr fun t ht => by simp [Grammar.isEquals_of_mem_body hequals ht]
    rw [equalsColumns, List.filter_append, hbody]
    exact Nat.le_refl 1
  · have hbefore : ∀ t ∈ body ts, (!t.kind.isEnd) = true := by
      intro t ht
      exact List.mem_takeWhile_imp (p := fun t : Token => !t.kind.isEnd) ht
    rw [body, List.takeWhile_append_of_pos hbefore, List.map_append]
    rfl

section Parse

variable {text : String} (h : '=' ∉ composed text.toList)

include h

theorem equalsColumns_eq_nil {ts : List Token} (hts : tokens text = .ok ts) :
    equalsColumns ts = [] := by
  rw [(scans_text text).equalsColumns_eq hts, signColumns_eq_nil h]

theorem right?_eq_none_of_parse {e : Equation K} (he : Equation.parse limit text = .ok e) :
    e.right? = none := by
  obtain ⟨ts, hts, hof⟩ := Equation.exists_tokens_of_parse he
  exact Grammar.right?_eq_none_of_ofTokens (equalsColumns_eq_nil h hts) hof

/-- **What is read with `= 0` behind it** is what is read without, with zero as the right side. -/
theorem parse_append_zero_iff {e' : Equation K} : Equation.parse limit (text ++ " = 0") = .ok e' ↔
    ∃ e, Equation.parse limit text = .ok e ∧
      e' = { e with right? := some (.constant (Scalar.ofFloat 0)) } := by
  have hparse {text : String} {ts : List Token} (hts : tokens text = .ok ts) :
      Equation.parse (K := K) limit text = Equation.ofTokens limit ts := by
    rw [Equation.parse, hts]
  constructor
  · intro he'
    obtain ⟨ts', hts', hof⟩ := Equation.exists_tokens_of_parse he'
    obtain ⟨ts, hts, rfl⟩ := tokens_append_zero_iff.mp hts'
    rw [hparse hts]
    exact (ofTokens_append_zeroSide (equalsColumns_eq_nil h hts)).mp hof
  · rintro ⟨e, he, rfl⟩
    obtain ⟨ts, hts, hof⟩ := Equation.exists_tokens_of_parse he
    rw [hparse (tokens_append_zero_iff.mpr ⟨ts, hts, rfl⟩)]
    exact (ofTokens_append_zeroSide (equalsColumns_eq_nil h hts)).mpr ⟨e, hof, rfl⟩

end Parse

/-! ## Answers -/

namespace RealRoots

variable {settings : NewtonSettings} {places : Nat}

theorem answer_zeroSide {e : Equation Float} (h : e.right? = none) :
    answer settings places { e with right? := some (.constant (Scalar.ofFloat 0)) } =
      answer settings places e := by
  rw [answer, answer, normalized_zeroSide h]
  rfl

theorem solve_of_parse {text : String} {e : Equation Float}
    (h : Equation.parse limit text = .ok e) :
    solve settings places limit text = answer settings places e := by
  rw [solve, h]
  rfl

/-- **A missing right side counts as zero.** Under all settings, a text whose composed form has no
sign of equality has an answer if and only if it has one with `= 0` behind it, and the answer is
the same. -/
theorem solve_append_zero (settings : NewtonSettings) (places limit : Nat) {text : String}
    (h : '=' ∉ composed text.toList) (answered : String) :
    solve settings places limit text = .ok answered ↔
      solve settings places limit (text ++ " = 0") = .ok answered := by
  constructor
  · intro hsolved
    obtain ⟨e, he, hanswer⟩ := exists_parse_of_solve hsolved
    have hright := right?_eq_none_of_parse h he
    rw [solve_of_parse ((parse_append_zero_iff h).mpr ⟨e, he, rfl⟩), answer_zeroSide hright,
      hanswer]
  · intro hsolved
    obtain ⟨e', he', hanswer⟩ := exists_parse_of_solve hsolved
    obtain ⟨e, he, rfl⟩ := (parse_append_zero_iff h).mp he'
    have hright := right?_eq_none_of_parse h he
    rw [solve_of_parse he, ← answer_zeroSide hright, hanswer]

/-- An unknown with an accent that is typed behind it, and a constant coefficient that is a negative
zero. -/
theorem solve_append_zero_accent : '=' ∉ composed "-3e\u0301".toList ∧
    solve {} 6 64 "-3e\u0301" = .ok "é = 0" ∧
    solve {} 6 64 ("-3e\u0301" ++ " = 0") = .ok "é = 0" := by
  have hsolved : (solve {} 6 64 "-3e\u0301").toOption.map id = some "é = 0" := by decide +kernel
  have hequals : '=' ∉ composed "-3e\u0301".toList := by decide +kernel
  obtain ⟨answered, hok, rfl⟩ := exists_ok_of_toOption_map hsolved
  exact ⟨hequals, hok, (solve_append_zero {} 6 64 hequals _).mp hok⟩

end RealRoots

end OneUnknown
