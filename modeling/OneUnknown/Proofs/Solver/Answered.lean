import OneUnknown.Proofs.Grammar.Reading
import OneUnknown.Proofs.Solver.TextCheck
import OneUnknown.Solver

/-!
# Texts that have an answer

Every answer begins with an equation that was read, whatever the kind. So the text is one of
tokens, its composed form has one letter at most, however often that stands there, and it has no
character that tokens lack.

* **`exists_parse_of_solve`**: the equation behind an answer;
* `Equation.exists_tokens_of_parse`: the tokens behind an equation;
* **`Equation.letter_unique`**: they have one letter at most;
* `punctuation`, **`Equation.not_punctuation`**: signs that no such text has.
-/

namespace OneUnknown

open CodeRange (holds holds_eq_true_iff Apart)

variable {K : Type} [Scalar K] {limit : Nat} {text : String} {e : Equation K}

/-! ## The equation behind an answer -/

theorem exists_of_bind_eq_ok {α β : Type} {x : SolveResult α} {f : α → SolveResult β} {b : β}
    (h : x >>= f = .ok b) : ∃ a, x = .ok a ∧ f a = .ok b := by
  rcases x with error | a
  · cases h
  · exact ⟨a, rfl, h⟩

section Solve

variable {settings : Settings} {places : Nat} {answer : String}

theorem Linear.exists_parse_of_solve (h : Linear.solve places limit text = .ok answer) :
    ∃ e, Equation.parse limit text = .ok e ∧ Linear.answer places e = .ok answer := by
  obtain ⟨_, -, h⟩ := exists_of_bind_eq_ok h
  exact exists_of_bind_eq_ok h

theorem Quadratic.exists_parse_of_solve (h : Quadratic.solve places limit text = .ok answer) :
    ∃ q, Quadratic.parse limit text = .ok q ∧ q.rootsText places = .ok answer :=
  exists_of_bind_eq_ok h

theorem RealRoots.exists_parse_of_solve {newton : NewtonSettings}
    (h : RealRoots.solve newton places limit text = .ok answer) :
    ∃ e, Equation.parse limit text = .ok e ∧ RealRoots.answer newton places e = .ok answer :=
  exists_of_bind_eq_ok h

/-- **An answer needs an equation.** -/
theorem exists_parse_of_solve {kind : EquationKind} (h : solve settings kind text = .ok answer) :
    ∃ e, Equation.parse (K := Float) settings.maxDegree (trimString text) = .ok e := by
  unfold solve at h
  simp only [] at h
  split at h
  · cases h
  split at h
  · obtain ⟨e, hparse, -⟩ := Linear.exists_parse_of_solve h
    exact ⟨e, hparse⟩
  · obtain ⟨q, hq, -⟩ := Quadratic.exists_parse_of_solve h
    obtain ⟨e, hparse, -⟩ := exists_of_bind_eq_ok hq
    exact ⟨e, hparse⟩
  · obtain ⟨e, hparse, -⟩ := RealRoots.exists_parse_of_solve h
    exact ⟨e, hparse⟩
  · cases h

end Solve

/-! ## Its tokens -/

namespace Equation

theorem exists_tokens_of_parse (h : parse limit text = .ok e) :
    ∃ ts, tokens text = .ok ts ∧ ofTokens limit ts = .ok e := by
  rw [parse] at h
  rcases htokens : tokens text with error | ts
  · rw [htokens] at h
    cases h
  · rw [htokens] at h
    exact ⟨ts, rfl, h⟩

theorem soleLetter?_ne_none {ts : List Token} (h : ofTokens limit ts = .ok e) :
    Grammar.soleLetter? ((body ts).map (·.kind)) ≠ none := by
  have hequals : (equalsColumns ts).length ≤ 1 := by
    rw [ofTokens] at h
    rcases hcolumns : equalsColumns ts with _ | ⟨first, _ | ⟨second, others⟩⟩
    · exact Nat.zero_le 1
    · exact Nat.le_refl 1
    · simp [hcolumns] at h
  obtain ⟨s, hkinds, hvalue⟩ := (Grammar.ofTokens_eq_ok_iff_of_equals hequals).mp h
  intro hnone
  rw [← hkinds] at hnone
  simp [Grammar.Sentence.value?, hnone] at hvalue

theorem eq_of_soleLetter? {kinds : List TokenKind} (h : Grammar.soleLetter? kinds ≠ none)
    {c d : Char} (hc : .letter c ∈ kinds) (hd : .letter d ∈ kinds) : c = d := by
  unfold Grammar.soleLetter? at h
  generalize hnames : kinds.filterMap _ = names at h
  have hmem : ∀ {name}, TokenKind.letter name ∈ kinds → name ∈ names := by
    intro name hname
    rw [← hnames]
    exact List.mem_filterMap.mpr ⟨_, hname, rfl⟩
  cases names with
  | nil => exact absurd (hmem hc) List.not_mem_nil
  | cons name names =>
    have hall : ∀ c ∈ names, c = name := by
      by_contra hne
      simp only [if_neg (show ¬ names.all (· = name) = true by simpa using hne)] at h
      exact h rfl
    have hname : ∀ {c}, TokenKind.letter c ∈ kinds → c = name :=
      fun hc => (List.mem_cons.mp (hmem hc)).elim id (hall _)
    rw [hname hc, hname hd]

/-- **The letters of an equation are all the same** in its composed form. -/
theorem letter_unique (h : parse limit text = .ok e) {c d : Char}
    (hc : c ∈ composed text.toList) (hletter : isIdentifierStart c = true)
    (hd : d ∈ composed text.toList) (hletter' : isIdentifierStart d = true) : c = d := by
  obtain ⟨ts, hts, hread⟩ := exists_tokens_of_parse h
  obtain ⟨stop, hstop, hbody⟩ := exists_body_append hts
  have hmem : ∀ {name}, name ∈ composed text.toList → isIdentifierStart name = true →
      .letter name ∈ (body ts).map (·.kind) := by
    intro name hname hstart
    obtain ⟨t, ht, hkind⟩ := ((scans_text text).letter_iff hts name).mpr ⟨hname, hstart⟩
    rw [← hbody, List.mem_append, List.mem_singleton] at ht
    rcases ht with ht | rfl
    · exact List.mem_map.mpr ⟨t, ht, hkind⟩
    · rw [hkind] at hstop
      exact Bool.noConfusion hstop
  exact eq_of_soleLetter? (soleLetter?_ne_none hread) (hmem hc hletter) (hmem hd hletter')

/-! ## Signs without a token -/

/-- The colon and the question mark. -/
def punctuation : List CodeRange := [(0x003A, 0x003A), (0x003F, 0x003F)]

theorem isForeign_punctuation : IsForeign punctuation where
  kept := {
    parted := by decide +kernel
    hangul := ⟨false, rfl, fun code h => not_isLetter_of_holds (by decide) h⟩
    ofNat := CodeRange.holds_ofNat (by decide) }
  apart := by decide +kernel

/-- **An equation has neither a colon nor a question mark.** -/
theorem not_punctuation (h : parse limit text = .ok e) {c : Char} (hc : c ∈ text.toList) :
    c ≠ ':' ∧ c ≠ '?' := by
  obtain ⟨ts, hts, -⟩ := exists_tokens_of_parse h
  have hnone := isForeign_punctuation.any_eq_false
    fun c hc => (scans_text text).isLexical_of_mem hts hc
  have hc' := List.any_eq_false.mp hnone c hc
  constructor <;> rintro rfl <;> exact hc' (by decide)

end Equation

end OneUnknown
