import OneUnknown.Proofs.Number.Decimal
import OneUnknown.Proofs.RealRoots.Found
import OneUnknown.Proofs.Solver.Answered

/-!
# Answers with an infinity or `NaN`

No solution is checked for being finite once it has been computed, nor is its multiple by the power
of ten that it is rounded with. So an answer shows an infinity or `NaN` just if one of the computed
solutions cannot be written. Those that are shown as fractions of whole numbers or as radicals are
never too great for that.

* `infix_append_cons_iff`, `showsNonFinite_assignment`: texts put together from others;
* **`showsNonFinite_fractionText`**: quotients;
* `Quadratic.writable_of_asInteger?`: solutions that are shown as radicals;
* `Linear.solutions`, `QuadraticRoots.parts`, `findRoots`: the solutions as they are computed;
* `isFinite_of_mem_rootCandidates`: roots before they are rounded;
* **`showsNonFinite_iff`**: the answers with an infinity or `NaN`;
* `Linear.solve_shows_infinity`: a finite solution that is shown as an infinity.
-/

namespace OneUnknown

variable {places limit : Nat} {text answer : String}

/-! ## Texts put together from others -/

theorem infix_append_cons_iff {α : Type} {separator : α} {word xs ys : List α}
    (h : separator ∉ word) :
    word <:+: xs ++ separator :: ys ↔ word <:+: xs ∨ word <:+: ys := by
  have hstart : ∀ {w}, separator ∉ w → w <+: separator :: ys → w = [] := by
    intro w hw hpre
    rcases w with _ | ⟨a, w⟩
    · rfl
    · obtain ⟨rfl, -⟩ := List.cons_prefix_cons.mp hpre
      exact absurd List.mem_cons_self hw
  rw [List.infix_append_iff_ne_nil, List.infix_cons_iff]
  constructor
  · rintro (hx | (hpre | hy) | ⟨w₁, w₂, -, hne, rfl, -, hpre⟩)
    · exact .inl hx
    · rw [hstart h hpre]
      exact .inl List.nil_infix
    · exact .inr hy
    · exact absurd (hstart (fun hmem => h (List.mem_append_right w₁ hmem)) hpre) hne
  · rintro (hx | hy)
    · exact .inl hx
    · exact .inr (.inl (.inr hy))

theorem showsNonFinite_cut (first : String) (separator : Char) (second : String)
    (hseparator : separator ∉ "infNaN".toList)
    (h : text.toList = first.toList ++ separator :: second.toList) :
    ShowsNonFinite text ↔ ShowsNonFinite first ∨ ShowsNonFinite second := by
  have hinf : separator ∉ "inf".toList := fun hmem =>
    hseparator ((show "inf".toList ⊆ "infNaN".toList by decide) hmem)
  have hnan : separator ∉ "NaN".toList := fun hmem =>
    hseparator ((show "NaN".toList ⊆ "infNaN".toList by decide) hmem)
  rw [ShowsNonFinite, h, infix_append_cons_iff hinf, infix_append_cons_iff hnan]
  exact or_or_or_comm

theorem not_showsNonFinite_of_length_lt (text : String) (h : text.toList.length < 3) :
    ¬ ShowsNonFinite text := by
  rintro (hmem | hmem)
  · exact absurd hmem.length_le h.not_ge
  · exact absurd hmem.length_le h.not_ge

theorem showsNonFinite_assignment (name : Char) (value : String) :
    ShowsNonFinite (assignment name value) ↔ ShowsNonFinite value := by
  have hname : ¬ ShowsNonFinite (name.toString ++ " =") := by
    rw [showsNonFinite_cut name.toString ' ' "=" (by decide) (by simp [String.toList_append]),
      not_or]
    exact ⟨not_showsNonFinite_of_length_lt _ (by simp),
      not_showsNonFinite_of_length_lt _ (by decide)⟩
  rw [showsNonFinite_cut (name.toString ++ " =") ' ' value (by decide)
    (by rw [Quadratic.toList_assignment]; simp [String.toList_append]), or_iff_right hname]

theorem showsNonFinite_join (first second : String) :
    ShowsNonFinite (first ++ ", " ++ second) ↔ ShowsNonFinite first ∨ ShowsNonFinite second := by
  have hblank : ShowsNonFinite (" " ++ second) ↔ ShowsNonFinite second := by
    rw [showsNonFinite_cut "" ' ' second (by decide) (by simp [String.toList_append]),
      or_iff_right (not_showsNonFinite_of_length_lt "" (by decide))]
  rw [showsNonFinite_cut first ',' (" " ++ second) (by decide) (by simp [String.toList_append]),
    hblank]

theorem showsNonFinite_pairText (name : Char) (first second : String) :
    ShowsNonFinite (pairText name first second) ↔
      ShowsNonFinite first ∨ ShowsNonFinite second := by
  rw [pairText, showsNonFinite_join, showsNonFinite_assignment, showsNonFinite_assignment]

/-- The imaginary unit does not end the name of an infinity or of `NaN`. -/
theorem showsNonFinite_append_i (im : String) :
    ShowsNonFinite (im ++ "i") ↔ ShowsNonFinite im := by
  have hlast : ∀ {word : List Char}, word.getLast? ≠ some 'i' → word ≠ [] →
      (word <:+: im.toList ++ ['i'] ↔ word <:+: im.toList) := by
    intro word hword hne
    rw [List.infix_concat_iff, List.suffix_concat_iff]
    refine or_iff_right ?_
    rintro (rfl | ⟨w, rfl, -⟩)
    · exact hne rfl
    · exact hword List.getLast?_concat
  rw [ShowsNonFinite, String.toList_append, show "i".toList = ['i'] by decide,
    hlast (by decide) (by decide), hlast (by decide) (by decide), ShowsNonFinite]

theorem showsNonFinite_complexText (name : Char) (re : String) (reIsZero : Bool) (im : String) :
    ShowsNonFinite (complexText name re reIsZero im) ↔
      reIsZero = false ∧ ShowsNonFinite re ∨ ShowsNonFinite im := by
  cases reIsZero with
  | true =>
    rw [complexText, if_pos rfl, showsNonFinite_assignment,
      showsNonFinite_cut "" '±' (im ++ "i") (by decide) (by simp [String.toList_append]),
      or_iff_right (not_showsNonFinite_of_length_lt "" (by decide)), showsNonFinite_append_i]
    simp
  | false =>
    rw [complexText, if_neg (by decide), showsNonFinite_assignment,
      showsNonFinite_cut (re ++ " ±") ' ' (im ++ "i") (by decide)
        (by simp [String.toList_append]),
      showsNonFinite_cut re ' ' "±" (by decide) (by simp [String.toList_append]),
      or_iff_left (not_showsNonFinite_of_length_lt "±" (by decide)), showsNonFinite_append_i]
    simp

theorem showsNonFinite_intercalate (texts : List String) :
    ShowsNonFinite (", ".intercalate texts) ↔ ∃ t ∈ texts, ShowsNonFinite t := by
  induction texts with
  | nil => exact iff_of_false (by decide) (by simp)
  | cons t texts ih =>
    rcases texts with _ | ⟨u, texts⟩
    · simp
    · rw [String.intercalate_cons_cons, showsNonFinite_join, ih]
      simp

/-! ## Radicals and quotients -/

theorem Radical.not_showsNonFinite_text (r : Radical) : ¬ ShowsNonFinite r.text := by
  refine not_showsNonFinite (fun h => ?_) (fun h => ?_)
  · rcases Radical.mem_text h with h | h <;> exact absurd h (by decide)
  · rcases Radical.mem_text h with h | h <;> exact absurd h (by decide)

theorem writable_div_of_asInteger? {x y : Float} {n d : Int} (hx : asInteger? x = some n)
    (hy : asInteger? y = some d) (hd : d ≠ 0) (h : places ≤ 15) : Writable places (x / y) :=
  ((bounded_of_asInteger? hx).div (bounded_of_asInteger? hy).1 (le_abs_of_asInteger? hy hd)
    (by decide)).writable (by decide) h

/-- **The text of a quotient** shows an infinity or `NaN` just if the quotient cannot be written. -/
theorem showsNonFinite_fractionText {n d : Float} {s : String} (h : places ≤ 15)
    (hs : fractionText places n d = .ok s) : ShowsNonFinite s ↔ ¬ Writable places (n / d) := by
  unfold fractionText at hs
  split at hs
  · cases hs
  split at hs
  · rename_i a b ha hb
    have hb₀ : b ≠ 0 := by
      rintro rfl
      rw [Radical.fraction_zero] at hs
      cases hs
    obtain ⟨r, hr⟩ := Radical.exists_fraction hb₀ a
    rw [hr] at hs
    obtain rfl : r.text = s := Except.ok.inj hs
    exact iff_of_false r.not_showsNonFinite_text
      (not_not.mpr (writable_div_of_asInteger? ha hb hb₀ h))
  · obtain rfl := Except.ok.inj hs
    exact showsNonFinite_decimalText_iff h

/-! ## Linear equations -/

namespace Linear

/-- **The solutions of a linear equation** as they are computed. -/
def solutions (e : Equation Float) : List Float :=
  if e.normalized.degree? = some 1 then [-e.normalized.coeff 0 / e.normalized.coeff 1] else []

theorem showsNonFinite_answer {e : Equation Float} (h : places ≤ 15)
    (hanswer : Linear.answer places e = .ok answer) :
    ShowsNonFinite answer ↔ ∃ x ∈ solutions e, ¬ Writable places x := by
  unfold Linear.answer at hanswer
  unfold solutions
  rcases hdegree : e.normalized.degree? with _ | _ | _ | degree <;>
    simp only [hdegree] at hanswer ⊢
  · obtain rfl := Except.ok.inj hanswer
    exact iff_of_false (by decide) (by simp)
  · obtain rfl := Except.ok.inj hanswer
    exact iff_of_false (by decide) (by simp)
  · obtain ⟨s, hs, hanswer⟩ := exists_of_bind_eq_ok hanswer
    obtain rfl := Except.ok.inj hanswer
    rw [showsNonFinite_assignment, showsNonFinite_fractionText h hs]
    simp
  · cases hanswer

end Linear

/-! ## Quadratic equations -/

/-- **The numbers that the solutions of a quadratic equation consist of.** -/
def QuadraticRoots.parts : QuadraticRoots → List Float
  | .distinct first second => [first, second]
  | .repeated root => [root]
  | .complex re im => [re, im]

namespace Quadratic

section Writable

variable {x y z : Float} {a b c : Int} (hx : asInteger? x = some a) (ha : a ≠ 0)

include hx ha in
theorem le_abs_two_mul : (2 * x).isFinite = true ∧ 1 ≤ |exactValue (2 * x)| * 2 ^ 30 := by
  have htwo : exactValue 2 = 2 := exactValue_ofNat (n := 2) (by decide)
  obtain ⟨hfinite, hle⟩ := bounded_of_asInteger? hx
  have hge := le_abs_of_asInteger? hx ha
  have habs : |2 * exactValue x| = 2 * |exactValue x| := by rw [abs_mul, abs_two]
  obtain ⟨hfinite', herror⟩ : Near (2 * x) (2 * exactValue x) := by
    refine near_mul_of_le (by decide) hfinite (by rw [htwo]) (.inr ?_) ?_
    · rw [habs]
      norm_num at hge ⊢
      linarith
    · rw [habs]
      norm_num at hle ⊢
      linarith
  refine ⟨hfinite', ?_⟩
  have hnear := le_abs_of_abs_sub_le herror
  rw [habs] at hnear
  norm_num at hge hnear ⊢
  linarith

theorem bounded_discriminant (hx : asInteger? x = some a) (hy : asInteger? y = some b)
    (hz : asInteger? z = some c) : Bounded (2 * 55) (y * y - 4 * x * z) := by
  have hfour : Bounded 2 4 := by
    refine ⟨by decide, ?_⟩
    rw [show (4 : Float) = Float.ofNat 4 from rfl, exactValue_ofNat (by decide)]
    norm_num
  have hsquare : Bounded 108 (y * y) :=
    ((bounded_of_asInteger? hy).mul (bounded_of_asInteger? hy) (by decide)).mono (by decide)
  have hproduct : Bounded 108 (4 * x * z) :=
    (hfour.mul (bounded_of_asInteger? hx) (by decide)).mul (bounded_of_asInteger? hz) (by decide)
  exact hsquare.sub hproduct (by decide)

include hx ha in
/-- **The solutions of an equation that is answered with radicals** can be written. -/
theorem writable_of_asInteger? (hy : asInteger? y = some b) (hz : asInteger? z = some c)
    (h : places ≤ 15) : ∀ r ∈ (roots x y z).parts, Writable places r := by
  have hΔ := bounded_discriminant hx hy hz
  obtain ⟨htwice, htwice₁⟩ := le_abs_two_mul hx ha
  have hhalf : ∀ {n : Float}, Bounded 58 n → Writable places (n / (2 * x)) := fun hn =>
    (hn.div htwice htwice₁ (by decide)).writable (by decide) h
  have hneg : Bounded 56 (-y) := (bounded_of_asInteger? hy).neg.mono (by decide)
  have hpositive := lt_iff_exactValue (x := 0) (by decide) hΔ.1
  rw [exactValue_zero] at hpositive
  simp only [roots]
  split
  · simpa [QuadraticRoots.parts] using hhalf (hneg.mono (by decide))
  split
  · rename_i hlt
    have hroot : Bounded 56 (y * y - 4 * x * z).sqrt :=
      hΔ.sqrt (hpositive.mp hlt).le (by decide)
    simpa [QuadraticRoots.parts] using
      ⟨hhalf (hneg.add hroot (by decide)), hhalf (hneg.sub hroot (by decide))⟩
  · rename_i hge
    have hΔ₀ : 0 ≤ exactValue (-(y * y - 4 * x * z)) := by
      rw [exactValue_neg]
      linarith [not_lt.mp (hpositive.not.mp hge)]
    have hroot : Bounded 56 (-(y * y - 4 * x * z)).sqrt := hΔ.neg.sqrt hΔ₀ (by decide)
    have him : Writable places ((-(y * y - 4 * x * z)).sqrt / (2 * x).abs) := by
      refine (hroot.div (l := 30) (by rwa [abs_isFinite]) ?_ (by decide)).writable (by decide) h
      rwa [exactValue_abs, abs_abs]
    simpa [QuadraticRoots.parts] using ⟨hhalf (hneg.mono (by decide)), him⟩

end Writable

theorem showsNonFinite_decimalRoots (h : places ≤ 15) (q : Quadratic) :
    ShowsNonFinite (q.decimalRoots places) ↔
      ∃ x ∈ (roots q.a q.b q.c).parts, ¬ Writable places x := by
  unfold decimalRoots
  rcases roots q.a q.b q.c with ⟨r₁, r₂⟩ | r | ⟨re, im⟩
  · rw [showsNonFinite_pairText, showsNonFinite_decimalText_iff h,
      showsNonFinite_decimalText_iff h]
    simp [QuadraticRoots.parts]
  · rw [showsNonFinite_assignment, showsNonFinite_decimalText_iff h]
    simp [QuadraticRoots.parts]
  · rw [showsNonFinite_complexText, showsNonFinite_decimalText_iff h,
      showsNonFinite_decimalText_iff h]
    -- The real part is left out only if it is zero, and zero can be written.
    have hzero : (re == 0) = true → Writable places re := by
      intro hre
      obtain ⟨s, hs⟩ := exists_unpacked_of_beq_zero hre
      refine Bounded.writable (k := 0) ⟨isFinite_iff.mpr (.inl ⟨s, hs⟩), ?_⟩ (by decide) h
      rw [exactValue_eq, hs]
      norm_num [valueOf]
    cases hre : re == 0 with
    | true => simp [QuadraticRoots.parts, hzero hre]
    | false => simp [QuadraticRoots.parts]

theorem Shown.not_showsNonFinite_text (name : Char) (s : Shown) :
    ¬ ShowsNonFinite (s.text name) := by
  rcases s with ⟨r₁, r₂⟩ | r | ⟨re, im⟩
  · rw [Shown.text, showsNonFinite_pairText]
    exact not_or.mpr ⟨r₁.not_showsNonFinite_text, r₂.not_showsNonFinite_text⟩
  · rw [Shown.text, showsNonFinite_assignment]
    exact r.not_showsNonFinite_text
  · rw [Shown.text, showsNonFinite_complexText]
    exact not_or.mpr ⟨fun h => re.not_showsNonFinite_text h.2, im.not_showsNonFinite_text⟩

/-- **The answer to a quadratic equation** shows an infinity or `NaN` just if a solution cannot be
written. -/
theorem showsNonFinite_rootsText {q : Quadratic} (h : places ≤ 15)
    (hanswer : q.rootsText places = .ok answer) :
    ShowsNonFinite answer ↔ ∃ x ∈ (roots q.a q.b q.c).parts, ¬ Writable places x := by
  have hdecimal := showsNonFinite_decimalRoots h q
  unfold rootsText at hanswer
  split at hanswer
  · rename_i a b c ha hb hc
    split at hanswer
    · rename_i D hD
      have ha₀ : a ≠ 0 := by
        rintro rfl
        rw [exactText_zero_leading] at hanswer
        cases hanswer
      obtain ⟨s, hs, -⟩ := exists_shown q.name ha₀ b D
      rw [hs] at hanswer
      obtain rfl := Except.ok.inj hanswer
      refine iff_of_false ?_ (by simpa using writable_of_asInteger? ha ha₀ hb hc h)
      exact Shown.not_showsNonFinite_text q.name s
    · obtain rfl := Except.ok.inj hanswer
      exact hdecimal
  · obtain rfl := Except.ok.inj hanswer
    exact hdecimal

end Quadratic

/-! ## Equations of any degree -/

theorem degree_eq_zero_of_degree? {p : Polynomial Float}
    (h : p.degree? = none ∨ p.degree? = some 0) : p.degree = 0 := by
  rcases h with h | h <;> rw [Polynomial.degree_eq_getD, h] <;> rfl

theorem isFinite_of_mem_rootCandidates {settings : NewtonSettings} {p : Polynomial Float}
    (hseeds : ∀ seed ∈ settings.seeds, seed.isFinite = true) {x : Float}
    (hx : x ∈ rootCandidates settings p) : x.isFinite = true := by
  simp only [rootCandidates, List.mem_append] at hx
  rcases hx with hx | hx
  · split at hx
    · obtain rfl := List.mem_singleton.mp hx
      decide
    · cases hx
  · split at hx
    · obtain ⟨seed, hseed, hnewton⟩ := List.mem_filterMap.mp hx
      exact isFinite_of_newton (hseeds seed hseed) hnewton
    · cases hx

theorem exists_showsNonFinite_iff {roots : List Float} {texts : List String} (h : places ≤ 15)
    (htexts : (roots.mapM fun r => fractionText places r 1) = .ok texts) :
    (∃ t ∈ texts, ShowsNonFinite t) ↔ ∃ x ∈ roots, ¬ Writable places x := by
  induction roots generalizing texts with
  | nil =>
    obtain rfl : [] = texts := Except.ok.inj htexts
    simp
  | cons x roots ih =>
    rw [List.mapM_cons] at htexts
    obtain ⟨t, hx, htexts⟩ := exists_of_bind_eq_ok htexts
    obtain ⟨ts, hrest, htexts⟩ := exists_of_bind_eq_ok htexts
    obtain rfl : t :: ts = texts := Except.ok.inj htexts
    have hfirst := showsNonFinite_fractionText h hx
    rw [float_div_one] at hfirst
    rw [List.exists_mem_cons_iff, List.exists_mem_cons_iff, hfirst, ih hrest]

/-- **The answer to a polynomial equation** shows an infinity or `NaN` just if a root that has been
found cannot be written. -/
theorem RealRoots.showsNonFinite_answer {settings : NewtonSettings} {e : Equation Float}
    (h : places ≤ 15) (hanswer : RealRoots.answer settings places e = .ok answer) :
    ShowsNonFinite answer ↔
      ∃ x ∈ findRoots settings places e.normalized, ¬ Writable places x := by
  have hconstant : e.normalized.degree? = none ∨ e.normalized.degree? = some 0 →
      findRoots settings places e.normalized = [] := fun hdegree =>
    findRoots_of_degree_eq_zero settings places (degree_eq_zero_of_degree? hdegree)
  unfold RealRoots.answer at hanswer
  dsimp only at hanswer
  split at hanswer
  · rename_i hdegree
    obtain rfl := Except.ok.inj hanswer
    rw [hconstant (.inl hdegree)]
    exact iff_of_false (by decide) (by simp)
  · rename_i hdegree
    obtain rfl := Except.ok.inj hanswer
    rw [hconstant (.inr hdegree)]
    exact iff_of_false (by decide) (by simp)
  · split at hanswer
    · rename_i hroots
      obtain rfl := Except.ok.inj hanswer
      rw [hroots]
      exact iff_of_false (by decide) (by simp)
    · obtain ⟨texts, htexts⟩ := exists_mapM_eq_ok (exists_fractionText_one places)
        (findRoots settings places e.normalized)
      rw [htexts] at hanswer
      obtain rfl := Except.ok.inj hanswer
      rw [showsNonFinite_intercalate, ← exists_showsNonFinite_iff h htexts]
      simp [showsNonFinite_assignment]

/-! ## Texts -/

theorem Settings.bounds_of_fault? {settings : Settings} (h : settings.fault? = none) :
    settings.decimalPlaces ≤ 15 ∧ ∀ seed ∈ settings.newton.seeds, seed.isFinite = true := by
  have husable := Settings.fault?_eq_none_iff.mp h
  exact ⟨husable.places_le, husable.finite_seeds⟩

/-- **The answers with an infinity or `NaN`.** With settings that are accepted, an answer shows one
just if some solution that has been computed is not finite, or is too great to be multiplied by the
power of ten that it is rounded with. The roots of a polynomial are finite before they are
rounded. -/
theorem showsNonFinite_iff {settings : Settings} (h : settings.fault? = none) (text : String) :
    let places := settings.decimalPlaces
    let limit := settings.maxDegree
    (∀ answer, Linear.solve places limit text = .ok answer →
      (ShowsNonFinite answer ↔ ∃ e, Equation.parse limit text = .ok e ∧
        ∃ x ∈ Linear.solutions e, ¬ Writable places x)) ∧
    (∀ answer, Quadratic.solve places limit text = .ok answer →
      (ShowsNonFinite answer ↔ ∃ q, Quadratic.parse limit text = .ok q ∧
        ∃ x ∈ (Quadratic.roots q.a q.b q.c).parts, ¬ Writable places x)) ∧
    (∀ answer, RealRoots.solve settings.newton places limit text = .ok answer →
      (ShowsNonFinite answer ↔ ∃ e, Equation.parse limit text = .ok e ∧
        ∃ x ∈ findRoots settings.newton places e.normalized, ¬ Writable places x)) ∧
    ∀ p, ∀ x ∈ rootCandidates settings.newton p, x.isFinite = true := by
  intro places limit
  obtain ⟨hplaces, hseeds⟩ := Settings.bounds_of_fault? h
  refine ⟨fun answer hanswer => ?_, fun answer hanswer => ?_, fun answer hanswer => ?_,
    fun p x => isFinite_of_mem_rootCandidates hseeds⟩
  · obtain ⟨e, hparse, hanswer⟩ := Linear.exists_parse_of_solve hanswer
    rw [Linear.showsNonFinite_answer hplaces hanswer]
    simp [places, limit, hparse]
  · obtain ⟨q, hparse, hanswer⟩ := Quadratic.exists_parse_of_solve hanswer
    rw [Quadratic.showsNonFinite_rootsText hplaces hanswer]
    simp [places, limit, hparse]
  · obtain ⟨e, hparse, hanswer⟩ := RealRoots.exists_parse_of_solve hanswer
    rw [RealRoots.showsNonFinite_answer hplaces hanswer]
    simp [places, limit, hparse]

/-- The unknown is one followed by 303 zeros. -/
def hugeText : List Char := "x = 1".toList ++ List.replicate 303 '0'

def hugeEquation : String := String.ofList hugeText

set_option maxRecDepth 100000 in
theorem Linear.solve_huge : Linear.solve 6 64 hugeEquation = .ok "x = inf" ∧
    ∃ e, Equation.parse 64 hugeEquation = .ok e ∧ ∃ x ∈ Linear.solutions e, x.isFinite = true := by
  have htext : hugeEquation.toList = hugeText := String.toList_ofList
  have hcheck : (Linear.checkText hugeText).toOption.map id = some () := by decide +kernel
  have hread : ((Cursor.tokens ⟨1, composed hugeText⟩).toOption.map fun ts =>
      (Equation.ofTokens 64 ts).toOption.map fun e =>
        ((Linear.answer 6 e).toOption.map id, (Linear.solutions e).any Float.isFinite)) =
      some (some (some "x = inf", true)) := by
    decide +kernel
  obtain ⟨⟨⟩, hcheck, -⟩ := exists_ok_of_toOption_map hcheck
  obtain ⟨ts, hts, hread⟩ := exists_ok_of_toOption_map hread
  obtain ⟨e, he, hread⟩ := exists_ok_of_toOption_map hread
  obtain ⟨hanswer, hfinite⟩ := Prod.mk.inj hread
  obtain ⟨answer, hanswer, rfl⟩ := exists_ok_of_toOption_map hanswer
  have hparse : Equation.parse 64 hugeEquation = .ok e := by
    rw [Equation.parse, tokens, Cursor.start, htext, hts]
    exact he
  refine ⟨?_, e, hparse, List.any_eq_true.mp hfinite⟩
  rw [Linear.solve, htext, hcheck, hparse]
  exact hanswer

/-- **A solution that is shown as an infinity although it is finite.** Its product with a million is
not. -/
theorem Linear.solve_shows_infinity : ({} : Settings).fault? = none ∧
    Linear.solve ({} : Settings).decimalPlaces ({} : Settings).maxDegree hugeEquation =
      .ok "x = inf" ∧
    ShowsNonFinite "x = inf" ∧
    ∃ e, Equation.parse ({} : Settings).maxDegree hugeEquation = .ok e ∧
      ∃ x ∈ Linear.solutions e, x.isFinite = true :=
  ⟨by decide, Linear.solve_huge.1, by decide, Linear.solve_huge.2⟩

set_option maxRecDepth 100000 in
/-- The solution of `hugeEquation` cannot be written, and those of `x² = 2` and `x = 1` can. -/
theorem showsNonFinite_iff_huge : ({} : Settings).fault? = none ∧
    (∃ e, Equation.parse 64 hugeEquation = .ok e ∧
      ∃ x ∈ Linear.solutions e, ¬ Writable 6 x) ∧
    (∃ q, Quadratic.parse 64 "x^2 = 2" = .ok q ∧
      ∀ x ∈ (Quadratic.roots q.a q.b q.c).parts, Writable 6 x) ∧
    ∃ e, Equation.parse 64 "x = 1" = .ok e ∧
      ∀ x ∈ findRoots {} 6 e.normalized, Writable 6 x := by
  have hsettings : ({} : Settings).fault? = none := by decide
  have hquadratic : (Quadratic.solve 6 64 "x^2 = 2").toOption.map id =
      some "x = √2, x = -√2" := by
    decide +kernel
  have hroots : (RealRoots.solve {} 6 64 "x = 1").toOption.map id = some "x = 1" := by
    with_unfolding_all decide
  refine ⟨hsettings, ?_, ?_, ?_⟩
  · exact ((showsNonFinite_iff hsettings hugeEquation).1 _ Linear.solve_huge.1).mp (by decide)
  · obtain ⟨answer, hsolve, rfl⟩ := exists_ok_of_toOption_map hquadratic
    obtain ⟨q, hparse, -⟩ := Quadratic.exists_parse_of_solve hsolve
    have hshows := ((showsNonFinite_iff hsettings "x^2 = 2").2.1 _ hsolve).not.mp (by decide)
    refine ⟨q, hparse, fun x hx => ?_⟩
    by_contra hnot
    exact hshows ⟨q, hparse, x, hx, hnot⟩
  · obtain ⟨answer, hsolve, rfl⟩ := exists_ok_of_toOption_map hroots
    obtain ⟨e, hparse, -⟩ := RealRoots.exists_parse_of_solve hsolve
    have hshows := ((showsNonFinite_iff hsettings "x = 1").2.2.1 _ hsolve).not.mp (by decide)
    refine ⟨e, hparse, fun x hx => ?_⟩
    by_contra hnot
    exact hshows ⟨e, hparse, x, hx, hnot⟩

end OneUnknown
