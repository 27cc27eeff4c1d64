import OneUnknown.Proofs.Integer.TrialDivision
import OneUnknown.Proofs.Quadratic.Discriminant
import OneUnknown.Proofs.Radical.Wide

/-!
# Exact solutions in words

The coefficients of an equation that is solved exactly are words of 64 bits, its discriminant is
computed in 128 bits and cast to a word, and the radicals are made from words. The computation is
written a second time here, with every operation and every cast checked. No check fails: the
coefficients have at most 53 bits, and so has the discriminant, or it is one more than two to the
53, which is rounded to the limit of the exact range.

* `signedWord`, `unsignedWord`, `fitting`: checked results and casts;
* `Words.radical`, `Words.exactDiscriminant?`, `Words.realPair`, **`Words.exactText`**: the
  solutions in words;
* **`Words.ComesTo`**: the outcome of a computation in words; `ComesTo.bind`, `ComesTo.lift`: what
  follows on it;
* `radical_comesTo`, `realPair_comesTo`, `exactText_comesTo`: no check fails;
* **`exact_solutions_fit`**: the solutions of an equation with coefficients in range.
-/

namespace OneUnknown

variable {α β : Type}

/-! ## Checked casts -/

/-- A result of 64 bits, one of them for the sign. -/
def signedWord (n : Int) : Checked Int := if IsWord n then .ok n else .error .overflow

/-- A number with a sign as a word without one. -/
def unsignedWord (n : Int) : Checked Nat :=
  if 0 ≤ n ∧ n ≤ largestWord then .ok n.toNat else .error .overflow

/-- What has stopped, has stopped because an operation overflows. -/
def fitting : Option α → Checked α
  | some a => .ok a
  | none => .error .overflow

/-- A result of 128 bits, one of them for the sign. -/
def signedDoubleWord (n : Int) : Checked Int := fitting (wide? n)

theorem signedWord_eq_ok {n : Int} (h : IsWord n) : signedWord n = .ok n := if_pos h

theorem unsignedWord_eq_ok {n : Int} (h0 : 0 ≤ n) (h : n ≤ largestWord) :
    unsignedWord n = .ok n.toNat := if_pos ⟨h0, h⟩

theorem fitting_eq_ok {x : Option α} {a : α} (h : x = some a) : fitting x = .ok a := by
  rw [h, fitting]

theorem signedDoubleWord_eq_ok {bound : Nat} (hb : bound < 2 ^ 127) {n : Int}
    (h : n.natAbs ≤ bound) : signedDoubleWord n = .ok n := fitting_eq_ok (wide?_eq_some hb h)

theorem bind_eq_of_ok {x : Checked α} {f : α → Checked β} {a : α} {y : Checked β} (hx : x = .ok a)
    (hf : f a = y) : x >>= f = y := by
  rw [hx]
  exact hf

namespace Words

/-! ## The computation -/

/-- **A radical reduced.** -/
def reduced (turns : Nat) (r : Radical) : Checked Radical := do
  let parts ← squareFree turns r.radicand
  let coefficient ← signedDoubleWord (r.coefficient * parts.1)
  let extracted : Radical := { r with coefficient := coefficient, radicand := parts.2 }
  let collapsed ← fitting extracted.collapsedWide?
  let cancelled ← fitting collapsed.cancelledWide?
  fitting cancelled.normalizedSignWide?

/-- **A computation in words** that may be refused with an error of the equation. -/
abbrev Solving := ExceptT SolveError Checked

/-- The number with the given parts, reduced. -/
def radical (turns : Nat) (constant coefficient : Int) (radicand : Nat) (denominator : Int) :
    Solving Radical := do
  if denominator = 0 then throw .divisionByZero
  else reduced turns ⟨constant, coefficient, radicand, denominator⟩

/-- The discriminant. -/
def discriminant (a b c : Int) : Checked Int := do
  let square ← signedDoubleWord (b * b)
  let four ← signedDoubleWord (4 * a)
  let product ← signedDoubleWord (four * c)
  signedDoubleWord (square - product)

/-- The discriminant, if it is in the exact range once it is a floating-point number. -/
def exactDiscriminant? (a b c : Int) : Checked (Option Int) := do
  let discriminant ← discriminant a b c
  return if Float.ofNat discriminant.natAbs ≤ exactLimit then some discriminant else none

/-- The two real solutions, given `2 a` and a positive discriminant. -/
def realPair (turns : Nat) (twice b : Int) (discriminant : Nat) : Solving (Radical × Radical) := do
  if ← isPerfectSquare turns discriminant then
    let s ← signedWord (← isqrt turns discriminant)
    let first ← radical turns (← signedWord ((← signedWord (-b)) + s)) 0 1 twice
    let second ← radical turns (← signedWord ((← signedWord (-b)) - s)) 0 1 twice
    return (first, second)
  else
    let first ← radical turns (← signedWord (-b)) 1 discriminant twice
    let second ← radical turns (← signedWord (-b)) (-1) discriminant twice
    return (first, second)

/-- **The solutions as radicals**, given the discriminant. -/
def exactText (turns : Nat) (name : Char) (a b discriminant : Int) : Solving String := do
  let twice ← signedWord (2 * a)
  if 0 < discriminant then
    let (r₁, r₂) ← realPair turns twice b (← unsignedWord discriminant)
    return pairText name r₁.text r₂.text
  else if discriminant = 0 then
    let r ← radical turns (← signedWord (-b)) 0 1 twice
    return assignment name r.text
  else
    let re ← radical turns (← signedWord (-b)) 0 1 twice
    let radicand ← unsignedWord (← signedDoubleWord (-discriminant))
    let im ← radical turns 0 1 radicand (← signedWord |twice|)
    return complexText name re.text re.isZero im.text

/-! ## Outcomes -/

/-- **A computation in words comes to an outcome**: no check fails on the way. -/
def ComesTo (m : Solving α) (x : SolveResult α) : Prop := m.run = .ok x

namespace ComesTo

variable {m : Solving α} {x : SolveResult α} {y : SolveResult β} {f : α → Solving β}
  {g : α → SolveResult β} {c : Checked α} {a : α}

theorem pure (a : α) : ComesTo (pure a) (.ok a) := rfl

theorem throw (e : SolveError) : ComesTo (throw e : Solving α) (.error e) := rfl

theorem bind (hm : ComesTo m x) (hf : ∀ a, ComesTo (f a) (g a)) :
    ComesTo (m >>= f) (x >>= g) := by
  rw [ComesTo, ExceptT.run_bind, hm]
  rcases x with e | a
  · rfl
  · exact hf a

theorem lift (hc : c = .ok a) (hf : ComesTo (f a) y) : ComesTo (liftM c >>= f) y := by
  rw [ComesTo, ExceptT.run_bind, hc]
  exact hf

theorem lift_last (hc : c = .ok a) : ComesTo (liftM c) (.ok a) := by
  subst hc
  rfl

end ComesTo

/-! ## Radicals -/

section Radicals

variable {turns : Nat} {r : Radical} {c k d : Int} {n : Nat}

theorem reduced_eq (h : r.Within (2 ^ 63)) (hn : r.radicand < largestWord) (hd : r.denominator ≠ 0)
    (hturns : largestWord ≤ turns) : reduced turns r = .ok r.reduced := by
  have hextracted := h.extracted hn
  have hcollapsed := hextracted.collapsed
  have hcancelled := hcollapsed.cancelled
  have hd' : r.extracted.collapsed.denominator ≠ 0 := by
    rwa [Radical.denominator_collapsed, Radical.denominator_extracted]
  have hk : signedDoubleWord (r.coefficient * (OneUnknown.squareFree r.radicand).1) =
      .ok r.extracted.coefficient :=
    signedDoubleWord_eq_ok (by decide) hextracted.coefficient_le
  have h₂ := Radical.collapsedWide?_eq (by decide) hcollapsed
  have h₃ := Radical.cancelledWide?_eq (by decide) hcollapsed hd'
  have h₄ := Radical.normalizedSignWide?_eq (by decide) hcancelled
  unfold reduced
  refine bind_eq_of_ok (squareFree_words hn hturns) (bind_eq_of_ok hk ?_)
  refine bind_eq_of_ok (fitting_eq_ok h₂) (bind_eq_of_ok (fitting_eq_ok h₃) ?_)
  exact fitting_eq_ok h₄

theorem radical_comesTo (hc : IsWord c) (hk : IsWord k) (hd : IsWord d) (hn : n < largestWord)
    (hturns : largestWord ≤ turns) : ComesTo (radical turns c k n d) (Radical.of c k n d) := by
  unfold radical
  split_ifs with h0
  · rw [h0, Radical.of_zero]
    exact ComesTo.throw _
  · rw [Radical.of_ne_zero h0]
    exact ComesTo.lift_last
      (reduced_eq ⟨hc.natAbs_le, hk.natAbs_le, hd.natAbs_le⟩ hn h0 hturns)

end Radicals

/-! ## Solutions -/

section Solutions

variable {turns n : Nat} {a b c D : Int}

/-- **The two real solutions**: each sum is of two words far below the limit. -/
theorem realPair_comesTo (ha : a.natAbs ≤ 2 ^ 53) (hb : b.natAbs ≤ 2 ^ 53)
    (hn : n ≤ 2 ^ 53 + 1) (hturns : largestWord ≤ turns) :
    ComesTo (realPair turns (2 * a) b n) (Quadratic.realPair a b n) := by
  have hword : n ≤ largestWord := hn.trans (by decide)
  have hlt : n < largestWord := lt_of_le_of_lt hn (by decide)
  have hroot : OneUnknown.isqrt n ≤ n := (Nat.le_mul_self _).trans (correctedRoot_sq_le n _)
  have htwice : IsWord (2 * a) := by unfold IsWord; omega
  have hneg : IsWord (-b) := by unfold IsWord; omega
  have hs : IsWord (OneUnknown.isqrt n) := by unfold IsWord; omega
  have hadd : IsWord (-b + OneUnknown.isqrt n) := by unfold IsWord; omega
  have hsub : IsWord (-b - OneUnknown.isqrt n) := by unfold IsWord; omega
  refine ComesTo.lift (isPerfectSquare_words hword hturns) ?_
  unfold Quadratic.realPair
  split_ifs
  · refine ComesTo.lift (isqrt_words hword hturns) (ComesTo.lift (signedWord_eq_ok hs) ?_)
    refine ComesTo.lift (signedWord_eq_ok hneg) (ComesTo.lift (signedWord_eq_ok hadd) ?_)
    refine ComesTo.bind (radical_comesTo hadd (by decide) htwice (by decide) hturns) fun first => ?_
    refine ComesTo.lift (signedWord_eq_ok hneg) (ComesTo.lift (signedWord_eq_ok hsub) ?_)
    exact ComesTo.bind (radical_comesTo hsub (by decide) htwice (by decide) hturns) fun second =>
      ComesTo.pure (first, second)
  · refine ComesTo.lift (signedWord_eq_ok hneg) ?_
    refine ComesTo.bind (radical_comesTo hneg (by decide) htwice hlt hturns) fun first => ?_
    refine ComesTo.lift (signedWord_eq_ok hneg) ?_
    exact ComesTo.bind (radical_comesTo hneg (by decide) htwice hlt hturns) fun second =>
      ComesTo.pure (first, second)

/-- **The solutions**, whatever the sign of the discriminant. -/
theorem exactText_comesTo (name : Char) (ha : a.natAbs ≤ 2 ^ 53) (hb : b.natAbs ≤ 2 ^ 53)
    (hD : D.natAbs ≤ 2 ^ 53 + 1) (hturns : largestWord ≤ turns) :
    ComesTo (exactText turns name a b D) (Quadratic.exactText name a b D) := by
  have hlargest : largestWord = 2 ^ 64 - 1 := rfl
  have htwice : IsWord (2 * a) := by unfold IsWord; omega
  have hneg : IsWord (-b) := by unfold IsWord; omega
  refine ComesTo.lift (signedWord_eq_ok htwice) ?_
  unfold Quadratic.exactText
  split_ifs with hpos hzero
  · refine ComesTo.lift (unsignedWord_eq_ok hpos.le (by omega)) ?_
    exact ComesTo.bind (realPair_comesTo ha hb (by omega) hturns) fun pair => ComesTo.pure _
  · refine ComesTo.lift (signedWord_eq_ok hneg) ?_
    exact ComesTo.bind (radical_comesTo hneg (by decide) htwice (by decide) hturns) fun r =>
      ComesTo.pure _
  · have hradicand : (-D).toNat = D.natAbs := by omega
    have hmagnitude : |2 * a| = ((2 * a).natAbs : Int) := Int.abs_eq_natAbs _
    have hdouble : signedDoubleWord (-D) = .ok (-D) :=
      signedDoubleWord_eq_ok (by decide) ((Int.natAbs_neg D).trans_le hD)
    have hword : IsWord |2 * a| := by rw [hmagnitude]; unfold IsWord; omega
    rw [← hradicand, ← hmagnitude]
    refine ComesTo.lift (signedWord_eq_ok hneg) ?_
    refine ComesTo.bind (radical_comesTo hneg (by decide) htwice (by decide) hturns) fun re => ?_
    refine ComesTo.lift hdouble (ComesTo.lift (unsignedWord_eq_ok (by omega) (by omega)) ?_)
    refine ComesTo.lift (signedWord_eq_ok hword) ?_
    exact ComesTo.bind (radical_comesTo (by decide) (by decide) hword (by omega) hturns) fun im =>
      ComesTo.pure _

end Solutions

/-! ## The discriminant -/

section Discriminant

variable {a b c : Int}

theorem natAbs_mul_le {m n : Int} {k l : Nat} (hm : m.natAbs ≤ k) (hn : n.natAbs ≤ l) :
    (m * n).natAbs ≤ k * l := by
  rw [Int.natAbs_mul]
  exact Nat.mul_le_mul hm hn

section Bounds

variable (ha : a.natAbs ≤ 2 ^ 53) (hb : b.natAbs ≤ 2 ^ 53) (hc : c.natAbs ≤ 2 ^ 53)

include hb in
theorem natAbs_square_le : (b * b).natAbs ≤ 2 ^ 106 :=
  (natAbs_mul_le hb hb).trans (by decide)

include ha in
theorem natAbs_four_mul_le : (4 * a).natAbs ≤ 2 ^ 55 :=
  (natAbs_mul_le (le_refl 4) ha).trans (by decide)

include ha hc in
theorem natAbs_product_le : (4 * a * c).natAbs ≤ 2 ^ 108 :=
  (natAbs_mul_le (natAbs_four_mul_le ha) hc).trans (by decide)

include ha hb hc in
theorem natAbs_discriminant_le : (b * b - 4 * a * c).natAbs ≤ 2 ^ 109 := by
  have hsquare := natAbs_square_le hb
  have hproduct := natAbs_product_le ha hc
  omega

include ha hb hc in
theorem discriminant_eq : discriminant a b c = .ok (b * b - 4 * a * c) := by
  refine bind_eq_of_ok (signedDoubleWord_eq_ok (by decide) (natAbs_square_le hb)) ?_
  refine bind_eq_of_ok (signedDoubleWord_eq_ok (by decide) (natAbs_four_mul_le ha)) ?_
  refine bind_eq_of_ok (signedDoubleWord_eq_ok (by decide) (natAbs_product_le ha hc)) ?_
  exact signedDoubleWord_eq_ok (by decide) (natAbs_discriminant_le ha hb hc)

include ha hb hc in
/-- **An accepted discriminant** is at most one more than two to the 53. -/
theorem natAbs_le_of_exactDiscriminant? {D : Int}
    (hD : OneUnknown.exactDiscriminant? a b c = some D) : D.natAbs ≤ 2 ^ 53 + 1 := by
  have hbound : |((b * b - 4 * a * c : Int) : ℚ)| ≤ 2 ^ 109 := by
    have hnat := natAbs_discriminant_le ha hb hc
    rw [← Int.cast_abs, Int.abs_eq_natAbs]
    exact_mod_cast hnat
  rw [exactDiscriminant?_eq (lt_of_le_of_lt hbound (two_pow_lt_range (by decide)))] at hD
  split_ifs at hD with hle
  rw [Option.some.inj hD, Int.abs_eq_natAbs] at hle
  omega

end Bounds

end Discriminant

end Words

open Words in
/-- **The exact solutions fit into words.** With coefficients of at most 53 bits no operation on the
way to the discriminant overflows. A discriminant that is accepted is at most one more than two to
the 53 in magnitude, and for such a discriminant no operation and no cast on the way to the
solutions overflows. -/
theorem exact_solutions_fit {a b c : Int} {turns : Nat} (ha : |a| ≤ 2 ^ 53) (hb : |b| ≤ 2 ^ 53)
    (hc : |c| ≤ 2 ^ 53) (hturns : largestWord ≤ turns) :
    discriminant a b c = .ok (b * b - 4 * a * c) ∧
    Words.exactDiscriminant? a b c = .ok (exactDiscriminant? a b c) ∧
    ∀ D, exactDiscriminant? a b c = some D → |D| ≤ 2 ^ 53 + 1 ∧
      ∀ name, (exactText turns name a b D).run = .ok (Quadratic.exactText name a b D) := by
  have hnat : ∀ z : Int, |z| ≤ 2 ^ 53 → z.natAbs ≤ 2 ^ 53 := by
    intro z hz
    rw [Int.abs_eq_natAbs] at hz
    exact_mod_cast hz
  replace ha := hnat a ha
  replace hb := hnat b hb
  replace hc := hnat c hc
  have hdiscriminant := discriminant_eq ha hb hc
  refine ⟨hdiscriminant, bind_eq_of_ok hdiscriminant rfl, fun D hD => ?_⟩
  have hbound := natAbs_le_of_exactDiscriminant? ha hb hc hD
  refine ⟨?_, fun name => exactText_comesTo name ha hb hbound hturns⟩
  rw [Int.abs_eq_natAbs]
  exact_mod_cast hbound

/-- The discriminant of `x² + x - 2^51 = 0` is one more than two to the 53, and is accepted. -/
theorem exact_solutions_fit_limit :
    exactDiscriminant? 1 1 (-2 ^ 51) = some (2 ^ 53 + 1) ∧
    (Words.exactText largestWord 'x' 1 1 (2 ^ 53 + 1)).run =
      .ok (Quadratic.exactText 'x' 1 1 (2 ^ 53 + 1)) := by
  have hD : exactDiscriminant? 1 1 (-2 ^ 51) = some (2 ^ 53 + 1) := by decide +kernel
  have hfit := exact_solutions_fit (a := 1) (b := 1) (c := -2 ^ 51) (by decide) (by decide)
    (by decide) (le_refl largestWord)
  exact ⟨hD, (hfit.2.2 _ hD).2 'x'⟩

end OneUnknown
