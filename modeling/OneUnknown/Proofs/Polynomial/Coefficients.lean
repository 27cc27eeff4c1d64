import Mathlib.Data.List.GetD
import Mathlib.Data.List.Nodup
import Mathlib.Tactic.Ring
import OneUnknown.Polynomial.Text
import OneUnknown.Proofs.Number.Arithmetic

/-!
# Coefficients in floating-point arithmetic

A sum of terms of different powers is not rounded: to every coefficient only zeros are added. So a
polynomial that is put together from such terms has exactly their coefficients, up to the signs of
zeros.

* `coeff_ofList_of_ne_zero`, `coeff_combine_of_ne_zero`: coefficients after trimming;
* `mul_monomial`, **`pow_monomial`**: products and powers of the unknown;
* **`IsTerm`**, `isTerm_neg_monomial`, `isTerm_mul`: polynomials of one term;
* **`Shows`**, `Shows.add`, `Shows.sub`: polynomials of several terms;
* **`same_of_shows_terms`**: a polynomial is determined by its terms.
-/

namespace OneUnknown.Polynomial

variable {p q r : Polynomial Float} {c : Float} {n i : Nat}

/-! ## Coefficients after trimming -/

theorem getD_trimZeros {K : Type} [Zero K] [BEq K] (cs : List K) (i : Nat) :
    (trimZeros cs).getD i 0 = cs.getD i 0 ∨
      (cs.getD i 0 == 0) = true ∧ (trimZeros cs).getD i 0 = 0 := by
  induction cs generalizing i with
  | nil => exact .inl rfl
  | cons c rest ih =>
    unfold trimZeros
    split
    · rename_i hrest
      rw [hrest] at ih
      cases hc : c == 0 with
      | true =>
        cases i with
        | zero => exact .inr ⟨hc, rfl⟩
        | succ i => exact ih i
      | false =>
        cases i with
        | zero => exact .inl rfl
        | succ i => exact ih i
    · rename_i d kept hrest
      rw [hrest] at ih
      cases i with
      | zero => exact .inl rfl
      | succ i => exact ih i

theorem coeff_ofList_of_ne_zero {cs : List Float} (h : (cs.getD i 0 == 0) = false) :
    (ofList cs).coeff i = cs.getD i 0 := by
  rcases getD_trimZeros cs i with heq | ⟨hzero, -⟩
  · exact heq
  · rw [hzero] at h
    exact Bool.noConfusion h

theorem coeff_ofList_of_zero {cs : List Float} (h : (cs.getD i 0 == 0) = true) :
    ((ofList cs).coeff i == 0) = true := by
  have hcoeff : (ofList cs).coeff i = (trimZeros cs).getD i 0 := rfl
  rw [hcoeff]
  rcases getD_trimZeros cs i with heq | ⟨-, heq⟩
  · rw [heq, h]
  · rw [heq]
    rfl

theorem float_zero_beq_zero : ((0 : Float) == 0) = true := by decide

theorem float_one_beq_zero : ((1 : Float) == 0) = false := by decide

section Combine

variable {op : Float → Float → Float}

theorem coeff_combine_of_ne_zero (h0 : (op 0 0 == 0) = true)
    (h : (op (p.coeff i) (q.coeff i) == 0) = false) :
    (combine op p q).coeff i = op (p.coeff i) (q.coeff i) := by
  by_cases hi : i < max p.coeffs.length q.coeffs.length
  · have hget : ((List.range (max p.coeffs.length q.coeffs.length)).map fun power =>
        op (p.coeff power) (q.coeff power)).getD i 0 = op (p.coeff i) (q.coeff i) := by
      simp [hi]
    rw [combine, coeff_ofList_of_ne_zero (by rw [hget]; exact h), hget]
  · have hp : p.coeff i = 0 := List.getD_eq_default _ _ (by omega)
    have hq : q.coeff i = 0 := List.getD_eq_default _ _ (by omega)
    rw [hp, hq, h0] at h
    exact Bool.noConfusion h

theorem coeff_combine_of_zero (h : (op (p.coeff i) (q.coeff i) == 0) = true) :
    ((combine op p q).coeff i == 0) = true := by
  refine coeff_ofList_of_zero ?_
  by_cases hi : i < max p.coeffs.length q.coeffs.length
  · simpa [hi] using h
  · rw [List.getD_eq_default _ _ (by simpa using hi)]
    exact float_zero_beq_zero

end Combine

/-! ## Powers of the unknown -/

section Monomial

theorem trimZeros_append_zero {K : Type} [Zero K] [BEq K] {c : K} (hc : (c == 0) = true)
    (cs : List K) : trimZeros (cs ++ [c]) = trimZeros cs := by
  induction cs with
  | nil => simp [trimZeros, hc]
  | cons c cs ih => rw [List.cons_append, trimZeros, ih, trimZeros]

theorem coeffs_monomial (hc : (c == 0) = false) (n : Nat) :
    (monomial c n).coeffs = List.replicate n 0 ++ [c] := by
  refine trimZeros_of_trimmed fun last hlast => ?_
  rw [List.getLast?_concat, Option.some.injEq] at hlast
  rw [← hlast, hc]

theorem zipWith_replicate_zero (c : Float) (q : List Float) :
    List.zipWith (fun sum b => sum + c * b) (List.replicate q.length 0) q =
      q.map fun b => 0 + c * b := by
  induction q with
  | nil => rfl
  | cons b q ih => rw [List.length_cons, List.replicate_succ, List.zipWith_cons_cons, ih]; rfl

theorem convolve_monomial (c : Float) (a b : Nat) :
    convolve (List.replicate b 0 ++ [1]) (List.replicate (b + 1) 0) (List.replicate a 0 ++ [c]) =
      List.replicate a 0 ++ (List.replicate b (0 + c * 0) ++ [0 + c * 1]) ++ [0] := by
  have hsums : ∀ d : Float, List.zipWith (fun sum b => sum + d * b) (List.replicate (b + 1) 0)
      (List.replicate b 0 ++ [1]) = List.replicate b (0 + d * 0) ++ [0 + d * 1] := by
    intro d
    have := zipWith_replicate_zero d (List.replicate b 0 ++ [1])
    simpa using this
  have hzero : (0 : Float) + 0 * 0 = 0 := by decide
  have hone : (0 : Float) + 0 * 1 = 0 := by decide
  induction a with
  | zero =>
    rw [List.replicate_zero, List.nil_append, convolve, hsums]
    rcases hlist : List.replicate b (0 + c * 0) ++ [0 + c * 1] with _ | ⟨sum, later⟩
    · simp at hlist
    · rfl
  | succ a ih =>
    have hzeros : List.replicate b ((0 : Float) + 0 * 0) ++ [0 + 0 * 1] =
        0 :: List.replicate b 0 := by
      rw [hzero, hone, ← List.replicate_succ', List.replicate_succ]
    rw [List.replicate_succ (n := a), List.cons_append, convolve, hsums, hzeros]
    dsimp only
    rw [← List.replicate_succ', ih]
    rfl

theorem isZero_monomial (hc : (c == 0) = false) (n : Nat) : (monomial c n).isZero = false := by
  simp [isZero, coeffs_monomial hc]

theorem mul_monomial (hc : (c == 0) = false) (a b : Nat) : (monomial c a).mul (monomial 1 b) =
    ofList (List.replicate a 0 ++ (List.replicate b (0 + c * 0) ++ [0 + c * 1])) := by
  unfold mul
  rw [isZero_monomial hc, isZero_monomial float_one_beq_zero, coeffs_monomial hc,
    coeffs_monomial float_one_beq_zero]
  simp only [Bool.or_self, Bool.false_eq_true, if_false, List.length_append, List.length_replicate,
    List.length_singleton]
  rw [convolve_monomial]
  exact ext (trimZeros_append_zero float_zero_beq_zero _)

theorem monomial_one_mul (a b : Nat) :
    (monomial (1 : Float) a).mul (monomial 1 b) = monomial 1 (a + b) := by
  have hzero : (0 : Float) + 1 * 0 = 0 := by decide
  have hone : (0 : Float) + 1 * 1 = 1 := by decide
  rw [mul_monomial float_one_beq_zero, hzero, hone, ← List.append_assoc,
    List.replicate_append_replicate, monomial]

theorem powFrom_monomial (a b n : Nat) :
    powFrom (monomial (1 : Float) a) (monomial 1 b) n = monomial 1 (a + b * n) := by
  induction n using Nat.strongRecOn generalizing a b with
  | ind n ih =>
    by_cases hn : n = 0
    · rw [powFrom, if_pos hn, hn, Nat.mul_zero, Nat.add_zero]
    · have hresult : (if n % 2 = 1 then (monomial (1 : Float) a).mul (monomial 1 b)
          else monomial 1 a) = monomial 1 (a + b * (n % 2)) := by
        rcases Nat.mod_two_eq_zero_or_one n with h | h
        · simp [h]
        · simp [h, monomial_one_mul]
      have hdigits : a + b * n = a + b * (n % 2) + (b + b) * (n / 2) := by
        conv_lhs => rw [← Nat.mod_add_div n 2]
        ring
      rw [powFrom, if_neg hn]
      by_cases hhalf : n / 2 = 0
      · rw [if_pos hhalf, hresult, hdigits, hhalf, Nat.mul_zero, Nat.add_zero]
      · rw [if_neg hhalf, hresult, monomial_one_mul, ih (n / 2) (by omega), hdigits]

/-- **Powers of the unknown are exact.** -/
theorem pow_monomial (n : Nat) : (monomial (1 : Float) 1).pow n = monomial 1 n := by
  have hone : constant (1 : Float) = monomial 1 0 := rfl
  rw [pow, hone, powFrom_monomial, Nat.zero_add, Nat.one_mul]

end Monomial

/-! ## Polynomials of one term -/

/-- **The polynomial is `c · x ^ n`**, its other coefficients zeros of either sign. -/
structure IsTerm (p : Polynomial Float) (c : Float) (n : Nat) : Prop where
  coeff_eq : p.coeff n = c
  coeff_beq_zero : ∀ i, i ≠ n → (p.coeff i == 0) = true

section Term

variable {z : Float}

theorem isTerm_ofList (hz : (z == 0) = true) (hc : (c == 0) = false) (n : Nat) :
    IsTerm (ofList (List.replicate n z ++ [c])) c n := by
  have hn : (List.replicate n z ++ [c]).getD n 0 = c := by simp
  refine ⟨?_, fun i hi => coeff_ofList_of_zero ?_⟩
  · rw [coeff_ofList_of_ne_zero (by rw [hn, hc]), hn]
  · rcases Nat.lt_or_gt_of_ne hi with hlt | hgt
    · rw [List.getD_append _ _ _ _ (by simpa using hlt), List.getD_replicate _ hlt, hz]
    · rw [List.getD_eq_default _ _ (by simp; omega)]
      exact float_zero_beq_zero

theorem isTerm_monomial (hc : (c == 0) = false) (n : Nat) : IsTerm (monomial c n) c n :=
  isTerm_ofList float_zero_beq_zero hc n

theorem isTerm_constant (hc : (c == 0) = false) : IsTerm (constant c) c 0 := isTerm_monomial hc 0

theorem neg_monomial (hc : (c == 0) = false) (n : Nat) :
    (monomial c n).neg = ofList (List.replicate n (0 * -1) ++ [-c]) := by
  rw [neg, scale, coeffs_monomial hc, List.map_append, List.map_replicate, List.map_singleton,
    float_mul_neg_one c]

theorem neg_constant (hc : (c == 0) = false) : (constant c).neg = constant (-c) :=
  neg_monomial hc 0

theorem isTerm_neg_monomial (hc : (c == 0) = false) (n : Nat) :
    IsTerm (monomial c n).neg (-c) n := by
  rw [neg_monomial hc]
  exact isTerm_ofList (by decide) (by rw [neg_beq_zero, hc]) n

theorem isTerm_mul (hfinite : c.isFinite = true) (hc : (c == 0) = false) (n : Nat) :
    IsTerm ((constant c).mul (monomial 1 n)) c n := by
  have hconstant : constant c = monomial c 0 := rfl
  rw [hconstant, mul_monomial hc, List.replicate_zero, List.nil_append, float_mul_one,
    float_zero_add float_zero_beq_zero hc]
  have hzero := float_zero_add_zero float_zero_beq_zero (float_mul_zero float_zero_beq_zero hfinite)
  exact isTerm_ofList hzero hc n

end Term

/-! ## Polynomials of several terms -/

/-- **The polynomial is the sum of the terms**, its other coefficients zeros of either sign. -/
structure Shows (p : Polynomial Float) (ts : List (Float × Nat)) : Prop where
  coeff_eq : ∀ c n, (c, n) ∈ ts → p.coeff n = c
  coeff_beq_zero : ∀ n, (∀ c, (c, n) ∉ ts) → (p.coeff n == 0) = true

theorem IsTerm.shows (h : IsTerm p c n) : Shows p [(c, n)] := by
  refine ⟨fun d m hm => ?_, fun m hm => h.coeff_beq_zero m ?_⟩
  · obtain ⟨rfl, rfl⟩ : d = c ∧ m = n := by simpa using hm
    exact h.coeff_eq
  · rintro rfl
    exact hm c (by simp)

section Several

variable {ts : List (Float × Nat)}

/-- Taking a further term into account, by an operation that a zero on either side leaves exact. -/
theorem Shows.combine {op : Float → Float → Float} (h : Shows p ts)
    (hts : ∀ t ∈ ts, (t.1 == 0) = false) (hn : ∀ d, (d, n) ∉ ts) (hr : IsTerm r c n)
    (hzero : ∀ x y : Float, (x == 0) = true → (y == 0) = true → (op x y == 0) = true)
    (hleft : ∀ x y : Float, (y == 0) = true → (x == 0) = false → op x y = x)
    {d : Float} (hd : (d == 0) = false)
    (hright : ∀ x : Float, (x == 0) = true → op x c = d) :
    Shows (Polynomial.combine op p r) (ts ++ [(d, n)]) := by
  have h0 := hzero 0 0 float_zero_beq_zero float_zero_beq_zero
  refine ⟨fun e m hm => ?_, fun m hm => coeff_combine_of_zero ?_⟩
  · rcases List.mem_append.mp hm with hm | hm
    · have hne : m ≠ n := fun heq => hn e (heq ▸ hm)
      have he : (e == 0) = false := hts (e, m) hm
      have hop : op (p.coeff m) (r.coeff m) = e := by
        rw [h.coeff_eq e m hm, hleft e _ (hr.coeff_beq_zero m hne) he]
      rw [coeff_combine_of_ne_zero h0 (by rw [hop, he]), hop]
    · obtain ⟨rfl, rfl⟩ : e = d ∧ m = n := by simpa using hm
      have hop : op (p.coeff m) (r.coeff m) = e := by
        rw [hr.coeff_eq, hright _ (h.coeff_beq_zero m hn)]
      rw [coeff_combine_of_ne_zero h0 (by rw [hop, hd]), hop]
  · have hp := h.coeff_beq_zero m fun e he => hm e (List.mem_append_left _ he)
    have hne : m ≠ n := fun heq =>
      hm d (List.mem_append_right _ (heq ▸ List.mem_singleton_self _))
    exact hzero (p.coeff m) (r.coeff m) hp (hr.coeff_beq_zero m hne)

theorem Shows.add (h : Shows p ts) (hts : ∀ t ∈ ts, (t.1 == 0) = false) (hn : ∀ d, (d, n) ∉ ts)
    (hc : (c == 0) = false) (hr : IsTerm r c n) : Shows (p.add r) (ts ++ [(c, n)]) :=
  h.combine hts hn hr (fun _ _ hx hy => float_zero_add_zero hx hy)
    (fun _ _ hy hx => float_add_zero hy hx) hc fun _ hx => float_zero_add hx hc

theorem Shows.sub (h : Shows p ts) (hts : ∀ t ∈ ts, (t.1 == 0) = false) (hn : ∀ d, (d, n) ∉ ts)
    (hc : (c == 0) = false) (hr : IsTerm r c n) : Shows (p.sub r) (ts ++ [(-c, n)]) :=
  h.combine hts hn hr (fun _ _ hx hy => float_zero_sub_zero hx hy)
    (fun _ _ hy hx => float_sub_zero hy hx) (by rw [neg_beq_zero, hc])
    fun _ hx => float_zero_sub hx hc

end Several

/-! ## The terms of a polynomial -/

theorem mem_terms_iff : (c, n) ∈ p.terms ↔ p.coeffs[n]? = some c ∧ (c == 0) = false := by
  simp [terms, List.mem_zipIdx_iff_getElem?]

theorem nodup_terms (p : Polynomial Float) : (p.terms.map Prod.snd).Nodup := by
  have hpowers : (p.coeffs.zipIdx.map Prod.snd).Nodup := by
    rw [List.zipIdx_map_snd]
    exact List.nodup_range'
  have hreverse : (p.coeffs.zipIdx.reverse.map Prod.snd).Nodup := by
    rw [List.map_reverse, List.nodup_reverse]
    exact hpowers
  exact hreverse.sublist (List.filter_sublist.map _)

theorem coeff_eq_of_mem_terms (h : (c, n) ∈ p.terms) : p.coeff n = c := by
  rw [coeff, List.getD_eq_getElem?_getD, (mem_terms_iff.mp h).1, Option.getD_some]

theorem beq_zero_of_not_mem_terms (h : ∀ c, (c, n) ∉ p.terms) : (p.coeff n == 0) = true := by
  rw [coeff, List.getD_eq_getElem?_getD]
  rcases hn : p.coeffs[n]? with _ | c
  · exact float_zero_beq_zero
  · rcases hc : c == 0
    · exact absurd (mem_terms_iff.mpr ⟨hn, hc⟩) (h c)
    · exact hc

theorem le_degree_of_mem_terms (h : (c, n) ∈ p.terms) : n ≤ p.degree := by
  have := (List.getElem?_eq_some_iff.mp (mem_terms_iff.mp h).1).1
  unfold degree
  omega

theorem exists_mem_terms (h : p.coeffs ≠ []) : ∃ c, (c, p.degree) ∈ p.terms := by
  have hlast : p.coeffs[p.coeffs.length - 1]? = some (p.coeffs.getLast h) := by
    rw [← List.getLast?_eq_getElem?, List.getLast?_eq_some_getLast h]
  refine ⟨p.coeffs.getLast h, mem_terms_iff.mpr ⟨hlast, ?_⟩⟩
  exact p.trimmed _ (List.getLast?_eq_some_getLast h)

/-! ## Equality of polynomials -/

theorem length_le_of_trimmed {K : Type} [Zero K] [BEq K] (h0 : ((0 : K) == 0) = true)
    {a b : List K} (ha : Trimmed a)
    (h : ∀ i, (b.getD i 0 == 0) = true → (a.getD i 0 == 0) = true) : a.length ≤ b.length := by
  by_contra hlt
  have hne : a ≠ [] := by
    rintro rfl
    simp at hlt
  have hlast := ha _ (List.getLast?_eq_some_getLast hne)
  have hzero := h (a.length - 1) (by
    rw [List.getD_eq_default _ _ (by omega)]
    exact h0)
  rw [List.getD_eq_getElem _ _ (by omega), ← List.getLast_eq_getElem hne, hlast] at hzero
  exact Bool.noConfusion hzero

theorem beq_of_forall_getD {a b : List Float} (hlength : a.length = b.length)
    (h : ∀ i < a.length, (a.getD i 0 == b.getD i 0) = true) : (a == b) = true := by
  induction a generalizing b with
  | nil =>
    obtain rfl := List.eq_nil_of_length_eq_zero hlength.symm
    rfl
  | cons c a ih =>
    obtain ⟨d, b, rfl⟩ := List.exists_cons_of_length_eq_add_one hlength.symm
    rw [List.cons_beq_cons, Bool.and_eq_true]
    refine ⟨h 0 (by simp), ih (by simpa using hlength) fun i hi => ?_⟩
    exact h (i + 1) (by simpa using hi)

/-- **A polynomial is determined by its terms**, up to the signs of zeros. -/
theorem same_of_shows_terms (hfinite : ∀ c ∈ p.coeffs, c.isFinite = true)
    (h : Shows q p.terms) : q.same p = true := by
  have hcoeff : ∀ i, (q.coeff i == p.coeff i) = true ∧
      ((p.coeff i == 0) = true ↔ (q.coeff i == 0) = true) := by
    intro i
    by_cases hi : ∃ c, (c, i) ∈ p.terms
    · obtain ⟨c, hc⟩ := hi
      obtain ⟨hget, hne⟩ := mem_terms_iff.mp hc
      rw [h.coeff_eq c i hc, coeff_eq_of_mem_terms hc]
      exact ⟨beq_self_of_isFinite (hfinite c (List.mem_of_getElem? hget)), Iff.rfl⟩
    · have hnot : ∀ c, (c, i) ∉ p.terms := fun c hc => hi ⟨c, hc⟩
      have hp := beq_zero_of_not_mem_terms hnot
      have hq := h.coeff_beq_zero i hnot
      exact ⟨PartialEquivBEq.trans hq (PartialEquivBEq.symm hp), iff_of_true hp hq⟩
  refine beq_of_forall_getD (le_antisymm ?_ ?_) fun i _ => (hcoeff i).1
  · exact length_le_of_trimmed float_zero_beq_zero q.trimmed fun i => (hcoeff i).2.mp
  · exact length_le_of_trimmed float_zero_beq_zero p.trimmed fun i => (hcoeff i).2.mpr

end OneUnknown.Polynomial
