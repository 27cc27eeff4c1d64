import OneUnknown.Proofs.Radical.Value

/-!
# Reduction in 128 bits

The parts of a radical are passed as words of 64 bits and reduced in arithmetic of 128 bits. The
reduction is written a second time with every operation checked. No check fails: a square root of a
word has 32 bits, so that no number on the way needs more than 97.

* `IsWord`, `wide?`: the numbers of 64 bits and of 128 bits;
* `Radical.reducedWide?`: the reduction that stops when an operation overflows;
* `Radical.Within`: a bound on the whole numbers of a radical;
* **`Radical.reducedWide?_eq`**: no operation overflows;
* **`Radical.of_reduces_words`**: any parts that are words are reduced to the same number.
-/

namespace OneUnknown

/-! ## Widths -/

/-- A whole number of 64 bits, one of them for the sign. -/
def IsWord (n : Int) : Prop := -2 ^ 63 ≤ n ∧ n < 2 ^ 63

instance (n : Int) : Decidable (IsWord n) := inferInstanceAs (Decidable (_ ∧ _))

/-- A result in 128 bits, unless it overflows. -/
def wide? (n : Int) : Option Int := if -2 ^ 127 ≤ n ∧ n < 2 ^ 127 then some n else none

theorem IsWord.natAbs_le {n : Int} (h : IsWord n) : n.natAbs ≤ 2 ^ 63 := by
  unfold IsWord at h
  omega

theorem wide?_eq_some {bound : Nat} (hb : bound < 2 ^ 127) {n : Int} (h : n.natAbs ≤ bound) :
    wide? n = some n := by
  rw [wide?, if_pos]
  omega

theorem squareFree_fst_lt {n : Nat} (h : n < largestWord) : (squareFree n).1 < 2 ^ 32 := by
  have hsq := squareFree_fst_sq_le n
  have hn : n < 2 ^ 64 - 1 := h
  have hlt : (squareFree n).1 ^ 2 < (2 ^ 32) ^ 2 := by omega
  exact lt_of_pow_lt_pow_left₀ 2 (Nat.zero_le _) hlt

namespace Radical

variable {r : Radical} {bound : Nat}

/-! ## Checked reduction -/

/-- Square factors move out of the root, checked. -/
def extractedWide? (r : Radical) : Option Radical := do
  let (k, m) := squareFree r.radicand
  let coefficient ← wide? (r.coefficient * k)
  return { r with coefficient := coefficient, radicand := m }

/-- A root of one joins the constant, checked. -/
def collapsedWide? (r : Radical) : Option Radical :=
  if r.radicand = 1 then do
    let constant ← wide? (r.constant + r.coefficient)
    return { r with constant := constant, coefficient := 0 }
  else if r.coefficient = 0 then some { r with radicand := 1 }
  else some r

/-- The common factor goes, checked; it was found without a sign. -/
def cancelledWide? (r : Radical) : Option Radical := do
  let g ← wide? r.commonFactor
  let constant ← wide? (r.constant.tdiv g)
  let coefficient ← wide? (r.coefficient.tdiv g)
  let denominator ← wide? (r.denominator.tdiv g)
  return ⟨constant, coefficient, r.radicand, denominator⟩

/-- The denominator becomes positive, checked. -/
def normalizedSignWide? (r : Radical) : Option Radical :=
  if r.denominator < 0 then do
    let constant ← wide? (-r.constant)
    let coefficient ← wide? (-r.coefficient)
    let denominator ← wide? (-r.denominator)
    return ⟨constant, coefficient, r.radicand, denominator⟩
  else some r

/-- **The reduction in arithmetic of 128 bits**, which stops when an operation overflows. -/
def reducedWide? (r : Radical) : Option Radical := do
  let r₁ ← r.extractedWide?
  let r₂ ← r₁.collapsedWide?
  let r₃ ← r₂.cancelledWide?
  r₃.normalizedSignWide?

/-! ## Bounds -/

/-- The whole numbers of a radical are bounded in magnitude. -/
structure Within (bound : Nat) (r : Radical) : Prop where
  constant_le : r.constant.natAbs ≤ bound
  coefficient_le : r.coefficient.natAbs ≤ bound
  denominator_le : r.denominator.natAbs ≤ bound

theorem Within.extracted (h : r.Within (2 ^ 63)) (hn : r.radicand < largestWord) :
    r.extracted.Within (2 ^ 95) where
  constant_le := h.constant_le.trans (by decide)
  coefficient_le := by
    rw [coefficient_extracted, Int.natAbs_mul, Int.natAbs_natCast]
    calc r.coefficient.natAbs * (squareFree r.radicand).1
        ≤ 2 ^ 63 * 2 ^ 32 := Nat.mul_le_mul h.coefficient_le (squareFree_fst_lt hn).le
      _ = 2 ^ 95 := by norm_num
  denominator_le := h.denominator_le.trans (by decide)

theorem Within.collapsed (h : r.Within bound) : r.collapsed.Within (2 * bound) where
  constant_le := by
    obtain ⟨hc, hk, -⟩ := h
    rw [constant_collapsed]
    split_ifs <;> omega
  coefficient_le := by
    have hk := h.coefficient_le
    rw [coefficient_collapsed]
    split_ifs <;> omega
  denominator_le := by
    have hd := h.denominator_le
    rw [denominator_collapsed]
    omega

theorem Within.cancelled (h : r.Within bound) : r.cancelled.Within bound where
  constant_le := (Int.natAbs_tdiv_le_natAbs _ _).trans h.constant_le
  coefficient_le := (Int.natAbs_tdiv_le_natAbs _ _).trans h.coefficient_le
  denominator_le := (Int.natAbs_tdiv_le_natAbs _ _).trans h.denominator_le

/-! ## No overflow -/

theorem extractedWide?_eq (hb : bound < 2 ^ 127) (h : r.extracted.Within bound) :
    r.extractedWide? = some r.extracted := by
  have hk : wide? (r.coefficient * (squareFree r.radicand).1) = some r.extracted.coefficient :=
    wide?_eq_some hb h.coefficient_le
  simp only [extractedWide?, hk]
  rfl

theorem collapsedWide?_eq (hb : bound < 2 ^ 127) (h : r.collapsed.Within bound) :
    r.collapsedWide? = some r.collapsed := by
  unfold collapsedWide?
  unfold Radical.collapsed at h ⊢
  split_ifs at h ⊢ with hm hk
  · rw [wide?_eq_some hb h.constant_le]
    rfl
  · rfl
  · rfl

theorem cancelledWide?_eq (hb : bound < 2 ^ 127) (h : r.Within bound) (hd : r.denominator ≠ 0) :
    r.cancelledWide? = some r.cancelled := by
  have hg : (r.commonFactor : Int).natAbs ≤ bound :=
    (Nat.le_of_dvd (Int.natAbs_pos.mpr hd) commonFactor_dvd_denominator).trans h.denominator_le
  have hc : wide? (r.constant.tdiv r.commonFactor) = some r.cancelled.constant :=
    wide?_eq_some hb h.cancelled.constant_le
  have hk : wide? (r.coefficient.tdiv r.commonFactor) = some r.cancelled.coefficient :=
    wide?_eq_some hb h.cancelled.coefficient_le
  have hq : wide? (r.denominator.tdiv r.commonFactor) = some r.cancelled.denominator :=
    wide?_eq_some hb h.cancelled.denominator_le
  simp only [cancelledWide?, wide?_eq_some hb hg, hc, hk, hq, Option.bind_eq_bind, Option.bind_some]
  rfl

theorem normalizedSignWide?_eq (hb : bound < 2 ^ 127) (h : r.Within bound) :
    r.normalizedSignWide? = some r.normalizedSign := by
  have hneg : ∀ n : Int, n.natAbs ≤ bound → wide? (-n) = some (-n) := by
    intro n hn
    exact wide?_eq_some hb (by rwa [Int.natAbs_neg])
  unfold normalizedSignWide? normalizedSign
  split_ifs
  · rw [hneg _ h.constant_le, hneg _ h.coefficient_le, hneg _ h.denominator_le]
    rfl
  · rfl

/-- **No operation of the reduction overflows.** -/
theorem reducedWide?_eq (h : r.Within (2 ^ 63)) (hn : r.radicand < largestWord)
    (hd : r.denominator ≠ 0) : r.reducedWide? = some r.reduced := by
  have hextracted := h.extracted hn
  have hcollapsed := hextracted.collapsed
  have hcancelled := hcollapsed.cancelled
  have hd' : r.extracted.collapsed.denominator ≠ 0 := by
    rwa [denominator_collapsed, denominator_extracted]
  have h₁ := extractedWide?_eq (by omega) hextracted
  have h₂ := collapsedWide?_eq (by omega) hcollapsed
  have h₃ := cancelledWide?_eq (by omega) hcollapsed hd'
  have h₄ := normalizedSignWide?_eq (by omega) hcancelled
  rw [reducedWide?, Option.bind_eq_bind, Option.bind_eq_some_iff]
  refine ⟨_, h₁, Option.bind_eq_some_iff.mpr ⟨_, h₂, Option.bind_eq_some_iff.mpr ⟨_, h₃, ?_⟩⟩⟩
  rw [h₄, reduced]

/-! ## Numbers from words -/

/-- **Words are reduced to the same number.** The only parts refused are those with denominator
zero. All others are reduced without overflow, and the reduced form stands for the number that
they describe. -/
theorem of_reduces_words {constant coefficient denominator : Int} {radicand : Nat}
    (hc : IsWord constant) (hk : IsWord coefficient) (hd : IsWord denominator)
    (hn : radicand < largestWord) :
    (of constant coefficient radicand denominator = .error .divisionByZero ↔ denominator = 0) ∧
    (denominator ≠ 0 → ∃ r, of constant coefficient radicand denominator = .ok r ∧
      reducedWide? ⟨constant, coefficient, radicand, denominator⟩ = some r ∧ r.IsReduced ∧
      r.toReal = (constant + coefficient * √(radicand : ℝ)) / denominator) := by
  refine ⟨of_eq_error_iff, fun h0 => ?_⟩
  have hwithin : Within (2 ^ 63) ⟨constant, coefficient, radicand, denominator⟩ :=
    ⟨hc.natAbs_le, hk.natAbs_le, hd.natAbs_le⟩
  have hr : of constant coefficient radicand denominator =
      .ok (reduced ⟨constant, coefficient, radicand, denominator⟩) := of_eq_ok_iff.mpr ⟨h0, rfl⟩
  exact ⟨_, hr, reducedWide?_eq hwithin hn h0, isReduced_of hr, toReal_of hr⟩

/-- The least word as the constant, over a negative denominator. -/
theorem of_least_word : IsWord (-2 ^ 63) ∧ ∃ r, of (-2 ^ 63) (-2) 8 (-4) = .ok r ∧
    reducedWide? ⟨-2 ^ 63, -2, 8, -4⟩ = some r ∧ r.IsReduced ∧
    r.toReal =
      (((-2 ^ 63 : Int) : ℝ) + ((-2 : Int) : ℝ) * √((8 : Nat) : ℝ)) / ((-4 : Int) : ℝ) := by
  have hc : IsWord (-2 ^ 63) := by decide
  have hk : IsWord (-2) := by decide
  have hd : IsWord (-4) := by decide
  have hn : 8 < largestWord := by decide
  exact ⟨hc, (of_reduces_words hc hk hd hn).2 (by decide)⟩

end Radical

end OneUnknown
