import OneUnknown.Number.Scalar
import OneUnknown.Proofs.Number.Binary64

/-!
# Identities of floating-point arithmetic

Floating-point arithmetic is rounded arithmetic of unpacked values, so what does not have to be
rounded is exact: products with one and minus one, quotients by one, sums and differences with a
zero, signs, and whole numbers of at most 53 bits. A zero is any number that tests as zero, whatever
its sign.

* `unpacked_zero`, `unpacked_one`, `unpacked_neg`, `unpacked_abs`: values of numbers;
* `beq_zero_iff`, `isFinite_iff`, `lt_zero_iff`: the classes of numbers;
* `mul_unit`, **`float_mul_one`**, **`float_mul_neg_one`**, `float_mul_zero`: products;
* **`float_div_one`**: quotients;
* `packed_congr`, **`float_add_zero`**, **`float_sub_zero`**, `float_sub_positive_zero`,
  `float_sub_neg`: sums, differences;
* `neg_abs_of_lt_zero`, `abs_of_not_lt_zero`: a number from its magnitude;
* `beq_self_of_isFinite`, `eq_of_float_beq`: the test of equality;
* **`exists_ofFloat?_ofNat`**: whole numbers.
-/

namespace OneUnknown

open Float.Model Float.Model.UnpackedFloat
open Float.Model.Format (binary64)

variable {x y z : Float}

/-! ## Values of numbers -/

theorem unpacked_zero : unpacked 0 = .zero .positive := by
  have h : (0 : Float) = packed (.zero .positive) := by decide
  rw [h]
  exact unpacked_packed trivial

theorem isCanonical_one : IsCanonical (2 ^ 52) (-52) :=
  ⟨by decide, by decide, by decide, by decide⟩

theorem unpacked_one : unpacked 1 = .finite .positive (2 ^ 52) (-52) (by decide) := by
  have h : (1 : Float) = packed (.finite .positive (2 ^ 52) (-52) (by decide)) := by
    decide
  rw [h]
  exact unpacked_packed isCanonical_one

theorem unpacked_neg (x : Float) : unpacked (-x) = (unpacked x).neg := by
  refine unpacked_packed ?_
  have h := representable_unpacked x
  change Representable (unpacked x).neg
  rcases hx : unpacked x with s | _ | s | ⟨s, m, e, hm⟩ <;> rw [hx] at h <;> exact h

theorem unpacked_abs (x : Float) : unpacked x.abs = (unpacked x).abs := by
  refine unpacked_packed ?_
  have h := representable_unpacked x
  change Representable (unpacked x).abs
  rcases hx : unpacked x with s | _ | s | ⟨s, m, e, hm⟩ <;> rw [hx] at h <;> exact h

theorem add_eq (x y : Float) : x + y = packed (.add binary64 (unpacked x) (unpacked y)) := rfl

theorem sub_eq (x y : Float) : x - y = packed (.sub binary64 (unpacked x) (unpacked y)) := rfl

theorem mul_eq (x y : Float) : x * y = packed (.mul binary64 (unpacked x) (unpacked y)) := rfl

/-! ## Classes of numbers -/

theorem lt_iff : x < y ↔ (unpacked x).compare (unpacked y) = some .lt := by
  change decide (x.toModel < y.toModel) = true ↔ _
  rw [decide_eq_true_iff]
  change ((unpacked x).compare (unpacked y) == some .lt) = true ↔ _
  rw [beq_iff_eq]

theorem le_iff : x ≤ y ↔ (unpacked x).compare (unpacked y) = some .lt ∨
    (unpacked x).compare (unpacked y) = some .eq := by
  change decide (x.toModel ≤ y.toModel) = true ↔ _
  rw [decide_eq_true_iff]
  change ((unpacked x).compare (unpacked y)).any (·.isLE) = true ↔ _
  rcases (unpacked x).compare (unpacked y) with _ | (_ | _ | _) <;> simp

theorem beq_zero_iff : (x == 0) = true ↔ ∃ s, unpacked x = .zero s := by
  change (unpacked x).beq (unpacked 0) = true ↔ _
  rw [unpacked_zero]
  rcases unpacked x with (_ | _) | _ | s | ⟨_ | _, m, e, hm⟩ <;>
    simp [UnpackedFloat.beq, UnpackedFloat.compare]

theorem exists_unpacked_of_beq_zero (h : (x == 0) = true) : ∃ s, unpacked x = .zero s := by
  rwa [beq_zero_iff] at h

theorem beq_zero_of_unpacked {s : Sign} (h : unpacked x = .zero s) : (x == 0) = true := by
  rw [beq_zero_iff]
  exact ⟨s, h⟩

theorem isFinite_iff : x.isFinite = true ↔
    (∃ s, unpacked x = .zero s) ∨ ∃ s m e hm, unpacked x = .finite s m e hm := by
  change (unpacked x).isFinite = true ↔ _
  rcases unpacked x with s | _ | s | ⟨s, m, e, hm⟩ <;> simp [UnpackedFloat.isFinite, *]

theorem isFinite_of_ofFloat? {d : Dyadic} (h : Dyadic.ofFloat? x = some d) :
    x.isFinite = true := by
  rw [ofFloat?_eq] at h
  rw [isFinite_iff]
  rcases hx : unpacked x with s | _ | s | ⟨s, m, e, hm⟩
  · rw [hx] at h
    cases h
  · rw [hx] at h
    cases h
  · exact .inl ⟨s, rfl⟩
  · exact .inr ⟨s, m, e, hm, rfl⟩

theorem exists_unpacked_of_ne_zero (h : x.isFinite) (h₀ : (x == 0) = false) :
    ∃ s m e hm, unpacked x = .finite s m e hm := by
  rw [isFinite_iff] at h
  rcases h with ⟨s, hz⟩ | hf
  · rw [beq_zero_of_unpacked hz] at h₀
    cases h₀
  · exact hf

theorem lt_zero_iff (h : x.isFinite) :
    x < 0 ↔ ∃ m e hm, unpacked x = .finite .negative m e hm := by
  rw [lt_iff, unpacked_zero]
  rcases isFinite_iff.mp h with ⟨s, hx⟩ | ⟨_ | _, m, e, hm, hx⟩ <;>
    simp [UnpackedFloat.compare, *]

/-! ## Products -/

/-- The significand of one is a power of two, which rounding shifts out again. -/
theorem mul_one_finite {s t : Sign} {m : Nat} {e : Int} (hm : 0 < m) (h : IsCanonical m e) :
    UnpackedFloat.mul binary64 (.finite s m e hm) (.finite t (2 ^ 52) (-52) (by decide)) =
      .finite (s * t) m e hm := by
  have he : e + -52 + (52 : Nat) = e := by omega
  have hr := roundWithAccuracy_exact (s := s * t) (m := m) (e := e + -52) (k := 52)
    (by rw [he]; exact h) hm
  simp only [he] at hr
  exact hr

theorem mul_unit {v : UnpackedFloat} (h : Representable v) (t : Sign) :
    UnpackedFloat.mul binary64 v (.finite t (2 ^ 52) (-52) (by decide)) =
      match t with
      | .positive => v
      | .negative => v.neg := by
  rcases v with s | _ | s | ⟨s, m, e, hm⟩
  · cases s <;> cases t <;> rfl
  · cases t <;> rfl
  · cases s <;> cases t <;> rfl
  · rw [mul_one_finite hm h]
    cases s <;> cases t <;> rfl

theorem float_mul_one (x : Float) : x * 1 = x := by
  have h := congrArg packed (mul_unit (representable_unpacked x) .positive)
  rw [mul_eq, unpacked_one]
  exact h.trans (packed_unpacked x)

theorem float_mul_neg_one (x : Float) : x * (-1) = -x := by
  rw [mul_eq, unpacked_neg, unpacked_one]
  exact congrArg packed (mul_unit (representable_unpacked x) .negative)

/-- One has the shortest significand, so the division by it leaves no remainder. -/
theorem div_one_finite {s : Sign} {m : Nat} {e : Int} (hm : 0 < m) (h : IsCanonical m e) :
    UnpackedFloat.div binary64 (.finite s m e hm) (.finite .positive (2 ^ 52) (-52) (by decide)) =
      .finite s m e hm := by
  obtain ⟨target, htarget⟩ : ∃ target, min (e - -52) (binary64.targetExponent
    (totalExponent m e - totalExponent (2 ^ 52) (-52))) = target := ⟨_, rfl⟩
  obtain ⟨k, hk⟩ : ∃ k : Nat, target + k = e := by
    refine ⟨(e - target).toNat, ?_⟩
    have hlog := (Nat.log2_lt (n := m) (k := 53) (by omega)).mpr h.lt
    have hlow := h.least_le
    have hmin : binary64.minExponent = -1074 := rfl
    have hbits : binary64.mantissaBits = 53 := rfl
    have hone : (2 ^ 52).log2 = 52 := Nat.log2_two_pow
    unfold Float.Model.Format.targetExponent totalExponent at htarget
    omega
  have hshift : (e - -52 - target).toNat = k + 52 := by omega
  have hlong : m * 2 ^ (k + 52) = m * 2 ^ k * 2 ^ 52 := by rw [Nat.pow_add, Nat.mul_assoc]
  have hcore : divCore binary64 m e (2 ^ 52) (-52) = (m * 2 ^ k, target, .exact) := by
    simp only [divCore, htarget, hshift, Nat.shiftLeft_eq, hlong,
      Nat.mul_div_cancel _ (Nat.two_pow_pos 52), Nat.mul_mod_left]
    rfl
  have hsign : s / .positive = s := by cases s <;> rfl
  have hr := roundWithAccuracy_exact (s := s) (m := m) (e := target) (k := k)
    (by rw [hk]; exact h) hm
  simp only [UnpackedFloat.div, hcore, hsign, hr, hk]

theorem float_div_one (x : Float) : x / 1 = x := by
  have hr := representable_unpacked x
  have h : UnpackedFloat.div binary64 (unpacked x) (unpacked 1) = unpacked x := by
    rw [unpacked_one]
    rcases hx : unpacked x with s | _ | s | ⟨s, m, e, hm⟩
    · cases s <;> rfl
    · rfl
    · cases s <;> rfl
    · rw [hx] at hr
      exact div_one_finite hm hr
  exact (congrArg packed h).trans (packed_unpacked x)

theorem float_mul_zero (hz : (z == 0) = true) (h : x.isFinite = true) : (x * z == 0) = true := by
  obtain ⟨t, hz⟩ := exists_unpacked_of_beq_zero hz
  rw [isFinite_iff] at h
  rw [beq_zero_iff]
  rcases h with ⟨s, hx⟩ | ⟨s, m, e, hm, hx⟩
  · exact ⟨s * t, by rw [mul_eq, hx, hz]; exact unpacked_packed trivial⟩
  · exact ⟨s * t, by rw [mul_eq, hx, hz]; exact unpacked_packed trivial⟩

/-! ## Sums and differences with zero -/

/-- Two operations on values have the same result for a number other than zero if they agree on the
infinities, on `NaN` and on finite values. -/
theorem packed_congr {f g : UnpackedFloat → UnpackedFloat} (h₀ : (x == 0) = false)
    (hinfinity : ∀ s, f (.infinity s) = g (.infinity s)) (hnan : f .notANumber = g .notANumber)
    (hfinite : ∀ s m e hm, f (.finite s m e hm) = g (.finite s m e hm)) :
    packed (f (unpacked x)) = packed (g (unpacked x)) := by
  refine congrArg packed ?_
  rcases hx : unpacked x with s | _ | s | ⟨s, m, e, hm⟩
  · exact hinfinity s
  · exact hnan
  · simp [beq_zero_of_unpacked hx] at h₀
  · exact hfinite s m e hm

section Zero

variable (hz : (z == 0) = true)

include hz

theorem float_add_zero (h₀ : (x == 0) = false) : x + z = x := by
  obtain ⟨t, hz⟩ := exists_unpacked_of_beq_zero hz
  have h := packed_congr (f := fun v => .add binary64 v (.zero t)) (g := id) h₀ (fun _ => rfl) rfl
    fun _ _ _ _ => rfl
  rw [add_eq, hz]
  exact h.trans (packed_unpacked x)

theorem float_zero_add (h₀ : (x == 0) = false) : z + x = x := by
  obtain ⟨t, hz⟩ := exists_unpacked_of_beq_zero hz
  have h := packed_congr (f := .add binary64 (.zero t)) (g := id) h₀ (fun _ => rfl) rfl
    fun _ _ _ _ => rfl
  rw [add_eq, hz]
  exact h.trans (packed_unpacked x)

theorem float_sub_zero (h₀ : (x == 0) = false) : x - z = x := by
  obtain ⟨t, hz⟩ := exists_unpacked_of_beq_zero hz
  have h := packed_congr (f := fun v => .sub binary64 v (.zero t)) (g := id) h₀ (fun _ => rfl) rfl
    fun _ _ _ _ => rfl
  rw [sub_eq, hz]
  exact h.trans (packed_unpacked x)

theorem float_zero_sub (h₀ : (x == 0) = false) : z - x = -x := by
  obtain ⟨t, hz⟩ := exists_unpacked_of_beq_zero hz
  have h := packed_congr (f := .sub binary64 (.zero t)) (g := .neg) h₀ (fun _ => rfl) rfl
    fun _ _ _ _ => rfl
  rw [sub_eq, hz]
  exact h

theorem float_zero_add_zero (h₀ : (x == 0) = true) : (z + x == 0) = true := by
  obtain ⟨t, hz⟩ := exists_unpacked_of_beq_zero hz
  obtain ⟨s, hx⟩ := exists_unpacked_of_beq_zero h₀
  rw [beq_zero_iff, add_eq, hz, hx]
  cases s <;> cases t <;> exact ⟨_, unpacked_packed trivial⟩

theorem float_zero_sub_zero (h₀ : (x == 0) = true) : (z - x == 0) = true := by
  obtain ⟨t, hz⟩ := exists_unpacked_of_beq_zero hz
  obtain ⟨s, hx⟩ := exists_unpacked_of_beq_zero h₀
  rw [beq_zero_iff, sub_eq, hz, hx]
  cases s <;> cases t <;> exact ⟨_, unpacked_packed trivial⟩

end Zero

theorem float_sub_positive_zero (x : Float) : x - 0 = x := by
  have h : UnpackedFloat.sub binary64 (unpacked x) (unpacked 0) = unpacked x := by
    rw [unpacked_zero]
    rcases unpacked x with s | _ | (_ | _) | ⟨s, m, e, hm⟩ <;> rfl
  exact (congrArg packed h).trans (packed_unpacked x)

/-! ## Signs and the test of equality -/

theorem neg_beq_zero (x : Float) : (-x == 0) = (x == 0) := by
  rw [Bool.eq_iff_iff, beq_zero_iff, beq_zero_iff, unpacked_neg]
  rcases unpacked x with s | _ | s | ⟨s, m, e, hm⟩ <;> simp [UnpackedFloat.neg]

theorem abs_beq_zero (x : Float) : (x.abs == 0) = (x == 0) := by
  rw [Bool.eq_iff_iff, beq_zero_iff, beq_zero_iff, unpacked_abs]
  rcases unpacked x with s | _ | s | ⟨s, m, e, hm⟩ <;> simp [UnpackedFloat.abs]

theorem float_sub_neg (x y : Float) : x - -y = x + y := by
  have happly : ∀ (t : Sign) (z : Int), (-t).apply z = -t.apply z := by
    rintro (_ | _) z
    · exact (Int.neg_neg z).symm
    · rfl
  rw [sub_eq, add_eq, unpacked_neg]
  refine congrArg packed ?_
  rcases unpacked x with s | _ | s | ⟨s, m, e, hm⟩ <;>
    rcases unpacked y with t | _ | t | ⟨t, n, d, hn⟩
  case finite.finite =>
    simp only [UnpackedFloat.neg, UnpackedFloat.sub, UnpackedFloat.add, happly, sub_neg_eq_add]
  all_goals first | rfl | cases t <;> rfl

theorem abs_isFinite (x : Float) : x.abs.isFinite = x.isFinite := by
  change (unpacked x.abs).isFinite = (unpacked x).isFinite
  rw [unpacked_abs]
  rcases unpacked x with s | _ | s | ⟨s, m, e, hm⟩ <;> rfl

theorem neg_isFinite (x : Float) : (-x).isFinite = x.isFinite := by
  change (unpacked (-x)).isFinite = (unpacked x).isFinite
  rw [unpacked_neg]
  rcases unpacked x with s | _ | s | ⟨s, m, e, hm⟩ <;> rfl

theorem neg_abs_of_lt_zero (h : x.isFinite) (hx : x < 0) : -x.abs = x := by
  obtain ⟨m, e, hm, hx⟩ := (lt_zero_iff h).mp hx
  apply unpacked_injective
  rw [unpacked_neg, unpacked_abs, hx]
  rfl

theorem abs_of_not_lt_zero (h : x.isFinite) (h₀ : (x == 0) = false) (hx : ¬ x < 0) :
    x.abs = x := by
  obtain ⟨s, m, e, hm, hs⟩ := exists_unpacked_of_ne_zero h h₀
  apply unpacked_injective
  rw [unpacked_abs, hs]
  cases s with
  | negative => exact absurd ((lt_zero_iff h).mpr ⟨m, e, hm, hs⟩) hx
  | positive => rfl

theorem beq_self_of_isFinite (h : x.isFinite) : (x == x) = true := by
  rw [Float.beq_self_iff]
  rintro rfl
  exact absurd h (by decide)

theorem eq_of_float_beq (h : (x == y) = true) (h₀ : (y == 0) = false) : x = y := by
  obtain ⟨-, -, heq | ⟨-, hy⟩ | ⟨-, hy⟩⟩ := Float.beq_iff_ne_nan_and_eq.mp h
  · exact heq
  · exact absurd (hy ▸ h₀) (by decide)
  · exact absurd (hy ▸ h₀) (by decide)

/-! ## Whole numbers -/

section Whole

variable {n : Nat}

theorem isCanonical_natural (hn : 0 < n) (h : n < 2 ^ 53) :
    IsCanonical (n * 2 ^ (52 - n.log2)) ((n.log2 : Int) - 52) := by
  have hlog := (Nat.log2_lt (n := n) (k := 53) (by omega)).mpr h
  have hlo := Nat.log2_self_le (n := n) (by omega)
  have hhi := Nat.lt_log2_self (n := n)
  refine ⟨?_, by omega, by omega, .inl ?_⟩
  · calc n * 2 ^ (52 - n.log2) < 2 ^ (n.log2 + 1) * 2 ^ (52 - n.log2) :=
        Nat.mul_lt_mul_of_pos_right hhi (Nat.two_pow_pos _)
      _ = 2 ^ 53 := by rw [← Nat.pow_add]; congr 1; omega
  · calc 2 ^ 52 = 2 ^ n.log2 * 2 ^ (52 - n.log2) := by rw [← Nat.pow_add]; congr 1; omega
      _ ≤ n * 2 ^ (52 - n.log2) := Nat.mul_le_mul_right _ hlo

theorem normalize_natural (hn : 0 < n) (h : n < 2 ^ 53) :
    UnpackedFloat.normalize binary64 (n : Int) 0 .positive =
      .finite .positive (n * 2 ^ (52 - n.log2)) ((n.log2 : Int) - 52)
        (Nat.mul_pos hn (Nat.two_pow_pos _)) := by
  have hlog := (Nat.log2_lt (n := n) (k := 53) (by omega)).mpr h
  have hc : compare (n : Int) 0 = .gt := by simpa [Int.compare_eq_gt] using hn
  have ht : binary64.targetExponent (totalExponent n 0) = (n.log2 : Int) - 52 := by
    have hmin : binary64.minExponent = -1074 := rfl
    have hbits : binary64.mantissaBits = 53 := rfl
    unfold Float.Model.Format.targetExponent totalExponent
    omega
  have hs : (0 - ((n.log2 : Int) - 52)).toNat = 52 - n.log2 := by omega
  have he : (0 : Int) - ((52 - n.log2 : Nat) : Int) = (n.log2 : Int) - 52 := by omega
  have hr := roundWithAccuracy_exact (s := .positive) (k := 0)
    (by simpa using isCanonical_natural hn h) (Nat.mul_pos hn (Nat.two_pow_pos _))
  simp only [UnpackedFloat.normalize, hc, Int.toNat_natCast, UnpackedFloat.round, ht,
    decreaseExponent, hs, he, Nat.shiftLeft_eq]
  simpa using hr

theorem ofNat_eq_packed (h : n < 2 ^ 53) :
    Float.ofNat n = packed (UnpackedFloat.normalize binary64 (n : Int) 0 .positive) := by
  have hpow : Float.ofBits 0x3FF0000000000000 = 1 := by decide
  have htoNat : n.toUInt64.toNat = n := by
    simp; omega
  have hfloat : n.toUInt64.toFloat =
      packed (UnpackedFloat.normalize binary64 (n : Int) 0 .positive) := by
    change packed (UnpackedFloat.normalize binary64 (n.toUInt64.toNat : Int) 0 .positive) = _
    rw [htoNat]
  change Float.ofScientific n false 0 = _
  unfold Float.ofScientific
  rw [dif_pos ⟨h, by omega⟩]
  change n.toUInt64.toFloat * Float.ofBits 0x3FF0000000000000 = _
  rw [hpow, float_mul_one, hfloat]

/-- **Whole numbers of at most 53 bits are exact.** -/
theorem exists_ofFloat?_ofNat (h : n < 2 ^ 53) : ∃ d, Dyadic.ofFloat? (Float.ofNat n) = some d ∧
    d.negative = false ∧ d.numerator = n * d.denominator := by
  rw [ofNat_eq_packed h]
  rcases Nat.eq_zero_or_pos n with rfl | hn
  · exact ⟨_, ofFloat?_packed (f := .zero .positive) trivial, rfl, by simp [Dyadic.numerator]⟩
  · rw [normalize_natural hn h]
    refine ⟨_, ofFloat?_packed (isCanonical_natural hn h), rfl, ?_⟩
    have hlog := (Nat.log2_lt (n := n) (k := 53) (by omega)).mpr h
    have h₁ : ((n.log2 : Int) - 52).toNat = 0 := by omega
    have h₂ : (-((n.log2 : Int) - 52)).toNat = 52 - n.log2 := by omega
    simp [Dyadic.numerator, Dyadic.denominator, h₁]

end Whole

end OneUnknown
