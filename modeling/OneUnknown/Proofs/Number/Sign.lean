import OneUnknown.Number.Numeral
import OneUnknown.Proofs.Number.Arithmetic

/-!
# Literals are not negative

A literal has no sign of its own. The number that is nearest to it is computed by products and
quotients of numbers whose sign bit is clear, and rounding keeps the sign.

* `IsUnsigned`, `isUnsigned_of_toBits`: values with a clear sign bit;
* `IsUnsigned.mul`, `IsUnsigned.div`, `isUnsigned_normalize`: arithmetic keeps the sign bit clear;
* **`exactValue_literalValue_nonneg`**: the value of a literal is at least zero.
-/

namespace OneUnknown

open Float.Model Float.Model.UnpackedFloat
open Float.Model.Format (binary64)

/-- A value whose sign bit is clear. -/
def IsUnsigned : UnpackedFloat → Prop
  | .infinity s | .zero s | .finite s _ _ _ => s = .positive
  | .notANumber => True

theorem isUnsigned_roundWithAccuracy (m : Nat) (e : Int) (accuracy : Accuracy) :
    IsUnsigned (roundWithAccuracy binary64 .positive m e accuracy) := by
  unfold roundWithAccuracy
  dsimp only
  split <;> rfl

theorem isUnsigned_normalize (n : Nat) (e : Int) :
    IsUnsigned (UnpackedFloat.normalize binary64 (n : Int) e .positive) := by
  unfold UnpackedFloat.normalize
  split
  · rename_i h
    rw [Int.compare_eq_lt] at h
    omega
  · rfl
  · exact isUnsigned_roundWithAccuracy _ _ _

section

variable {f g : UnpackedFloat}

theorem IsUnsigned.mul (hf : IsUnsigned f) (hg : IsUnsigned g) :
    IsUnsigned (UnpackedFloat.mul binary64 f g) := by
  rcases f with s | _ | s | ⟨s, m, e, hm⟩ <;> rcases g with t | _ | t | ⟨t, n, d, hn⟩ <;>
    cases hf <;> cases hg <;> first | rfl | trivial | exact isUnsigned_roundWithAccuracy _ _ _

theorem IsUnsigned.div (hf : IsUnsigned f) (hg : IsUnsigned g) :
    IsUnsigned (UnpackedFloat.div binary64 f g) := by
  rcases f with s | _ | s | ⟨s, m, e, hm⟩ <;> rcases g with t | _ | t | ⟨t, n, d, hn⟩ <;>
    cases hf <;> cases hg <;> first | rfl | trivial | exact isUnsigned_roundWithAccuracy _ _ _

theorem isUnsigned_ofScientific (m : Nat) (e : Int) :
    IsUnsigned (UnpackedFloat.ofScientific binary64 m e) := by
  unfold UnpackedFloat.ofScientific
  split
  · rfl
  · split
    · rfl
    · split
      · rfl
      · split
        · exact IsUnsigned.mul rfl rfl
        · exact IsUnsigned.div rfl rfl

theorem IsUnsigned.exists_pack (h : IsUnsigned f) :
    ∃ E F, UnpackedFloat.pack binary64 f = packComponents binary64 .positive E F := by
  rcases f with s | _ | s | ⟨s, m, e, hm⟩
  · cases h
    exact ⟨_, _, rfl⟩
  · exact ⟨_, _, rfl⟩
  · cases h
    exact ⟨_, _, rfl⟩
  · cases h
    simp only [UnpackedFloat.pack]
    split
    · exact ⟨_, _, rfl⟩
    · split <;> exact ⟨_, _, rfl⟩

end

theorem isUnsigned_unpack {b : BitVec binary64.numBits} (h : unpackSign b = 0#1) :
    IsUnsigned (UnpackedFloat.unpack binary64 b) := by
  simp only [UnpackedFloat.unpack, h]
  split
  · split <;> trivial
  · split
    · split <;> rfl
    · rfl

theorem IsUnsigned.unpacked_packed {f : UnpackedFloat} (h : IsUnsigned f) :
    IsUnsigned (unpacked (packed f)) := by
  obtain ⟨E, F, hp⟩ := h.exists_pack
  refine isUnsigned_unpack (b := UnpackedFloat.pack binary64 f) ?_
  rw [hp, unpackSign_packComponents]
  rfl

theorem isUnsigned_of_toBits {x : Float} (h : x.toBits.toNat < 2 ^ 63) :
    IsUnsigned (unpacked x) := by
  refine isUnsigned_unpack (BitVec.eq_of_toNat_eq ?_)
  have hbits : x.toModel.toBits.toBitVec.toNat < 2 ^ 63 := h
  rw [toNat_unpackSign]
  exact Nat.div_eq_of_lt hbits

theorem exactValue_nonneg {x : Float} (h : IsUnsigned (unpacked x)) : 0 ≤ exactValue x := by
  unfold exactValue
  rw [ofFloat?_eq]
  rcases hx : unpacked x with s | _ | s | ⟨s, m, e, hm⟩
  · exact le_refl 0
  · exact le_refl 0
  · rw [hx] at h
    cases h
    exact Rat.mkRat_nonneg (Int.natCast_nonneg _) _
  · rw [hx] at h
    cases h
    exact Rat.mkRat_nonneg (Int.natCast_nonneg _) _

theorem isUnsigned_powerOfTen :
    ∀ e : Fin Float.exactlyRepresentablePowersOfTen.size,
      IsUnsigned (unpacked Float.exactlyRepresentablePowersOfTen[e]) := by
  have h : ∀ e : Fin 23, Float.exactlyRepresentablePowersOfTen[e].toBits.toNat < 2 ^ 63 := by
    decide
  exact fun e => isUnsigned_of_toBits (h e)

theorem isUnsigned_floatOfScientific (m : Nat) (s : Bool) (e : Nat) :
    IsUnsigned (unpacked (Float.ofScientific m s e)) := by
  have htoFloat : IsUnsigned (unpacked m.toUInt64.toFloat) :=
    (isUnsigned_normalize _ _).unpacked_packed
  unfold Float.ofScientific
  split
  · have he : e < Float.exactlyRepresentablePowersOfTen.size := by
      simp [Float.exactlyRepresentablePowersOfTen]
      omega
    have hpower := isUnsigned_powerOfTen ⟨e, he⟩
    split
    · exact (htoFloat.div hpower).unpacked_packed
    · exact (htoFloat.mul hpower).unpacked_packed
  · exact (isUnsigned_ofScientific _ _).unpacked_packed

theorem exactValue_literalValue_nonneg (text : List Char) : 0 ≤ exactValue (literalValue text) := by
  apply exactValue_nonneg
  unfold literalValue nearestFloat
  dsimp only
  split
  · rw [unpacked_zero]
    rfl
  · split
    · exact isUnsigned_of_toBits (by decide)
    · split <;> exact isUnsigned_floatOfScientific _ _ _

end OneUnknown
