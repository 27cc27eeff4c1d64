import OneUnknown.Proofs.Quadratic.Proportional

/-!
# Layouts of answers

An answer shows two solutions, one, or a conjugate pair. The layouts exclude each other, since the
numbers in them have neither a comma nor the sign `±`.

* **`RootKind`**, **`Shows`**: the three layouts; `Shows.unique`: an answer has one of them;
* `isNumberText_decimalText`: the characters of a decimal;
* **`Quadratic.exists_shows_exactText`**: the layout of an exact answer;
* **`Quadratic.shows_decimalRoots`**: the layout of a decimal answer.
-/

namespace OneUnknown

/-! ## Layouts -/

/-- **What an answer shows**: two numbers, one, or a conjugate pair. -/
inductive RootKind where
  | two
  | one
  | conjugate
deriving DecidableEq

/-- A text with neither of the signs that tell the layouts apart. -/
def IsNumberText (text : String) : Prop := ',' ∉ text.toList ∧ '±' ∉ text.toList

/-- **The answer has the layout of a kind**, in the unknown `name`. -/
def Shows (name : Char) (text : String) : RootKind → Prop
  | .two => ∃ first second, IsNumberText first ∧ IsNumberText second ∧
      text = pairText name first second
  | .one => ∃ root, IsNumberText root ∧ text = assignment name root
  | .conjugate => ∃ re reIsZero im, IsNumberText re ∧ IsNumberText im ∧
      text = complexText name re reIsZero im

/-- The kind of the solutions. -/
def QuadraticRoots.kind : QuadraticRoots → RootKind
  | .distinct _ _ => .two
  | .repeated _ => .one
  | .complex _ _ => .conjugate

namespace Shows

variable {name : Char} {text : String} {kind kind' : RootKind}

/-- What follows the first sign of equality has a comma if two numbers are shown, and otherwise the
sign `±` if a conjugate pair is. -/
theorem kind_eq (h : Shows name text kind) : kind =
    if ',' ∈ text.toList.drop 4 then .two
    else if '±' ∈ text.toList.drop 4 then .conjugate else .one := by
  cases kind with
  | two =>
    obtain ⟨first, second, -, -, rfl⟩ := h
    rw [if_pos]
    simp [pairText, String.toList_append, Quadratic.toList_assignment]
  | one =>
    obtain ⟨root, ⟨hcomma, hsign⟩, rfl⟩ := h
    rw [if_neg, if_neg] <;> simpa [Quadratic.toList_assignment]
  | conjugate =>
    obtain ⟨re, reIsZero, im, ⟨hcomma, -⟩, ⟨hcomma', -⟩, rfl⟩ := h
    cases reIsZero <;> rw [if_neg, if_pos] <;>
      simp [complexText, String.toList_append, Quadratic.toList_assignment, *]

theorem unique (h : Shows name text kind) (h' : Shows name text kind') : kind = kind' :=
  h.kind_eq.trans h'.kind_eq.symm

end Shows

/-! ## Characters of decimals -/

theorem mem_pointed {places n : Nat} {c : Char} (h : c ∈ pointed places n) :
    c.isDigit = true ∨ c = '.' := by
  have hpadded : ∀ {width : Nat}, c ∈ padded width n → c.isDigit = true := by
    intro width hc
    rcases List.mem_append.mp hc with hc | hc
    · rw [List.eq_of_mem_replicate hc]
      rfl
    · exact isDigit_of_mem_digits hc
  simp only [pointed] at h
  split at h
  · exact .inl (hpadded h)
  · rcases List.mem_append.mp h with h | h
    · exact .inl (hpadded (List.mem_of_mem_take h))
    · rcases List.mem_cons.mp h with h | h
      · exact .inr h
      · exact .inl (hpadded (List.mem_of_mem_drop h))

theorem mem_withoutTrailingZeros {text : List Char} {c : Char}
    (h : c ∈ withoutTrailingZeros text) : c ∈ text := by
  have hidle : ∀ c ∈ dropIdle text, c ∈ text := by
    intro c hc
    have hkept : c ∈ (text.reverse.dropWhile (· == '0')).reverse := by
      simp only [dropIdle] at hc
      split at hc
      · exact List.mem_of_mem_dropLast hc
      · exact hc
    exact List.mem_reverse.mp ((List.dropWhile_sublist _).subset (List.mem_reverse.mp hkept))
  have hshort : ∀ c ∈ (if '.' ∈ text then dropIdle text else text), c ∈ text := by
    intro c hc
    split at hc
    · exact hidle c hc
    · exact hc
  simp only [withoutTrailingZeros] at h
  generalize (if '.' ∈ text then dropIdle text else text) = short at h hshort
  split at h
  · rename_i hzero
    refine hshort c ?_
    rw [hzero]
    exact List.mem_cons_of_mem _ h
  · exact hshort c h

theorem mem_fixedText {places : Nat} {x : Float} {c : Char}
    (h : c ∈ (fixedText places x).toList) :
    c.isDigit = true ∨ c = '.' ∨ c ∈ "-NaNinf".toList := by
  unfold fixedText signedText at h
  split at h
  · refine .inr (.inr ?_)
    split at h
    · exact (show "NaN".toList ⊆ "-NaNinf".toList by decide) h
    · split at h
      · exact (show "-inf".toList ⊆ "-NaNinf".toList by decide) h
      · exact (show "inf".toList ⊆ "-NaNinf".toList by decide) h
  · rw [String.toList_ofList] at h
    split at h
    · rcases List.mem_cons.mp h with rfl | h
      · exact .inr (.inr (by decide))
      · exact (mem_pointed h).imp_right .inl
    · exact (mem_pointed h).imp_right .inl

theorem isNumberText_decimalText (places : Nat) (x : Float) :
    IsNumberText (decimalText places x) := by
  have hmem : ∀ c ∈ (decimalText places x).toList,
      c.isDigit = true ∨ c = '.' ∨ c ∈ "-NaNinf".toList := by
    intro c hc
    rw [decimalText, String.toList_ofList] at hc
    exact mem_fixedText (mem_withoutTrailingZeros hc)
  exact ⟨fun h => absurd (hmem _ h) (by decide), fun h => absurd (hmem _ h) (by decide)⟩

/-! ## Exact answers -/

namespace Quadratic

/-- The kind of answer that a discriminant calls for. -/
def kindOfSign (discriminant : Int) : RootKind :=
  if 0 < discriminant then .two else if discriminant = 0 then .one else .conjugate

theorem isNumberText_text (r : Radical) : IsNumberText r.text :=
  ⟨Shown.comma_not_mem r, Shown.plusMinus_not_mem r⟩

/-- **An exact answer is of the kind that the discriminant calls for.** -/
theorem exists_shows_exactText (name : Char) {a : Int} (ha : a ≠ 0) (b D : Int) :
    ∃ text, exactText name a b D = .ok text ∧ Shows name text (kindOfSign D) := by
  obtain ⟨s, hok, hsolves⟩ := exists_shown name ha b D
  refine ⟨s.text name, hok, ?_⟩
  rcases s with ⟨r₁, r₂⟩ | r | ⟨re, im⟩
  · rw [kindOfSign, if_pos hsolves.1]
    exact ⟨_, _, isNumberText_text r₁.toRadical, isNumberText_text r₂.toRadical, rfl⟩
  · rw [kindOfSign, if_neg hsolves.1.not_gt, if_pos hsolves.1]
    exact ⟨_, isNumberText_text r.toRadical, rfl⟩
  · rw [kindOfSign, if_neg hsolves.1.not_gt, if_neg hsolves.1.ne]
    exact ⟨_, _, _, isNumberText_text re.toRadical, isNumberText_text im.toRadical, rfl⟩

/-! ## Answers in floating-point arithmetic -/

theorem shows_decimalRoots (places : Nat) (q : Quadratic) :
    Shows q.name (q.decimalRoots places) (roots q.a q.b q.c).kind := by
  unfold decimalRoots
  rcases roots q.a q.b q.c with ⟨r₁, r₂⟩ | r | ⟨re, im⟩
  · exact ⟨_, _, isNumberText_decimalText _ _, isNumberText_decimalText _ _, rfl⟩
  · exact ⟨_, isNumberText_decimalText _ _, rfl⟩
  · exact ⟨_, _, _, isNumberText_decimalText _ _, isNumberText_decimalText _ _, rfl⟩

end Quadratic

end OneUnknown
