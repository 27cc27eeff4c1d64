import Mathlib.Data.List.Perm.Basic
import OneUnknown.Text.Canonical

/-!
# What the composed form keeps

A text is composed by taking its characters apart, ordering the parts and joining them again. What
a character shares with the parts that it stands for is therefore the same before and after: the
number of its signs of some kind, or whether there is one at all.

* `partings`: the tables as one; `mem_of_pairOf?`, `mem_of_wholeOf?`, `mem_partings_of_singleForm?`:
  rows that are found;
* `Hangul.IsLetter`: syllables and their letters;
* `perm_reorder`: putting marks in order loses none;
* **`IsKept`**, `total`: a quantity that a code point shares with its parts, and that of a text;
* **`IsKept.total_composed`**: a text and its composed form agree in such a quantity.
-/

namespace OneUnknown

/-! ## Rows that are found -/

/-- **The tables as one**: a code point and the parts that it stands for. -/
def partings : List (Nat × List Nat) :=
  (joinedPairs ++ splitPairs).map (fun row => (row.1, [row.2.1, row.2.2])) ++
    singleRuns.flatMap fun run => (run.2.zipIdx run.1).map fun entry => (entry.2, [entry.1])

theorem mem_partings_of_mem {whole first second : Nat}
    (h : (whole, first, second) ∈ joinedPairs ++ splitPairs) :
    (whole, [first, second]) ∈ partings :=
  List.mem_append_left _ (List.mem_map.mpr ⟨_, h, rfl⟩)

theorem mem_of_pairOf? {table : List (Nat × Nat × Nat)} {whole first second : Nat}
    (h : pairOf? table whole = some (first, second)) : (whole, first, second) ∈ table := by
  obtain ⟨⟨code, pair⟩, hfind, hpair⟩ := Option.map_eq_some_iff.mp h
  have hcode : code = whole := by simpa using List.find?_some hfind
  have hmem := List.mem_of_find?_eq_some hfind
  rwa [hcode, show pair = (first, second) from hpair] at hmem

theorem mem_of_wholeOf? {table : List (Nat × Nat × Nat)} {whole first second : Nat}
    (h : wholeOf? table first second = some whole) : (whole, first, second) ∈ table := by
  obtain ⟨⟨code, first', second'⟩, hfind, hcode⟩ := Option.map_eq_some_iff.mp h
  have hparts : first' = first ∧ second' = second := by simpa using List.find?_some hfind
  have hmem := List.mem_of_find?_eq_some hfind
  rwa [hparts.1, hparts.2, show code = whole from hcode] at hmem

theorem mem_partings_of_singleForm? {code single : Nat} (h : singleForm? code = some single) :
    (code, [single]) ∈ partings := by
  obtain ⟨⟨start, replacements⟩, hmem, hfound⟩ := List.exists_of_findSome?_eq_some h
  refine List.mem_append_right _ (List.mem_flatMap.mpr ⟨_, hmem, ?_⟩)
  refine List.mem_map.mpr ⟨(single, code), ?_, rfl⟩
  by_cases hle : start ≤ code
  · exact List.mem_zipIdx_iff_le_and_getElem?_sub.mpr ⟨hle, by simpa [hle] using hfound⟩
  · simp [hle] at hfound

/-! ## Syllables -/

namespace Hangul

/-- A syllable, or one of the letters that syllables are made of. -/
def IsLetter (code : Nat) : Prop :=
  0x1100 ≤ code ∧ code ≤ 0x1112 ∨ 0x1161 ≤ code ∧ code ≤ 0x11C2 ∨ 0xAC00 ≤ code ∧ code ≤ 0xD7A3

theorem isLetter_of_decompose? {code : Nat} {letters : List Nat}
    (h : decompose? code = some letters) :
    IsLetter code ∧ ∃ leading vowel, IsLetter leading ∧ IsLetter vowel ∧
      (letters = [leading, vowel] ∨ ∃ trailing, IsLetter trailing ∧
        letters = [leading, vowel, trailing]) := by
  unfold IsLetter
  unfold decompose? at h
  split at h
  · refine ⟨by omega, 0x1100 + (code - 0xAC00) / 588, 0x1161 + (code - 0xAC00) % 588 / 28,
      by omega, by omega, ?_⟩
    dsimp only at h
    split at h
    · exact .inl (Option.some.inj h).symm
    · exact .inr ⟨0x11A7 + (code - 0xAC00) % 28, by omega, (Option.some.inj h).symm⟩
  · simp at h

theorem isLetter_of_compose? {first second whole : Nat} (h : compose? first second = some whole) :
    IsLetter first ∧ IsLetter second ∧ IsLetter whole := by
  unfold IsLetter
  unfold compose? at h
  split at h
  · obtain rfl := Option.some.inj h
    omega
  · split at h
    · obtain rfl := Option.some.inj h
      omega
    · simp at h

end Hangul

/-! ## Order -/

theorem perm_place (code : Nat) (codes : List Nat) : (place code codes).Perm (code :: codes) := by
  induction codes with
  | nil => exact .refl _
  | cons next rest ih =>
    rw [place]
    split
    · exact (ih.cons next).trans (.swap code next rest)
    · exact .refl _

/-- **No code point is lost or invented** when marks are put in order. -/
theorem perm_reorder (codes : List Nat) : (reorder codes).Perm codes := by
  induction codes with
  | nil => exact .refl _
  | cons code codes ih => exact (perm_place code _).trans (ih.cons code)

/-! ## Quantities -/

variable {α : Type} {op : α → α → α} {unit : α} {f : Nat → α} {codes rest : List Nat} {code : Nat}

/-- The quantities of code points put together. -/
def total (op : α → α → α) (unit : α) (f : Nat → α) (codes : List Nat) : α :=
  (codes.map f).foldr op unit

@[simp]
theorem total_cons : total op unit f (code :: rest) = op (f code) (total op unit f rest) := rfl

/-- **A quantity that a code point shares with its parts**, row by row. -/
structure IsKept (op : α → α → α) (unit : α) (f : Nat → α) : Prop where
  parted : ∀ row ∈ partings, f row.1 = total op unit f row.2
  /-- Syllables and their letters have one quantity, which counts no more twice than once. -/
  hangul : ∃ value, op value value = value ∧ ∀ code, Hangul.IsLetter code → f code = value
  /-- A code point of no character stands for the zeroth one. -/
  ofNat : ∀ code, f (Char.ofNat code).toNat = f code

theorem total_perm [Std.Associative op] [Std.Commutative op] (h : codes.Perm rest) :
    total op unit f codes = total op unit f rest :=
  (h.map f).foldr_op_eq

/-! ### Decomposition -/

section Laws

variable [Std.LawfulIdentity op unit]

theorem total_singleton (code : Nat) : total op unit f [code] = f code :=
  Std.LawfulRightIdentity.right_id (f code)

theorem total_pair (first second : Nat) :
    total op unit f [first, second] = op (f first) (f second) := by
  rw [total_cons, total_singleton]

theorem IsKept.total_canonicalStep (h : IsKept op unit f) (code : Nat) :
    total op unit f (canonicalStep code) = f code := by
  rw [canonicalStep]
  rcases hjoined : pairOf? joinedPairs code with _ | ⟨first, second⟩
  · rcases hsplit : pairOf? splitPairs code with _ | ⟨first, second⟩
    · rcases hsingle : singleForm? code with _ | single
      · exact total_singleton code
      · exact (h.parted _ (mem_partings_of_singleForm? hsingle)).symm
    · have hmem := mem_partings_of_mem (List.mem_append_right _ (mem_of_pairOf? hsplit))
      exact (h.parted _ hmem).symm
  · have hmem := mem_partings_of_mem (List.mem_append_left _ (mem_of_pairOf? hjoined))
    exact (h.parted _ hmem).symm

theorem IsKept.eq_of_join? (h : IsKept op unit f) {first second whole : Nat}
    (hjoin : join? first second = some whole) : f whole = op (f first) (f second) := by
  rw [join?] at hjoin
  rcases hsyllable : Hangul.compose? first second with _ | syllable
  · rw [hsyllable] at hjoin
    have hmem := mem_partings_of_mem (List.mem_append_left _ (mem_of_wholeOf? hjoin))
    exact (h.parted _ hmem).trans (total_pair first second)
  · rw [hsyllable] at hjoin
    obtain rfl := Option.some.inj hjoin
    obtain ⟨value, hvalue, hf⟩ := h.hangul
    obtain ⟨hfirst, hsecond, hwhole⟩ := Hangul.isLetter_of_compose? hsyllable
    rw [hf _ hfirst, hf _ hsecond, hf _ hwhole, hvalue]

/-- The code points of the group that is being built, if there is one. -/
def pending : Option Group → List Nat
  | none => []
  | some group => group.codes

variable [Std.Associative op]

theorem total_append (codes rest : List Nat) :
    total op unit f (codes ++ rest) = op (total op unit f codes) (total op unit f rest) := by
  induction codes with
  | nil => exact (Std.LawfulLeftIdentity.left_id (total op unit f rest)).symm
  | cons code codes ih =>
    rw [List.cons_append, total_cons, ih, total_cons]
    ac_rfl

theorem total_flatMap {g : Nat → List Nat} (h : ∀ code, total op unit f (g code) = f code)
    (codes : List Nat) : total op unit f (codes.flatMap g) = total op unit f codes := by
  induction codes with
  | nil => rfl
  | cons code codes ih => rw [List.flatMap_cons, total_append, h, ih, total_cons]

theorem IsKept.total_decompose (h : IsKept op unit f) (code : Nat) :
    total op unit f (decompose code) = f code := by
  rw [decompose]
  rcases hletters : Hangul.decompose? code with _ | letters
  · simp only
    rw [total_flatMap h.total_canonicalStep, total_flatMap h.total_canonicalStep,
      h.total_canonicalStep]
  · obtain ⟨value, hvalue, hf⟩ := h.hangul
    obtain ⟨hcode, leading, vowel, hleading, hvowel, rfl | ⟨trailing, htrailing, rfl⟩⟩ :=
      Hangul.isLetter_of_decompose? hletters
    · simp only
      rw [total_pair, hf _ hcode, hf _ hleading, hf _ hvowel, hvalue]
    · simp only
      rw [total_cons, total_pair, hf _ hcode, hf _ hleading, hf _ hvowel, hf _ htrailing, hvalue,
        hvalue]

/-! ### Composition -/

variable [Std.Commutative op]

theorem IsKept.total_join? (h : IsKept op unit f) {group joined : Group}
    (hjoin : group.join? code = some joined) :
    total op unit f joined.codes = op (total op unit f group.codes) (f code) := by
  rw [Group.join?] at hjoin
  split at hjoin
  · simp at hjoin
  · obtain ⟨whole, hwhole, rfl⟩ := Option.map_eq_some_iff.mp hjoin
    simp only [Group.codes, total_cons, h.eq_of_join? hwhole]
    ac_rfl

/-- **Joining keeps the quantity** of the group and of what follows it. -/
theorem IsKept.total_recomposeFrom (h : IsKept op unit f) (group? : Option Group)
    (codes : List Nat) :
    total op unit f (recomposeFrom group? codes) = total op unit f (pending group? ++ codes) := by
  induction group?, codes using recomposeFrom.induct with
  | case1 => rfl
  | case2 group => rw [recomposeFrom, pending, List.append_nil]
  | case3 code rest hclass ih =>
    rw [recomposeFrom, if_pos hclass, ih]
    rfl
  | case4 code rest hclass ih =>
    rw [recomposeFrom, if_neg hclass, total_cons, ih]
    rfl
  | case5 group code rest joined hjoin ih =>
    rw [recomposeFrom]
    simp only [hjoin]
    rw [ih, pending, total_append, h.total_join? hjoin, pending, total_append, total_cons]
    ac_rfl
  | case6 group code rest hjoin hclass ih =>
    rw [recomposeFrom]
    simp only [hjoin, if_pos hclass]
    rw [total_append, ih]
    exact (total_append group.codes (code :: rest)).symm
  | case7 group code rest hjoin hclass ih =>
    rw [recomposeFrom]
    simp only [hjoin, if_neg hclass]
    rw [ih, pending, pending, Group.codes, Group.codes]
    simp

/-! ## The composed form -/

/-- **A text and its composed form agree** in what a code point shares with its parts. -/
theorem IsKept.total_composed (h : IsKept op unit f) (text : List Char) :
    total op unit f ((composed text).map Char.toNat) = total op unit f (text.map Char.toNat) := by
  rw [composed]
  split
  · rfl
  · have hmap : ∀ codes : List Nat,
        total op unit f ((codes.map Char.ofNat).map Char.toNat) = total op unit f codes := by
      intro codes
      simp only [total, List.map_map]
      congr 1
      exact List.map_congr_left fun code _ => h.ofNat code
    rw [hmap, recompose, h.total_recomposeFrom, pending, List.nil_append,
      total_perm (perm_reorder _), total_flatMap h.total_decompose]

end Laws

end OneUnknown
