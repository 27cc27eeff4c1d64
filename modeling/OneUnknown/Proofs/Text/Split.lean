import OneUnknown.Proofs.Text.Kept

/-!
# Where a composed form splits

A character below `À` stands for itself alone, starts a group of its own and is never joined to
what stands before it. So the composed form of a text is put together from those of its two parts,
wherever the second part begins with such a character.

* `SplitTables`: what is checked of the tables;
* `decompose_of_lt`, `combiningClass_of_lt`, `join?_eq_none_of_lt`: what it means for one code
  point;
* `reorder_append`, `recomposeFrom_append`: the passes one by one;
* `composedCodes`, **`composedCodes_append`**: all passes;
* **`composed_append`**, **`composed_append_of_lt`**: a text that begins, or ends, with such
  characters.
-/

namespace OneUnknown

/-! ## What the tables say -/

/-- The least code point that stands for others. -/
def firstWhole : Nat := 0xC0

/-- **What the tables say**, row by row. -/
structure SplitTables : Prop where
  wholes : ∀ row ∈ partings, firstWhole ≤ row.1
  marks : ∀ row ∈ joinedPairs, firstMark.toNat ≤ row.2.2
  classes : ∀ entry ∈ combiningClasses, firstMark.toNat ≤ entry.1.1

theorem splitTables : SplitTables where
  wholes := by decide +kernel
  marks := by decide +kernel
  classes := by decide +kernel

variable {code first : Nat} {codes rest : List Nat}

theorem lt_firstMark_of_lt (h : code < firstWhole) : code < firstMark.toNat :=
  Nat.lt_trans h (by decide)

theorem canonicalStep_of_lt (h : code < firstWhole) : canonicalStep code = [code] := by
  have hnot : ∀ parts, (code, parts) ∉ partings := fun parts hmem =>
    Nat.not_le.mpr h (SplitTables.wholes splitTables _ hmem)
  have hpair : ∀ table, (∀ row ∈ table, row ∈ joinedPairs ++ splitPairs) →
      pairOf? table code = none := by
    intro table htable
    by_contra hne
    obtain ⟨⟨first, second⟩, hpair⟩ := Option.ne_none_iff_exists'.mp hne
    exact hnot _ (mem_partings_of_mem (htable _ (mem_of_pairOf? hpair)))
  have hsingle : singleForm? code = none := by
    by_contra hne
    obtain ⟨single, hsingle⟩ := Option.ne_none_iff_exists'.mp hne
    exact hnot _ (mem_partings_of_singleForm? hsingle)
  rw [canonicalStep, hpair joinedPairs fun row hrow => List.mem_append_left _ hrow,
    hpair splitPairs fun row hrow => List.mem_append_right _ hrow, hsingle]

theorem decompose_of_lt (h : code < firstWhole) : decompose code = [code] := by
  have hsyllable : Hangul.decompose? code = none := by
    rw [Hangul.decompose?, if_neg]
    unfold firstWhole at h
    omega
  rw [decompose, hsyllable]
  simp only [canonicalStep_of_lt h, List.flatMap_cons, List.flatMap_nil, List.append_nil]

theorem combiningClass_of_lt (h : code < firstMark.toNat) : combiningClass code = 0 := by
  have hnone : (combiningClasses.find? fun entry => entry.1.contains code) = none := by
    refine List.find?_eq_none.mpr fun entry hentry hcontains => ?_
    have hle := SplitTables.classes splitTables entry hentry
    simp only [CodeRange.contains, Bool.and_eq_true, decide_eq_true_eq] at hcontains
    omega
  rw [combiningClass, hnone]

/-- **Nothing is joined to a code point below all marks.** -/
theorem join?_eq_none_of_lt (h : code < firstMark.toNat) : join? first code = none := by
  have hsyllable : Hangul.compose? first code = none := by
    have hlt : code < 0x300 := h
    rw [Hangul.compose?, if_neg (by omega), if_neg (by omega)]
  rw [join?, hsyllable]
  by_contra hne
  obtain ⟨whole, hwhole⟩ := Option.ne_none_iff_exists'.mp hne
  exact Nat.not_le.mpr h (SplitTables.marks splitTables _ (mem_of_wholeOf? hwhole))

theorem Group.join?_eq_none_of_lt (group : Group) (h : code < firstMark.toNat) :
    group.join? code = none := by
  rw [Group.join?, OneUnknown.join?_eq_none_of_lt h, Option.map_none, ite_self]

/-! ## The passes -/

theorem place_append (h : combiningClass code = 0) (mark : Nat) :
    place mark (codes ++ code :: rest) = place mark codes ++ code :: rest := by
  induction codes with
  | nil => simp [place, h]
  | cons next codes ih =>
    rw [List.cons_append, place, place, ih]
    split <;> rfl

theorem reorder_cons (h : combiningClass code = 0) :
    reorder (code :: rest) = code :: reorder rest := by
  rw [reorder, List.foldr_cons, ← reorder]
  cases reorder rest with
  | nil => rfl
  | cons next others => rw [place, h, if_neg (by omega)]

/-- **Marks stay before the next starter.** -/
theorem reorder_append (h : combiningClass code = 0) :
    reorder (codes ++ code :: rest) = reorder codes ++ reorder (code :: rest) := by
  rw [reorder_cons h]
  induction codes with
  | nil => exact reorder_cons h
  | cons mark codes ih =>
    have hcons : ∀ codes, reorder (mark :: codes) = place mark (reorder codes) := fun _ => rfl
    rw [List.cons_append, hcons, hcons, ih, place_append h]

/-- **A group ends before a starter to which nothing is joined.** -/
theorem recomposeFrom_append (h : code < firstMark.toNat) (group? : Option Group) :
    recomposeFrom group? (codes ++ code :: rest) =
      recomposeFrom group? codes ++ recomposeFrom none (code :: rest) := by
  have hclass := combiningClass_of_lt h
  generalize htail : recomposeFrom none (code :: rest) = tail
  induction group?, codes using recomposeFrom.induct with
  | case1 => exact htail
  | case2 group =>
    rw [← htail, List.nil_append, recomposeFrom, recomposeFrom, recomposeFrom, if_pos hclass]
    simp only [group.join?_eq_none_of_lt h, if_pos hclass]
  | case3 mark others hmark ih =>
    rw [List.cons_append, recomposeFrom, if_pos hmark, ih, recomposeFrom, if_pos hmark]
  | case4 mark others hmark ih =>
    rw [List.cons_append, recomposeFrom, if_neg hmark, ih, recomposeFrom, if_neg hmark]
    rfl
  | case5 group mark others joined hjoin ih =>
    rw [List.cons_append, recomposeFrom, recomposeFrom]
    simp only [hjoin]
    exact ih
  | case6 group mark others hjoin hmark ih =>
    rw [List.cons_append, recomposeFrom, recomposeFrom]
    simp only [hjoin, if_pos hmark]
    rw [ih, List.append_assoc]
  | case7 group mark others hjoin hmark ih =>
    rw [List.cons_append, recomposeFrom, recomposeFrom]
    simp only [hjoin, if_neg hmark]
    exact ih

/-! ## The composed form -/

/-- The three passes. -/
def composedCodes (codes : List Nat) : List Nat := recompose (reorder (codes.flatMap decompose))

/-- **The composed form splits** before a code point below all that stand for others. -/
theorem composedCodes_append (codes rest : List Nat) (h : code < firstWhole) :
    composedCodes (codes ++ code :: rest) =
      composedCodes codes ++ composedCodes (code :: rest) := by
  have hmark := lt_firstMark_of_lt h
  have hclass := combiningClass_of_lt hmark
  rw [composedCodes, composedCodes, composedCodes, List.flatMap_append, List.flatMap_cons,
    decompose_of_lt h, List.singleton_append, reorder_append hclass, reorder_cons hclass, recompose,
    recomposeFrom_append hmark]
  rfl

theorem composedCodes_of_lt (h : ∀ code ∈ codes, code < firstWhole) :
    composedCodes codes = codes := by
  have hone : ∀ code < firstWhole, composedCodes [code] = [code] := by
    intro code hcode
    have hclass := combiningClass_of_lt (lt_firstMark_of_lt hcode)
    rw [composedCodes, List.flatMap_cons, decompose_of_lt hcode, List.flatMap_nil,
      List.append_nil, reorder_cons hclass, recompose]
    simp [reorder, recomposeFrom, hclass, Group.codes]
  induction codes with
  | nil => rfl
  | cons code codes ih =>
    obtain ⟨hcode, hcodes⟩ := List.forall_mem_cons.mp h
    cases codes with
    | nil => exact hone code hcode
    | cons next others =>
      have hsplit := composedCodes_append [code] others (hcodes next List.mem_cons_self)
      rw [List.singleton_append] at hsplit
      rw [hsplit, hone code hcode, ih hcodes]
      rfl

/-- **A text that begins with characters below all that stand for others** keeps them, but for the
last of them, which marks may follow. -/
theorem composed_append {front after : List Char} {c : Char}
    (hfront : ∀ d ∈ front, d.toNat < firstWhole) (hc : c.toNat < firstWhole) :
    composed (front ++ c :: after) = front ++ composed (c :: after) := by
  by_cases hafter : ∀ d ∈ c :: after, d < firstMark
  · rw [composed_of_forall_lt hafter, composed_of_forall_lt]
    intro d hd
    rcases List.mem_append.mp hd with hd | hd
    · exact lt_firstMark_of_lt (hfront d hd)
    · exact hafter d hd
  · have hshort : ((c :: after).all (· < firstMark)) = false := by
      simpa only [Bool.eq_false_iff, ne_eq, List.all_eq_true, decide_eq_true_eq] using hafter
    have hfrontCodes : composedCodes (front.map Char.toNat) = front.map Char.toNat :=
      composedCodes_of_lt (by simpa using hfront)
    rw [composed, composed, List.all_append, hshort, Bool.and_false, if_neg (by decide),
      if_neg (by decide), ← composedCodes, ← composedCodes, List.map_append, List.map_cons,
      composedCodes_append _ _ hc, hfrontCodes, List.map_append, List.map_map]
    simp [Function.comp_def]

/-- **A text that ends with characters below all that stand for others** keeps them. -/
theorem composed_append_of_lt {front rest : List Char} (hrest : ∀ d ∈ rest, d.toNat < firstWhole) :
    composed (front ++ rest) = composed front ++ rest := by
  by_cases hfront : ∀ d ∈ front, d < firstMark
  · rw [composed_of_forall_lt hfront, composed_of_forall_lt]
    intro d hd
    exact (List.mem_append.mp hd).elim (hfront d) fun hd => lt_firstMark_of_lt (hrest d hd)
  rcases rest with _ | ⟨c, rest⟩
  · rw [List.append_nil, List.append_nil]
  · have hlong : (front.all (· < firstMark)) = false := by
      simpa only [Bool.eq_false_iff, ne_eq, List.all_eq_true, decide_eq_true_eq] using hfront
    have hcodes : composedCodes ((c :: rest).map Char.toNat) = (c :: rest).map Char.toNat :=
      composedCodes_of_lt (by simpa using hrest)
    rw [composed, composed, List.all_append, hlong, Bool.false_and, if_neg (by decide),
      if_neg (by decide), ← composedCodes, ← composedCodes, List.map_append, List.map_cons,
      composedCodes_append _ _ (hrest c List.mem_cons_self), ← List.map_cons, hcodes,
      List.map_append, List.map_map]
    simp [Function.comp_def]

end OneUnknown
