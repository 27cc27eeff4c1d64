import OneUnknown.Proofs.Token.Layout

/-!
# Runs of characters

A run of a class of characters is as long as it can be. Where a text is cut so that no run crosses
the border, its runs are those of the two parts.

* `IsRun`, `Found`: a run, and what is found at one;
* `Parted`: no run crosses a border;
* **`isRun_append_iff`**, `found_append`: the runs of a text that is cut there.
-/

namespace OneUnknown

/-! ## Runs -/

/-- **A run of a class of characters** that starts at an index of the text: no further character of
the class stands before or behind it. -/
def IsRun (p : Char → Bool) (text : List Char) (start : Nat) (run : List Char) : Prop :=
  ∃ before after, text = before ++ (run ++ after) ∧ before.length = start ∧ IsSpan p run after ∧
    ∀ c, before.getLast? = some c → p c = false

/-- A run has the property, in the column where it starts. -/
def Found (p : Char → Bool) (P : List Char → Nat → Prop) (column : Nat) (text : List Char) : Prop :=
  ∃ start run, IsRun p text start run ∧ P run (column + start)

/-- **No run crosses the border** between two parts of a text. -/
def Parted (p : Char → Bool) (front rest : List Char) : Prop :=
  ∀ c d, front.getLast? = some c → rest.head? = some d → p c = true → p d = false

section Runs

variable {p : Char → Bool} {P : List Char → Nat → Prop} {column start : Nat}
  {text front rest run : List Char}

theorem IsSpan.of_getLast? {after : List Char} (h : IsSpan p run after) {c : Char}
    (hc : run.getLast? = some c) : p c = true :=
  h.of_mem c (List.mem_of_getLast? hc)

theorem IsRun.exists_getElem? (h : IsRun p text start run) :
    ∃ c, text[start]? = some c ∧ p c = true := by
  obtain ⟨before, after, rfl, rfl, hspan, -⟩ := h
  rcases run with _ | ⟨c, run⟩
  · exact absurd rfl hspan.ne_nil
  · exact ⟨c, by simp, hspan.of_mem c List.mem_cons_self⟩

theorem IsRun.unique {run' : List Char} (h : IsRun p text start run)
    (h' : IsRun p text start run') : run = run' := by
  obtain ⟨before, after, rfl, rfl, hspan, -⟩ := h
  obtain ⟨before', after', htext, hlength, hspan', -⟩ := h'
  obtain ⟨rfl, hrest⟩ := List.append_inj htext hlength.symm
  rw [hspan.eq_takeWhile, hspan'.eq_takeWhile, hrest]

theorem IsSpan.isRun {after : List Char} (h : IsSpan p run after) : IsRun p (run ++ after) 0 run :=
  ⟨[], after, rfl, rfl, h, by simp⟩

/-- **The runs of a text that is cut where no run crosses** are those of its parts. -/
theorem isRun_append_iff (hparted : Parted p front rest) :
    IsRun p (front ++ rest) start run ↔ IsRun p front start run ∨
      ∃ offset, start = front.length + offset ∧ IsRun p rest offset run := by
  constructor
  · rintro ⟨before, after, htext, rfl, hspan, hbefore⟩
    have inRest : ∀ skipped, before = front ++ skipped → rest = skipped ++ (run ++ after) →
        ∃ offset, before.length = front.length + offset ∧ IsRun p rest offset run := by
      rintro skipped rfl rfl
      refine ⟨skipped.length, List.length_append, skipped, after, rfl, rfl, hspan, fun c hc => ?_⟩
      exact hbefore c (by rw [List.getLast?_append, hc]; rfl)
    have inFront : ∀ kept, front = before ++ (run ++ kept) → after = kept ++ rest →
        IsRun p front before.length run := by
      rintro kept rfl rfl
      refine ⟨before, kept, rfl, rfl, ⟨hspan.ne_nil, hspan.of_mem, fun c hc => ?_⟩, hbefore⟩
      exact hspan.of_head c (by rw [List.head?_append, hc]; rfl)
    rcases List.append_eq_append_iff.mp htext with ⟨skipped, hb, hr⟩ | ⟨kept, hf, hr⟩
    · exact .inr (inRest skipped hb hr)
    rcases List.append_eq_append_iff.mp hr with ⟨tail, hk, ha⟩ | ⟨tail, hrun, hrest⟩
    · exact .inl (inFront tail (by rw [hf, hk]) ha)
    -- The run would begin in the front and end in the rest.
    rcases List.eq_nil_or_concat kept with rfl | ⟨kept, c, rfl⟩
    · exact .inr (inRest [] (by simpa using hf.symm) (by rw [hrest, hrun]; rfl))
    rcases tail with _ | ⟨d, tail⟩
    · refine .inl (inFront [] ?_ hrest.symm)
      rw [hf, hrun]
      simp
    · have hd := hparted c d (by simp [hf]) (by simp [hrest])
        (hspan.of_mem c (by simp [hrun]))
      rw [hspan.of_mem d (by simp [hrun])] at hd
      exact Bool.noConfusion hd
  · rintro (⟨before, after, rfl, rfl, hspan, hbefore⟩ |
      ⟨_, rfl, before, after, rfl, rfl, hspan, hbefore⟩)
    · refine ⟨before, after ++ rest, by simp, rfl, ⟨hspan.ne_nil, hspan.of_mem, fun d hd => ?_⟩,
        hbefore⟩
      rcases after with _ | ⟨e, after⟩
      · have hc := List.getLast?_eq_some_getLast hspan.ne_nil
        exact hparted _ d (by simp [List.getLast?_append, hc]) hd (hspan.of_getLast? hc)
      · exact hspan.of_head d hd
    · refine ⟨front ++ before, after, by simp, by simp, hspan, fun c hc => ?_⟩
      rcases List.eq_nil_or_concat before with rfl | ⟨before, e, rfl⟩
      · obtain ⟨d, run, rfl⟩ := List.exists_cons_of_ne_nil hspan.ne_nil
        by_contra hpc
        have hd := hparted c d (by simpa using hc) rfl (by simpa using hpc)
        rw [hspan.of_mem d List.mem_cons_self] at hd
        exact Bool.noConfusion hd
      · exact hbefore c (by simpa using hc)

theorem found_append (hparted : Parted p front rest) : Found p P column (front ++ rest) ↔
    Found p P column front ∨ Found p P (column + front.length) rest := by
  simp only [Found, isRun_append_iff hparted]
  constructor
  · rintro ⟨start, run, h | ⟨offset, rfl, h⟩, hP⟩
    · exact .inl ⟨start, run, h, hP⟩
    · exact .inr ⟨offset, run, h, by rwa [Nat.add_assoc]⟩
  · rintro (⟨start, run, h, hP⟩ | ⟨offset, run, h, hP⟩)
    · exact ⟨start, run, .inl h, hP⟩
    · exact ⟨_, run, .inr ⟨offset, rfl, h⟩, by rwa [← Nat.add_assoc]⟩

theorem not_found (h : ∀ c ∈ text, p c = false) : ¬ Found p P column text := by
  rintro ⟨start, run, hrun, -⟩
  obtain ⟨c, hc, hpc⟩ := hrun.exists_getElem?
  rw [h c (List.mem_of_getElem? hc)] at hpc
  exact Bool.noConfusion hpc

theorem found_of_isSpan {after : List Char} (h : IsSpan p run after) :
    Found p P column run ↔ P run column := by
  have hspan : IsSpan p run [] := ⟨h.ne_nil, h.of_mem, by simp⟩
  have hrun : IsRun p run 0 run := by simpa using hspan.isRun
  constructor
  · rintro ⟨start, run', ⟨before, tail, htext, rfl, hspan', hbefore⟩, hP⟩
    rcases List.eq_nil_or_concat before with rfl | ⟨before, c, rfl⟩
    · obtain rfl := hrun.unique ⟨[], tail, htext, rfl, hspan', hbefore⟩
      exact hP
    · have hc := hbefore c (by simp)
      rw [h.of_mem c (by rw [htext]; simp)] at hc
      exact Bool.noConfusion hc
  · exact fun hP => ⟨0, run, hrun, hP⟩

end Runs

end OneUnknown
