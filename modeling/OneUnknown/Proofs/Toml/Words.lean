import OneUnknown.Proofs.Number.Numeral
import OneUnknown.Toml.Lexical

/-!
# Words of TOML behind which others stand

What is read at the start of a text does not depend on what stands behind it, if that begins with a
character that closes a value: a comma, a bracket or a line feed.

* **`Closes`**: such a character;
* `skipLayout_of_plain`, `skipLayout_newline`: between words;
* `key?_name`: plain keys;
* `Separates`, **`Local`**, `float?_local`: floating-point numbers;
* **`date?_eq_none`**: numbers are no dates;
* `numeral?_digits`: integers.
-/

namespace OneUnknown.Toml

variable {c t : Char} {cs rest : List Char}

/-- **A character that closes a value.** -/
def Closes (c : Char) : Prop := c = ',' ∨ c = ']' ∨ c = '\n'

/-! ## Between words -/

/-- A character before which there is nothing to skip. -/
def IsPlain (c : Char) : Prop := isSpace c = false ∧ c ≠ '#' ∧ c ≠ '\n' ∧ c ≠ '\r'

theorem skipBlanks_of_plain (h : IsPlain c) : skipBlanks (c :: rest) = c :: rest :=
  List.dropWhile_cons_of_neg (by simp [h.1])

theorem skipLayoutWithin_of_plain (h : IsPlain c) (hcs : skipBlanks cs = c :: rest) (bound : Nat) :
    skipLayoutWithin (bound + 1) cs = c :: rest := by
  have hcomment : skipComment (c :: rest) = c :: rest := by
    unfold skipComment
    split
    · rename_i heq
      exact absurd (List.cons.inj heq).1 h.2.1
    · rfl
  have hnewline : newline? (c :: rest) = none := by
    unfold newline?
    split
    · rename_i heq
      exact absurd (List.cons.inj heq).1 h.2.2.1
    · rename_i heq
      exact absurd (List.cons.inj heq).1 h.2.2.2
    · rfl
  rw [skipLayoutWithin, hcs, hcomment, hnewline]

theorem skipLayout_of_plain (h : IsPlain c) (rest : List Char) :
    skipLayout (c :: rest) = c :: rest :=
  skipLayoutWithin_of_plain h (skipBlanks_of_plain h) rest.length

theorem skipLayout_newline (cs : List Char) : skipLayout ('\n' :: cs) = skipLayout cs := rfl

theorem skipLayout_indented (h : IsPlain c) (rest : List Char) :
    skipLayout (' ' :: ' ' :: ' ' :: ' ' :: c :: rest) = c :: rest :=
  skipLayoutWithin_of_plain h (skipBlanks_of_plain h) _

/-! ## Keys -/

theorem span_append {p : Char → Bool} {run : List Char} (hrun : ∀ d ∈ run, p d = true)
    (hc : p c = false) : span p (run ++ c :: rest) = (run, c :: rest) := by
  have htake := @List.takeWhile_append_of_pos _ p run (c :: rest) hrun
  have hdrop := @List.dropWhile_append_of_pos _ p run (c :: rest) hrun
  rw [span, htake, hdrop, List.takeWhile_cons_of_neg (by simp [hc]),
    List.dropWhile_cons_of_neg (by simp [hc]), List.append_nil]

theorem ne_of_isKeyChar {d e : Char} (hd : isKeyChar d = true) (he : isKeyChar e = false) :
    d ≠ e := by
  rintro rfl
  rw [hd] at he
  cases he

/-- **A plain key**, behind which stands no other. -/
theorem key?_name {name : List Char} (hne : name ≠ []) (hname : ∀ d ∈ name, isKeyChar d = true)
    (hc : isKeyChar c = false) {stop : Char} (hstop : stop ≠ '.')
    (hrest : skipBlanks (c :: rest) = stop :: cs) :
    key? (name ++ c :: rest) = some (([], String.ofList name), stop :: cs) := by
  obtain ⟨d, tail, rfl⟩ := List.exists_cons_of_ne_nil hne
  have hd := hname d List.mem_cons_self
  have hblank : skipBlanks (d :: tail ++ c :: rest) = d :: tail ++ c :: rest := by
    refine List.dropWhile_cons_of_neg ?_
    simp [isSpace, ne_of_isKeyChar hd (e := ' ') (by decide),
      ne_of_isKeyChar hd (e := '\t') (by decide)]
  have hsimple : simpleKey? (d :: tail ++ c :: rest) =
      some (String.ofList (d :: tail), c :: rest) := by
    unfold simpleKey?
    split
    · rename_i heq
      exact absurd (List.cons.inj heq).1 (ne_of_isKeyChar hd (by decide))
    · rename_i heq
      exact absurd (List.cons.inj heq).1 (ne_of_isKeyChar hd (by decide))
    · rw [span_append hname hc]
      rfl
  have hparts : keyWithin depthLimit (d :: tail ++ c :: rest) =
      some ([String.ofList (d :: tail)], stop :: cs) := by
    unfold depthLimit keyWithin
    simp only [hblank, hsimple, bind, Option.bind, hrest]
    split
    · rename_i heq
      exact absurd (List.cons.inj heq).1 hstop
    · rfl
  rw [key?, hparts]
  rfl

/-! ## Digits -/

section Append

/-- The character neither continues a number nor begins a further part of it. -/
structure Separates (t : Char) : Prop where
  digit : t.isDigit = false
  underscore : t ≠ '_'
  point : t ≠ '.'
  exponent : ¬ (t = 'e' ∨ t = 'E')

theorem Closes.separates (h : Closes t) : Separates t := by
  rcases h with rfl | rfl | rfl <;> exact ⟨by decide, by decide, by decide, by decide⟩

theorem moreDigits_cons_of_neg {d : Char} (hd : d.isDigit = false) (hline : d ≠ '_')
    (rest : List Char) : moreDigits Char.isDigit (d :: rest) = ([], d :: rest) := by
  rw [moreDigits.eq_def]
  split
  · rename_i heq
    exact absurd (List.cons.inj heq).1 hline
  · rename_i heq
    obtain ⟨rfl, rfl⟩ := List.cons.inj heq
    rw [if_neg (by simp [hd])]
  · rename_i heq
    cases heq

theorem moreDigits_cons_of_pos {d : Char} (hd : d.isDigit = true) (rest : List Char) :
    moreDigits Char.isDigit (d :: rest) =
      (d :: (moreDigits Char.isDigit rest).1, (moreDigits Char.isDigit rest).2) := by
  rw [moreDigits.eq_def]
  split
  · rename_i heq
    obtain ⟨rfl, rfl⟩ := List.cons.inj heq
    exact absurd hd (by decide)
  · rename_i heq
    obtain ⟨rfl, rfl⟩ := List.cons.inj heq
    rw [if_pos hd]
  · rename_i heq
    cases heq

theorem moreDigits_append (h : Separates t) (cs : List Char) :
    moreDigits Char.isDigit (cs ++ t :: rest) =
      ((moreDigits Char.isDigit cs).1, (moreDigits Char.isDigit cs).2 ++ t :: rest) := by
  induction cs using moreDigits.induct Char.isDigit with
  | case1 d cs hd more after hrec ih =>
    simp only [List.cons_append, moreDigits, hd, if_true, ih]
  | case2 d cs hd =>
    simp only [List.cons_append, moreDigits, hd, Bool.false_eq_true, if_false]
  | case3 d cs hne hd more after hrec ih =>
    rw [List.cons_append, moreDigits_cons_of_pos hd, moreDigits_cons_of_pos hd, ih]
  | case4 d cs hne hd =>
    by_cases hline : d = '_'
    · -- The underscore divides no digits, whatever stands behind the text.
      have hnil : cs = [] := by
        rcases cs with _ | ⟨e, cs⟩
        · rfl
        · exact (hne e cs hline rfl).elim
      subst hline hnil
      simp only [List.cons_append, List.nil_append, moreDigits, h.digit]
      rfl
    · have hd : d.isDigit = false := by simpa using hd
      rw [List.cons_append, moreDigits_cons_of_neg hd hline, moreDigits_cons_of_neg hd hline]
      rfl
  | case5 => rw [List.nil_append, moreDigits_cons_of_neg h.digit h.underscore]; rfl

variable {α : Type}

/-- **Reading that is not changed by what stands behind**, if that does not belong to a number. -/
def Local (read : Read α) : Prop :=
  ∀ ⦃cs : List Char⦄ ⦃a : α⦄ ⦃after : List Char⦄, read cs = some (a, after) →
    ∀ ⦃t : Char⦄, Separates t → ∀ rest, read (cs ++ t :: rest) = some (a, after ++ t :: rest)

theorem digits?_local : Local (digits? Char.isDigit) := by
  intro cs ds after h t ht rest
  rcases cs with _ | ⟨d, cs⟩
  · cases h
  · rw [List.cons_append]
    unfold digits? at h ⊢
    dsimp only at h ⊢
    split at h
    · rename_i hd
      rw [if_pos hd, moreDigits_append ht]
      obtain ⟨rfl, rfl⟩ := Prod.mk.inj (Option.some.inj h)
      rfl
    · cases h

theorem numeral?_local : Local numeral? := by
  intro cs ds after h t ht rest
  unfold numeral? at h ⊢
  split at h
  · obtain ⟨rfl, rfl⟩ := Prod.mk.inj (Option.some.inj h)
    rfl
  · rename_i hzero
    have hread := digits?_local h ht rest
    split
    · rename_i after' heq
      rcases cs with _ | ⟨d, cs⟩
      · cases h
      · exact (hzero cs (by rw [(List.cons.inj heq).1])).elim
    · exact hread

theorem fraction?_local : Local fraction? := by
  intro cs ds after h t ht rest
  rcases cs with _ | ⟨d, cs⟩
  · obtain ⟨rfl, rfl⟩ := Prod.mk.inj (Option.some.inj h)
    unfold fraction?
    split
    · rename_i heq
      exact absurd (List.cons.inj heq).1 ht.point
    · rfl
  · by_cases hd : d = '.'
    · subst hd
      exact digits?_local h ht rest
    · have hnone : ∀ more, fraction? (d :: more) = some ([], d :: more) := by
        intro more
        unfold fraction?
        split
        · rename_i heq
          exact absurd (List.cons.inj heq).1 hd
        · rfl
      rw [hnone] at h
      obtain ⟨rfl, rfl⟩ := Prod.mk.inj (Option.some.inj h)
      exact hnone _

theorem sign_append (hcs : cs ≠ []) (rest : List Char) :
    sign (cs ++ rest) = ((sign cs).1, (sign cs).2 ++ rest) := by
  obtain ⟨c, tail, rfl⟩ := List.exists_cons_of_ne_nil hcs
  rw [List.cons_append]
  unfold sign
  split
  · rename_i heq
    obtain ⟨rfl, rfl⟩ := List.cons.inj heq
    rfl
  · rename_i heq
    obtain ⟨rfl, rfl⟩ := List.cons.inj heq
    rfl
  · rename_i hminus hplus
    split
    · rename_i heq
      exact (hminus _ (by rw [(List.cons.inj heq).1])).elim
    · rename_i heq
      exact (hplus _ (by rw [(List.cons.inj heq).1])).elim
    · rfl

theorem exponent?_local : Local exponent? := by
  intro cs power after h t ht rest
  rcases cs with _ | ⟨d, cs⟩
  · obtain ⟨rfl, rfl⟩ := Prod.mk.inj (Option.some.inj h)
    rw [List.nil_append, exponent?, if_neg ht.exponent]
  · rw [List.cons_append]
    unfold exponent? at h ⊢
    dsimp only at h ⊢
    split at h
    · rename_i hd
      rw [if_pos hd]
      have hcs : cs ≠ [] := by
        rintro rfl
        cases h
      rw [sign_append hcs]
      rcases hdigits : digits? Char.isDigit (sign cs).2 with _ | ⟨ds, after'⟩
      · simp only [hdigits, bind, Option.bind] at h
        cases h
      · simp only [hdigits, bind, Option.bind] at h
        obtain ⟨rfl, rfl⟩ := Prod.mk.inj (Option.some.inj h)
        simp only [digits?_local hdigits ht rest, bind, Option.bind]
        rfl
    · rename_i hd
      rw [if_neg hd]
      obtain ⟨rfl, rfl⟩ := Prod.mk.inj (Option.some.inj h)
      rfl

/-- **A floating-point number** is read in the same way whatever stands behind. -/
theorem float?_local : Local float? := by
  intro cs x after h t ht rest
  have hcs : cs ≠ [] := by
    rintro rfl
    cases h
  unfold float? at h ⊢
  rw [sign_append hcs]
  rcases hwhole : numeral? (sign cs).2 with _ | ⟨whole, afterWhole⟩
  · simp only [hwhole, bind, Option.bind] at h
    cases h
  rcases hfraction : fraction? afterWhole with _ | ⟨fraction, afterFraction⟩
  · simp only [hwhole, hfraction, bind, Option.bind] at h
    cases h
  rcases hpower : exponent? afterFraction with _ | ⟨power, afterPower⟩
  · simp only [hwhole, hfraction, hpower, bind, Option.bind] at h
    cases h
  simp only [hwhole, hfraction, hpower, bind, Option.bind] at h
  simp only [numeral?_local hwhole ht rest, fraction?_local hfraction ht rest,
    exponent?_local hpower ht rest, bind, Option.bind]
  generalize (if (sign cs).1 = true then
    -nearestFloat (ofDigits (whole ++ fraction)) (power - fraction.length)
    else nearestFloat (ofDigits (whole ++ fraction)) (power - fraction.length)) = value at h ⊢
  have hlength : (afterPower ++ t :: rest).length = (afterWhole ++ t :: rest).length ↔
      afterPower.length = afterWhole.length := by
    rw [List.length_append, List.length_append, Nat.add_right_cancel_iff]
  simp only [hlength]
  split at h
  · cases h
  · rename_i hvalue
    obtain ⟨rfl, rfl⟩ := Prod.mk.inj (Option.some.inj h)
    exact if_neg hvalue

end Append

/-! ## Dates -/

theorem fixedNumber?_append {count least greatest value : Nat} {ds after : List Char}
    (hc : c.isDigit = false)
    (h : fixedNumber? count least greatest (ds ++ c :: rest) = some (value, after)) :
    count ≤ ds.length ∧ after = ds.drop count ++ c :: rest := by
  unfold fixedNumber? at h
  dsimp only at h
  split at h
  · rename_i hdigits
    obtain ⟨-, rfl⟩ := Prod.mk.inj (Option.some.inj h)
    have hle : count ≤ ds.length := by
      by_contra hlt
      have hmem : c ∈ (ds ++ c :: rest).take count := by
        rw [List.take_append, List.take_of_length_le (by omega)]
        obtain ⟨k, hk⟩ : ∃ k, count - ds.length = k + 1 := ⟨count - ds.length - 1, by omega⟩
        rw [hk, List.take_succ_cons]
        exact List.mem_append_right _ List.mem_cons_self
      exact absurd (List.all_eq_true.mp hdigits.2.1 c hmem) (by simp [hc])
    exact ⟨hle, List.drop_append_of_le_length hle⟩
  · cases h

/-- Digits and a character behind them do not begin with another character. -/
theorem behind?_append {ds word : List Char} {w : Char} (hds : ∀ d ∈ ds, d.isDigit = true)
    (hw : w.isDigit = false) (hc : c ≠ w) : behind? (w :: word) (ds ++ c :: rest) = none := by
  rcases ds with _ | ⟨d, ds⟩
  · exact if_neg (Ne.symm hc)
  · refine if_neg ?_
    rintro rfl
    rw [hds w List.mem_cons_self] at hw
    cases hw

/-- **What begins with digits is no date**, unless a hyphen or a colon stands behind them. -/
theorem date?_eq_none {ds : List Char} (hds : ∀ d ∈ ds, d.isDigit = true)
    (hc : c.isDigit = false) (hyphen : ds = [] ∨ c ≠ '-') (hcolon : ds = [] ∨ c ≠ ':') :
    date? (ds ++ c :: rest) = none := by
  have hdrop : ∀ count, ∀ d ∈ ds.drop count, d.isDigit = true :=
    fun count d hd => hds d (List.mem_of_mem_drop hd)
  have hday : afterDay? (ds ++ c :: rest) = none := by
    unfold afterDay?
    rcases hyear : fixedNumber? 4 0 9999 (ds ++ c :: rest) with _ | ⟨year, after⟩
    · rfl
    · obtain ⟨hle, rfl⟩ := fixedNumber?_append hc hyear
      have hne : c ≠ '-' := hyphen.resolve_left (by rintro rfl; simp at hle)
      simp only [bind, Option.bind, behind?_append (hdrop 4) (by decide) hne]
  have htime : afterTime? (ds ++ c :: rest) = none := by
    unfold afterTime?
    rcases hhour : fixedNumber? 2 0 23 (ds ++ c :: rest) with _ | ⟨hour, after⟩
    · rfl
    · obtain ⟨hle, rfl⟩ := fixedNumber?_append hc hhour
      have hne : c ≠ ':' := hcolon.resolve_left (by rintro rfl; simp at hle)
      simp only [bind, Option.bind, behind?_append (hdrop 2) (by decide) hne]
  have hdate : afterDate? (ds ++ c :: rest) = none := by
    simp only [afterDate?, hday, bind, Option.bind]
  simp only [date?, hdate, htime, Option.or, bind, Option.bind]

theorem date?_of_head (hc : c.isDigit = false) (rest : List Char) : date? (c :: rest) = none :=
  date?_eq_none (List.forall_mem_nil _) hc (.inl rfl) (.inl rfl)

/-! ## Integers -/

theorem moreDigits_digits {ds : List Char} (hds : ∀ d ∈ ds, d.isDigit = true) (ht : Separates t)
    (rest : List Char) : moreDigits Char.isDigit (ds ++ t :: rest) = (ds, t :: rest) := by
  induction ds with
  | nil => exact moreDigits_cons_of_neg ht.digit ht.underscore rest
  | cons d ds ih =>
    obtain ⟨hd, hds⟩ := List.forall_mem_cons.mp hds
    rw [List.cons_append, moreDigits_cons_of_pos hd, ih hds]

theorem exists_digits_eq {n : Nat} (hn : 0 < n) : ∃ d ds, digits n = d :: ds ∧ d ≠ '0' := by
  induction n using digits.induct with
  | case1 n hlt =>
    refine ⟨digitChar n, [], by rw [digits, if_pos hlt], fun heq => ?_⟩
    have hvalue := digitValue_digitChar hlt
    rw [heq] at hvalue
    have hzero : digitValue '0' = 0 := by decide
    omega
  | case2 n hlt ih =>
    obtain ⟨d, ds, heq, hd⟩ := ih (by omega)
    exact ⟨d, ds ++ [digitChar (n % 10)], by rw [digits, if_neg hlt, heq]; rfl, hd⟩

/-- **A numeral is read up to its end.** -/
theorem numeral?_digits (n : Nat) (ht : Separates t) (rest : List Char) :
    numeral? (digits n ++ t :: rest) = some (digits n, t :: rest) := by
  rcases Nat.eq_zero_or_pos n with rfl | hn
  · have hzero : digits 0 = ['0'] := by with_unfolding_all decide
    rw [hzero]
    rfl
  · have hdigits : ∀ d ∈ digits n, d.isDigit = true := fun d hd => isDigit_of_mem_digits hd
    obtain ⟨d, ds, heq, hd⟩ := exists_digits_eq hn
    rw [heq] at hdigits ⊢
    obtain ⟨hhead, hdigits⟩ := List.forall_mem_cons.mp hdigits
    unfold numeral?
    rw [List.cons_append]
    split
    · rename_i heq'
      exact absurd (List.cons.inj heq').1 hd
    · rw [digits?, if_pos hhead, moreDigits_digits hdigits ht]

end OneUnknown.Toml
