import OneUnknown.Proofs.Number.Whole
import OneUnknown.Proofs.Token.Literal
import OneUnknown.Proofs.Toml.Words
import OneUnknown.Settings.Text

/-!
# Written numbers are read again

The numbers of settings are written as integers, as floating-point numbers and as an array of the
latter. Each is read as what was written, whatever closes it.

* `exists_of_not_isFinite`: infinities and `NaN`;
* `exists_toList_tomlFloat`: the text of a finite number;
* **`number?_tomlFloat`**, **`number?_digits`**: numbers;
* `items?_seedLines`, **`value?_tomlSeeds`**: arrays.
-/

namespace OneUnknown

open Float.Model

variable {x : Float} {t : Char} {rest : List Char}

/-! ## The texts of numbers -/

theorem exists_of_not_isFinite (h : x.isFinite = false) : x = 1 / 0 ∨ x = -(1 / 0) ∨ x = 0 / 0 := by
  have hx := packed_unpacked x
  change (unpacked x).isFinite = false at h
  rcases hunpacked : unpacked x with (_ | _) | _ | s | ⟨s, m, e, hm⟩
  · exact .inr (.inl (by rw [← hx, hunpacked]; decide))
  · exact .inl (by rw [← hx, hunpacked]; decide)
  · exact .inr (.inr (by rw [← hx, hunpacked]; decide))
  · rw [hunpacked] at h
    cases h
  · rw [hunpacked] at h
    cases h

theorem isNaN_of_isFinite (h : x.isFinite = true) : x.isNaN = false := by
  change (unpacked x).isNaN = false
  rcases isFinite_iff.mp h with ⟨s, hx⟩ | ⟨s, m, e, hm, hx⟩ <;> rw [hx] <;> rfl

/-- A numeral with a fraction, as far as its characters go. -/
structure IsFraction (body : List Char) : Prop where
  head : ∃ d tail, body = d :: tail ∧ d.isDigit = true
  chars : ∀ c ∈ body, c.isDigit = true ∨ c = '.'

theorem IsFraction.of_isLiteral {run : List Char} (h : IsLiteral run) (fraction : List Char)
    (hfraction : ∀ c ∈ fraction, c.isDigit = true ∨ c = '.') : IsFraction (run ++ fraction) := by
  obtain ⟨⟨d, tail, rfl, hd⟩, hchars, -⟩ := h
  refine ⟨⟨d, tail ++ fraction, rfl, hd⟩, fun c hc => ?_⟩
  rcases List.mem_append.mp hc with hc | hc
  · simpa [isLiteralChar] using hchars c hc
  · exact hfraction c hc

/-- **The text of a finite number**: a minus sign, if it is negative, and digits with points. -/
theorem exists_toList_tomlFloat (h : x.isFinite = true) :
    ∃ body, IsFraction body ∧
      ((tomlFloat x).toList = body ∨ (tomlFloat x).toList = '-' :: body) := by
  obtain ⟨d, hd, -⟩ := exists_ofFloat?_of_isFinite h
  have hplain : (plainText x).toList =
      if d.negative then '-' :: (Decimal.shortest d).text else (Decimal.shortest d).text := by
    rw [plainText, signedText, hd]
    exact String.toList_ofList
  have hliteral := isLiteral_text (Decimal.shortest d)
  have hpoint : ∀ c ∈ ".0".toList, c.isDigit = true ∨ c = '.' := by
    simp
  have hends : ∃ fraction, (∀ c ∈ fraction, c.isDigit = true ∨ c = '.') ∧
      (tomlFloat x).toList = (plainText x).toList ++ fraction := by
    rw [tomlFloat, isNaN_of_isFinite h, if_neg (by decide)]
    split
    · exact ⟨".0".toList, hpoint, String.toList_append⟩
    · exact ⟨[], List.forall_mem_nil _, (List.append_nil _).symm⟩
  obtain ⟨fraction, hfraction, htext⟩ := hends
  refine ⟨_, .of_isLiteral hliteral fraction hfraction, ?_⟩
  rw [htext, hplain]
  split
  · exact .inr rfl
  · exact .inl rfl

/-! ## Numbers -/

namespace Toml

theorem number?_of_float {cs after : List Char} (hdate : date? cs = none)
    (hname : specialFloat? cs = none) (hfloat : float? cs = some (x, after)) :
    number? cs = some (.float x, after) := by
  simp only [number?, hdate, hname, hfloat]

theorem specialFloat?_eq_none {cs : List Char} {d : Char} (hd : d.isDigit = true)
    (hsign : (sign cs).2 = d :: rest) : specialFloat? cs = none := by
  have hi : ('i' = d) = False := eq_false (by rintro rfl; exact absurd hd (by decide))
  have hn : ('n' = d) = False := eq_false (by rintro rfl; exact absurd hd (by decide))
  simp only [specialFloat?, hsign, behind?, hi, hn, if_false]

theorem sign_of_isDigit {d : Char} (hd : d.isDigit = true) (rest : List Char) :
    sign (d :: rest) = (false, d :: rest) := by
  unfold sign
  split
  · rename_i heq
    rw [(List.cons.inj heq).1] at hd
    exact absurd hd (by decide)
  · rename_i heq
    rw [(List.cons.inj heq).1] at hd
    exact absurd hd (by decide)
  · rfl

/-- A number with a fraction is no date. -/
theorem date?_of_isFraction {body : List Char} (hbody : IsFraction body) (ht : Closes t)
    (rest : List Char) : date? (body ++ t :: rest) = none := by
  have htdigit := ht.separates.digit
  -- The first character that is no digit is a point, or the one behind the number.
  obtain ⟨ds, c, after, heq, hds, hc, hstop⟩ : ∃ ds c after, body ++ t :: rest = ds ++ c :: after ∧
      (∀ d ∈ ds, d.isDigit = true) ∧ c.isDigit = false ∧ (c = '.' ∨ c = t) := by
    have hchars := hbody.chars
    clear hbody
    induction body with
    | nil => exact ⟨[], t, rest, rfl, List.forall_mem_nil _, htdigit, .inr rfl⟩
    | cons d body ih =>
      obtain ⟨hd, hchars⟩ := List.forall_mem_cons.mp hchars
      by_cases hdigit : d.isDigit = true
      · obtain ⟨ds, c, after, heq, hds, hc, hstop⟩ := ih hchars
        exact ⟨d :: ds, c, after, by rw [List.cons_append, heq, List.cons_append],
          List.forall_mem_cons.mpr ⟨hdigit, hds⟩, hc, hstop⟩
      · exact ⟨[], d, body ++ t :: rest, rfl, List.forall_mem_nil _, by simpa using hdigit,
          .inl (hd.resolve_left hdigit)⟩
  have hne : c ≠ '-' ∧ c ≠ ':' := by
    rcases hstop with rfl | rfl
    · decide
    · rcases ht with rfl | rfl | rfl <;> decide
  rw [heq]
  exact date?_eq_none hds hc (.inr hne.1) (.inr hne.2)

/-- **A written number is read again**, whatever closes it. -/
theorem number?_tomlFloat
    (hx : x.isFinite = true → float? (tomlFloat x).toList = some (x, [])) (ht : Closes t)
    (rest : List Char) :
    number? ((tomlFloat x).toList ++ t :: rest) = some (.float x, t :: rest) := by
  by_cases hfinite : x.isFinite = true
  · obtain ⟨body, hbody, htext⟩ := exists_toList_tomlFloat hfinite
    have hfloat := float?_local (hx hfinite) ht.separates rest
    obtain ⟨d, tail, rfl, hd⟩ := hbody.head
    refine number?_of_float ?_ ?_ hfloat
    · rcases htext with htext | htext
      · rw [htext]
        exact date?_of_isFraction hbody ht rest
      · rw [htext]
        exact date?_of_head (by decide) _
    · rcases htext with htext | htext
      · rw [htext, List.cons_append]
        exact specialFloat?_eq_none hd (by rw [sign_of_isDigit hd])
      · rw [htext, List.cons_append]
        exact specialFloat?_eq_none hd rfl
  · rcases exists_of_not_isFinite (by simpa using hfinite) with rfl | rfl | rfl
    · have htext : (tomlFloat (1 / 0)).toList = ['i', 'n', 'f'] := by with_unfolding_all decide
      rw [htext, number?, List.cons_append, date?_of_head (by decide)]
      rfl
    · have htext : (tomlFloat (-(1 / 0))).toList = ['-', 'i', 'n', 'f'] := by
        with_unfolding_all decide
      rw [htext, number?, List.cons_append, date?_of_head (by decide)]
      rfl
    · have htext : (tomlFloat (0 / 0)).toList = ['n', 'a', 'n'] := by with_unfolding_all decide
      rw [htext, number?, List.cons_append, date?_of_head (by decide)]
      rfl

/-- **A written whole number is read again**, whatever closes it. -/
theorem number?_digits {n : Nat} (hn : n < tomlBound) (ht : Closes t) (rest : List Char) :
    number? (digits n ++ t :: rest) = some (.integer n, t :: rest) := by
  have hdigits : ∀ d ∈ digits n, d.isDigit = true := fun d hd => isDigit_of_mem_digits hd
  have hnumeral := numeral?_digits n ht.separates rest
  obtain ⟨d, ds, heq⟩ := List.exists_cons_of_ne_nil (digits_ne_nil n)
  have hd := hdigits d (heq ▸ List.mem_cons_self)
  have hsign : sign (digits n ++ t :: rest) = (false, digits n ++ t :: rest) := by
    rw [heq]
    exact sign_of_isDigit hd _
  have hdate : date? (digits n ++ t :: rest) = none := by
    refine date?_eq_none hdigits ht.separates.digit (.inr ?_) (.inr ?_) <;>
      rcases ht with rfl | rfl | rfl <;> decide
  have hname : specialFloat? (digits n ++ t :: rest) = none := by
    refine @specialFloat?_eq_none (ds ++ t :: rest) _ d hd ?_
    rw [hsign, heq]
    rfl
  have hfraction : fraction? (t :: rest) = some ([], t :: rest) := by
    rcases ht with rfl | rfl | rfl <;> rfl
  have hpower : exponent? (t :: rest) = some (0, t :: rest) := by
    rcases ht with rfl | rfl | rfl <;> rfl
  have hfloat : float? (digits n ++ t :: rest) = none := by
    unfold float?
    simp only [hsign, hnumeral, hfraction, hpower, bind, Option.bind, decide_true, Bool.true_or,
      if_true]
  have hinteger : integer? (digits n ++ t :: rest) = some ((n : Int), t :: rest) := by
    have hany : anyInteger? (digits n ++ t :: rest) = some ((n : Int), t :: rest) := by
      -- No letter of a base stands behind the first digit.
      have hbase : ∀ {e : Char} {more : List Char}, digits n ++ t :: rest = '0' :: e :: more →
          e ≠ 'x' ∧ e ≠ 'o' ∧ e ≠ 'b' := by
        intro e more h
        rw [heq, List.cons_append] at h
        obtain ⟨-, h⟩ := List.cons.inj h
        rcases ds with _ | ⟨d', ds⟩
        · obtain ⟨rfl, -⟩ := List.cons.inj h
          rcases ht with rfl | rfl | rfl <;> decide
        · obtain ⟨rfl, -⟩ := List.cons.inj h
          have hd' := hdigits d' (heq ▸ List.mem_cons_of_mem _ List.mem_cons_self)
          refine ⟨?_, ?_, ?_⟩ <;> rintro rfl <;> exact absurd hd' (by decide)
      unfold anyInteger?
      split
      · rename_i h
        exact absurd rfl (hbase h).1
      · rename_i h
        exact absurd rfl (hbase h).2.1
      · rename_i h
        exact absurd rfl (hbase h).2.2
      · simp only [hsign, hnumeral, bind, Option.bind, ofDigits_digits]
        rfl
    have hbound : tomlBound = Nat.pow 2 63 := rfl
    simp only [integer?, hany, bind, Option.bind]
    exact if_pos ⟨by omega, by omega⟩
  simp only [number?, hdate, hname, hfloat, hinteger]

/-! ## Values -/

/-- A character with which a number may begin, and nothing else that is read as a value. -/
def BeginsNumber (c : Char) : Prop := c.isDigit = true ∨ c = '-' ∨ c = 'i' ∨ c = 'n'

theorem BeginsNumber.isPlain {c : Char} (h : BeginsNumber c) : IsPlain c := by
  rcases h with h | rfl | rfl | rfl
  · refine ⟨?_, ?_, ?_, ?_⟩
    · rw [isSpace, Bool.or_eq_false_iff, beq_eq_false_iff_ne, beq_eq_false_iff_ne]
      constructor <;> rintro rfl <;> exact absurd h (by decide)
    all_goals
      rintro rfl
      exact absurd h (by decide)
  all_goals exact ⟨by decide, by decide, by decide, by decide⟩

theorem BeginsNumber.ne_bracket {c : Char} (h : BeginsNumber c) : c ≠ ']' := by
  rintro rfl
  rcases h with h | h | h | h <;> revert h <;> decide

theorem value?_of_number {c : Char} (h : BeginsNumber c) (bound depth : Nat) (rest : List Char) :
    value? (bound + 1) depth (c :: rest) = number? (c :: rest) := by
  have hne : c ≠ '"' ∧ c ≠ '\'' ∧ c ≠ '[' ∧ c ≠ '\x7b' ∧ c ≠ 't' ∧ c ≠ 'f' := by
    rcases h with h | rfl | rfl | rfl
    · refine ⟨?_, ?_, ?_, ?_, ?_, ?_⟩ <;> rintro rfl <;> exact absurd h (by decide)
    all_goals decide
  unfold value?
  split <;> simp_all

theorem exists_tomlFloat_eq (x : Float) : ∃ c cs, (tomlFloat x).toList = c :: cs ∧
    BeginsNumber c := by
  by_cases hfinite : x.isFinite = true
  · obtain ⟨body, hbody, htext⟩ := exists_toList_tomlFloat hfinite
    obtain ⟨d, tail, rfl, hd⟩ := hbody.head
    rcases htext with htext | htext
    · exact ⟨_, _, htext, .inl hd⟩
    · exact ⟨_, _, htext, .inr (.inl rfl)⟩
  · rcases exists_of_not_isFinite (by simpa using hfinite) with rfl | rfl | rfl
    · exact ⟨'i', ['n', 'f'], by with_unfolding_all decide, .inr (.inr (.inl rfl))⟩
    · exact ⟨'-', ['i', 'n', 'f'], by with_unfolding_all decide, .inr (.inl rfl)⟩
    · exact ⟨'n', ['a', 'n'], by with_unfolding_all decide, .inr (.inr (.inr rfl))⟩

theorem value?_tomlFloat (hx : x.isFinite = true → float? (tomlFloat x).toList = some (x, []))
    (ht : Closes t) (bound depth : Nat) (rest : List Char) :
    value? (bound + 1) depth ((tomlFloat x).toList ++ t :: rest) = some (.float x, t :: rest) := by
  have hnumber := number?_tomlFloat hx ht rest
  obtain ⟨c, cs, htext, hc⟩ := exists_tomlFloat_eq x
  rw [htext, List.cons_append] at hnumber ⊢
  rw [value?_of_number hc, hnumber]

theorem value?_digits {n : Nat} (hn : n < tomlBound) (ht : Closes t) (bound depth : Nat)
    (rest : List Char) :
    value? (bound + 1) depth (digits n ++ t :: rest) = some (.integer n, t :: rest) := by
  have hnumber := number?_digits hn ht rest
  obtain ⟨d, ds, heq⟩ := List.exists_cons_of_ne_nil (digits_ne_nil n)
  have hd : d.isDigit = true := isDigit_of_mem_digits (heq ▸ List.mem_cons_self)
  rw [heq, List.cons_append] at hnumber ⊢
  rw [value?_of_number (.inl hd), hnumber]

/-! ## Arrays -/

/-- The seeds on lines of their own, behind the bracket that opens their array and up to the one
that closes it. -/
def seedLines : List Float → List Char → List Char
  | [], rest => '\n' :: ']' :: rest
  | seed :: seeds, rest =>
    '\n' :: ' ' :: ' ' :: ' ' :: ' ' :: ((tomlFloat seed).toList ++ ',' :: seedLines seeds rest)

theorem skipLayout_bracket (rest : List Char) : skipLayout (']' :: rest) = ']' :: rest :=
  skipLayout_of_plain ⟨by decide, by decide, by decide, by decide⟩ rest

theorem items?_comma {bound depth : Nat} {cs start after : List Char} {c : Char} {item : Node}
    (hstart : skipLayout cs = c :: start) (hc : c ≠ ']')
    (hitem : value? bound depth (c :: start) = some (item, ',' :: after)) :
    items? (bound + 1) depth cs =
      (items? bound depth after).map fun (items, rest) => (item :: items, rest) := by
  have hcomma : skipLayout (',' :: after) = ',' :: after :=
    skipLayout_of_plain ⟨by decide, by decide, by decide, by decide⟩ after
  rw [items?, hstart]
  split
  · rename_i heq
    exact absurd (List.cons.inj heq).1 hc
  · simp only [hitem, hcomma, bind, Option.bind]
    rcases items? bound depth after with _ | ⟨items, rest⟩ <;> rfl

theorem items?_last {bound depth : Nat} {cs start after : List Char} {c : Char} {item : Node}
    (hstart : skipLayout cs = c :: start) (hc : c ≠ ']')
    (hitem : value? bound depth (c :: start) = some (item, ']' :: after)) :
    items? (bound + 1) depth cs = some ([item], after) := by
  rw [items?, hstart]
  split
  · rename_i heq
    exact absurd (List.cons.inj heq).1 hc
  · simp only [hitem, skipLayout_bracket, bind, Option.bind]
    rfl

theorem items?_seedLines {seeds : List Float}
    (hseeds : ∀ seed ∈ seeds, seed.isFinite = true →
      float? (tomlFloat seed).toList = some (seed, []))
    {bound : Nat} (hbound : seeds.length < bound) (depth : Nat) (rest : List Char) :
    items? bound depth (seedLines seeds rest) = some (seeds.map .float, rest) := by
  induction seeds generalizing bound with
  | nil =>
    obtain ⟨bound, rfl⟩ := Nat.exists_eq_succ_of_ne_zero (Nat.ne_of_gt hbound)
    rfl
  | cons seed seeds ih =>
    obtain ⟨hseed, hseeds⟩ := List.forall_mem_cons.mp hseeds
    rw [List.length_cons] at hbound
    obtain ⟨bound, rfl⟩ : ∃ k, bound = k + 1 + 1 := ⟨bound - 2, by omega⟩
    have hvalue := value?_tomlFloat hseed (.inl rfl) bound depth (seedLines seeds rest)
    obtain ⟨c, cs, htext, hc⟩ := exists_tomlFloat_eq seed
    have hlayout : skipLayout (seedLines (seed :: seeds) rest) =
        c :: (cs ++ ',' :: seedLines seeds rest) := by
      rw [seedLines, htext, List.cons_append, skipLayout_newline, skipLayout_indented hc.isPlain]
    rw [htext, List.cons_append] at hvalue
    rw [items?_comma hlayout hc.ne_bracket hvalue, ih hseeds (by omega)]
    rfl

theorem seedLines_eq (seeds : List Float) (rest : List Char) :
    seedLines seeds rest = '\n' ::
      ((String.join (seeds.map fun seed => "    " ++ tomlFloat seed ++ ",\n")).toList ++
        ']' :: rest) := by
  induction seeds with
  | nil => rfl
  | cons seed seeds ih =>
    rw [seedLines, ih, List.map_cons, String.join_cons]
    simp

theorem toList_tomlSeeds (first second : Float) (seeds : List Float) (rest : List Char) :
    (tomlSeeds (first :: second :: seeds)).toList ++ rest =
      '[' :: seedLines (first :: second :: seeds) rest := by
  have htext : tomlSeeds (first :: second :: seeds) = "[\n" ++ String.join
    ((first :: second :: seeds).map fun seed => "    " ++ tomlFloat seed ++ ",\n") ++ "]" := rfl
  rw [seedLines_eq, htext]
  simp

theorem length_le_seedLines (seeds : List Float) (rest : List Char) :
    seeds.length ≤ (seedLines seeds rest).length := by
  induction seeds with
  | nil => exact Nat.zero_le _
  | cons seed seeds ih =>
    simp only [seedLines, List.length_cons, List.length_append]
    omega

theorem length_le_tomlSeeds (seeds : List Float) :
    seeds.length ≤ (tomlSeeds seeds).toList.length := by
  rcases seeds with _ | ⟨first, _ | ⟨second, seeds⟩⟩
  · exact Nat.zero_le _
  · simp [tomlSeeds]
  · have hlines := length_le_seedLines (first :: second :: seeds) []
    rw [← List.append_nil (tomlSeeds _).toList, toList_tomlSeeds, List.length_cons]
    exact Nat.le_succ_of_le hlines

/-- **Written seeds are read again.** -/
theorem value?_tomlSeeds {seeds : List Float}
    (hseeds : ∀ seed ∈ seeds, seed.isFinite = true →
      float? (tomlFloat seed).toList = some (seed, []))
    {bound : Nat} (hbound : seeds.length + 1 < bound) (depth : Nat) (rest : List Char) :
    value? bound (depth + 1) ((tomlSeeds seeds).toList ++ rest) =
      some (.array (seeds.map .float), rest) := by
  obtain ⟨bound, rfl⟩ : ∃ k, bound = k + 1 := ⟨bound - 1, by omega⟩
  have harray : ∀ cs, (tomlSeeds seeds).toList ++ rest = '[' :: cs →
      items? bound depth cs = some (seeds.map .float, rest) →
      value? (bound + 1) (depth + 1) ((tomlSeeds seeds).toList ++ rest) =
        some (.array (seeds.map .float), rest) := by
    intro cs htext hitems
    rw [htext, value?, hitems]
    rfl
  rcases seeds with _ | ⟨first, _ | ⟨second, seeds⟩⟩
  · have hpos : 0 < bound := Nat.lt_of_succ_lt_succ hbound
    obtain ⟨bound, rfl⟩ := Nat.exists_eq_succ_of_ne_zero (Nat.ne_of_gt hpos)
    refine harray (']' :: rest) rfl ?_
    rw [items?, skipLayout_bracket]
    rfl
  · obtain ⟨bound, rfl⟩ : ∃ k, bound = k + 1 + 1 := ⟨bound - 2, by simp at hbound; omega⟩
    have hvalue := value?_tomlFloat (hseeds first List.mem_cons_self) (.inr (.inl rfl)) bound depth
      rest
    refine harray ((tomlFloat first).toList ++ ']' :: rest) (by simp [tomlSeeds]) ?_
    obtain ⟨c, cs, htext, hc⟩ := exists_tomlFloat_eq first
    rw [htext, List.cons_append] at hvalue ⊢
    exact items?_last (skipLayout_of_plain hc.isPlain _) hc.ne_bracket hvalue
  · exact harray _ (toList_tomlSeeds first second seeds rest)
      (items?_seedLines hseeds (by omega) depth rest)

end Toml

end OneUnknown
