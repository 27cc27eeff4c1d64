import OneUnknown.Proofs.Batch.Report
import OneUnknown.Proofs.Kind.Spelling

/-!
# Kinds and records that are read back

Every spelling of the tag of a kind names this kind, and nothing else does. So a line that begins
with the tag and a colon is read as an equation of this kind, whatever follows; and the question
that a batch shows for an equation asks for the same equation again.

* `EquationKind.ofName?_eq_some_iff_exists`: the names of a kind, built up from its tag;
* **`BatchLine.ofLine_tag`**: a line that begins with the tag of a kind;
* `BatchRecord.ofLine_question`: the question of a record;
* **`EquationKind.named_up_to_spelling`**: names, lines and records.
-/

namespace OneUnknown

variable {kind : EquationKind} {name : List Char}

/-! ## Names -/

theorem Spelling.isBlank_of_mem {word : List Char} (h : Spelling word name)
    (hword : ∀ c ∈ word, c.isAlpha = true) : ∀ c ∈ name, isBlank c = false := by
  induction h with
  | nil => exact fun c hc => absurd hc List.not_mem_nil
  | letter same rest ih =>
    rw [List.forall_mem_cons] at hword ⊢
    exact ⟨isBlank_of_isAlpha (same.isAlpha_eq ▸ hword.1), ih hword.2⟩
  | joint hd rest ih =>
    rw [List.forall_mem_cons]
    exact ⟨by rcases hd with rfl | rfl <;> decide, ih hword⟩

namespace EquationKind

/-- **The names of a kind are the spellings of its tag**, with blanks around them. -/
theorem ofName?_eq_some_iff_exists : ofName? name = some kind ↔
    ∃ front spelling back, name = front ++ spelling ++ back ∧ (∀ c ∈ front, isBlank c = true) ∧
      (∀ c ∈ back, isBlank c = true) ∧ Spelling kind.tag.toList spelling := by
  have htag : ∀ c ∈ kind.tag.toList, c.isAlpha = true := fun c hc => (isAlpha_tag kind c hc).1
  rw [ofName?_eq_some_iff]
  constructor
  · intro h
    obtain ⟨front, back, hname, hfront, hback⟩ := exists_trim_eq name
    exact ⟨front, trim name, back, hname, hfront, hback, (spelling_iff htag).mpr h⟩
  · rintro ⟨front, spelling, back, rfl, hfront, hback, h⟩
    have hblank := h.isBlank_of_mem htag
    have htrimmed : IsTrimmed spelling :=
      ⟨fun c hc => hblank c (List.mem_of_mem_head? hc),
        fun c hc => hblank c (List.mem_of_mem_getLast? hc)⟩
    rw [trim_append_blank hback, trim_blank_append hfront, htrimmed.trim_eq]
    exact (spelling_iff htag).mp h

theorem ofName?_tag (kind : EquationKind) : ofName? kind.tag.toList = some kind := by
  have hall : ∀ kind ∈ all, ofName? kind.tag.toList = some kind := by decide
  exact hall kind (mem_all kind)

end EquationKind

/-! ## Lines -/

theorem cut?_append {p : Char → Bool} {c : Char} {front : List Char}
    (hfront : ∀ d ∈ front, p d = false) (hc : p c = true) (rest : List Char) :
    cut? p (front ++ c :: rest) = some (front, rest) := by
  induction front with
  | nil => rw [List.nil_append, cut?, if_pos hc]
  | cons d front ih =>
    rw [List.forall_mem_cons] at hfront
    rw [List.cons_append, cut?, if_neg (by rw [hfront.1]; decide), ih hfront.2]
    rfl

/-- **A line that begins with the tag of a kind and a colon** asks for an equation of this kind. -/
theorem BatchLine.ofLine_tag (kind : EquationKind) (text : List Char) :
    ofLine (kind.tag.toList ++ ": ".toList ++ text) = .equation kind (trim text) := by
  have hletter : ∀ c ∈ kind.tag.toList, c.isAlpha = true := fun c hc =>
    (EquationKind.isAlpha_tag kind c hc).1
  have hcolon : ∀ c ∈ kind.tag.toList, (c == ':') = false := fun c hc => by
    rw [beq_eq_false_iff_ne]
    rintro rfl
    exact absurd (hletter _ hc) (by decide)
  obtain ⟨first, rest, htag⟩ : ∃ first rest, kind.tag.toList = first :: rest := by
    cases kind <;> exact ⟨_, _, rfl⟩
  have hfirst := hletter first (htag ▸ List.mem_cons_self)
  -- Blanks at the end of the line are those at the end of the text.
  have htrim : trim (kind.tag.toList ++ ": ".toList ++ text) =
      kind.tag.toList ++ ':' :: trimEnd (' ' :: text) := by
    rw [List.append_assoc, trim, htag, List.cons_append,
      List.dropWhile_cons_of_neg (by rw [isBlank_of_isAlpha hfirst]; decide), ← List.cons_append,
      ← htag]
    exact rdropWhile_append_cons (by decide) _ _
  have hcomment : (first :: (rest ++ ':' :: trimEnd (' ' :: text))).head? ≠ some '#' := by
    rintro hhead
    obtain rfl := Option.some.inj hhead
    exact absurd hfirst (by decide)
  have hcut := cut?_append hcolon (c := ':') rfl (trimEnd (' ' :: text))
  rw [ofLine, htrim]
  simp only [hcut, EquationKind.ofName?_tag, trim_trimEnd, trim_cons_of_isBlank (show isBlank ' ' =
    true by decide)]
  rw [htag, List.cons_append, if_neg]
  simpa using hcomment

/-! ## Records -/

/-- **The question of a record is read back** as what the line asked. -/
theorem BatchRecord.ofLine_question {settings : Settings} {number : Nat} {line : List Char}
    {record : BatchRecord} (h : of? settings number line = some record)
    (hreadable : record.unreadable = false) :
    BatchLine.ofLine record.question.toList = BatchLine.ofLine line := by
  unfold of? at h
  split at h
  case h_1 => cases h
  case h_2 =>
    obtain rfl := Option.some.inj h
    cases hreadable
  case h_3 kind text hline =>
    obtain rfl := Option.some.inj h
    obtain ⟨-, equation, -, -, rfl⟩ := BatchLine.exists_cut_of_ofLine hline
    have hquestion : (kind.tag ++ ": " ++ String.ofList (trim equation)).toList =
        kind.tag.toList ++ ": ".toList ++ trim equation := by simp
    calc BatchLine.ofLine (kind.tag ++ ": " ++ String.ofList (trim equation)).toList
        = .equation kind (trim (trim equation)) := by rw [hquestion, BatchLine.ofLine_tag]
      _ = BatchLine.ofLine line := by rw [trim_trim, hline]

/-! ## Names, lines and records -/

/-- **Kinds are named up to spelling, and records are read back.** The names of a kind are the
spellings of its tag with blanks around them; without the blanks, hyphens and underscores a name is
the tag of its kind, and of no other, in some case of its letters, which are ASCII letters. A line
that begins with the tag and a colon asks for an equation of this kind, whatever follows, and so the
question of a record asks for the same equation as its line. -/
theorem EquationKind.named_up_to_spelling :
    (∀ kind name, ofName? name = some kind ↔
      ∃ front spelling back, name = front ++ spelling ++ back ∧ (∀ c ∈ front, isBlank c = true) ∧
        (∀ c ∈ back, isBlank c = true) ∧ Spelling kind.tag.toList spelling) ∧
    (∀ kind name, ofName? name = some kind →
      (∀ other, Recased other.tag.toList (bareName (trim name)) ↔ other = kind) ∧
      ∀ c ∈ trim name, c.isAlpha = true ∨ c = '-' ∨ c = '_') ∧
    (∀ kind text, BatchLine.ofLine (kind.tag.toList ++ ": ".toList ++ text) =
      .equation kind (trim text)) ∧
    ∀ settings number line record, BatchRecord.of? settings number line = some record →
      record.unreadable = false →
      BatchLine.ofLine record.question.toList = BatchLine.ofLine line := by
  refine ⟨fun kind name => ofName?_eq_some_iff_exists, fun kind name h => ⟨fun other => ?_,
    isAlpha_or_of_mem_name h⟩, BatchLine.ofLine_tag,
    fun settings number line record h hreadable => BatchRecord.ofLine_question h hreadable⟩
  rw [← ofName?_eq_some_iff, h, Option.some.injEq, eq_comm]

/-- A name in capital letters with a hyphen at each end, and the record of a line. The letter `İ`
does not pass for an `i`. -/
theorem EquationKind.named_up_to_spelling_absoluteValue :
    ofName? " -ABSOLUTE_value- ".toList = some absoluteValue ∧
    ofName? "quadrat\u0130c".toList = none ∧
    Recased absoluteValue.tag.toList (bareName (trim " -ABSOLUTE_value- ".toList)) ∧
    ¬ Recased matrix.tag.toList (bareName (trim " -ABSOLUTE_value- ".toList)) ∧
    ∃ record, BatchRecord.of? {} 1 " LI-near : 2x = 4".toList = some record ∧
      record.unreadable = false ∧
      BatchLine.ofLine record.question.toList = BatchLine.ofLine " LI-near : 2x = 4".toList := by
  have h : ofName? " -ABSOLUTE_value- ".toList = some absoluteValue := by decide
  obtain ⟨-, hnames, -, hrecords⟩ := named_up_to_spelling
  obtain ⟨honly, -⟩ := hnames _ _ h
  refine ⟨h, by decide, (honly _).mpr rfl, fun hmatrix => ?_, ?_⟩
  · exact absurd ((honly _).mp hmatrix) (by decide)
  · exact ⟨_, rfl, rfl, hrecords _ _ _ _ rfl rfl⟩

end OneUnknown
