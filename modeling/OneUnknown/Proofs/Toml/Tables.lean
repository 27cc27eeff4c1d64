import OneUnknown.Proofs.Toml.Words
import OneUnknown.Toml.Document

/-!
# Tables that are written line by line

A header begins a table, and each line behind it adds a field. The fields are read as they stand, if
no name stands twice.

* `Document.apply_table`, `Document.apply_pair`: what a statement does;
* **`WrittenField`**, `headerLine`, `fieldLine`: the lines of a table;
* `statement?_headerLine`, `statement?_fieldLine`: the statements on them;
* **`statementsWithin_fieldLines`**: all fields, one after another;
* **`statementsWithin_tableLines`**: a table.
-/

namespace OneUnknown.Toml

variable {entries before : Entries} {current : List String} {name : String} {value : Node}
  {rest : List Char} {bound : Nat}

/-! ## What a statement does -/

theorem find?_put (entries : Entries) (name : String) (value : Node) :
    find? (put entries name value) name = some value := by
  induction entries with
  | nil => exact List.lookup_cons_self
  | cons entry entries ih =>
    obtain ⟨other, old⟩ := entry
    unfold put
    split
    · exact List.lookup_cons_self
    · rename_i hne
      have hne : (name == other) = false := beq_false_of_ne (Ne.symm hne)
      rw [find?, List.lookup_cons, hne]
      exact ih

theorem put_put (entries : Entries) (name : String) (value value' : Node) :
    put (put entries name value) name value' = put entries name value' := by
  induction entries with
  | nil => simp [put]
  | cons entry entries ih =>
    obtain ⟨other, old⟩ := entry
    by_cases h : other = name
    · simp [put, h]
    · simp [put, h, ih]

theorem Document.apply_table (h : find? entries name = none) (current : List String) :
    Document.apply? ⟨entries, current⟩ (.table [] name) =
      some ⟨put entries name (.table .header []), [name]⟩ := by
  simp only [ Document.apply?, openTable?, descend, h, bind, Option.bind]
  rfl

/-- **A field is added to the present table**, behind those that it has. -/
theorem Document.apply_pair {key : String} (h : key ∉ before.map Prod.fst) (entries : Entries)
    (name : String) (value : Node) :
    Document.apply? ⟨put entries name (.table .header before), [name]⟩ (.pair [] key value) =
      some ⟨put entries name (.table .header (before ++ [(key, value)])), [name]⟩ := by
  have hnone : find? before key = none := by
    rw [find?, List.lookup_eq_none_iff]
    rintro ⟨other, node⟩ hmem
    exact bne_iff_ne.mpr fun heq => h (List.mem_map.mpr ⟨(other, node), hmem, heq.symm⟩)
  have hassign : assign? [] key value before = some (before ++ [(key, value)]) := by
    simp only [assign?, descend, hnone]
    rfl
  simp only [ Document.apply?, descend, find?_put, hassign, put_put, bind, Option.bind]
  rfl

/-! ## Lines -/

/-- A name that is written without quotes. -/
def IsName (name : String) : Prop := name.toList ≠ [] ∧ ∀ c ∈ name.toList, isKeyChar c = true

/-- **A field of a table**: its name, the text of its value, and the value. -/
structure WrittenField where
  name : String
  text : List Char
  value : Node

/-- The text is read as the value when it stands behind an equals sign and ends its line. -/
def WrittenField.IsReadable (field : WrittenField) : Prop :=
  (∃ c cs, field.text = c :: cs ∧ IsPlain c) ∧ ∀ bound rest, field.text.length + 1 < bound →
    value? bound depthLimit (field.text ++ '\n' :: rest) = some (field.value, '\n' :: rest)

/-- The header of a table, and what follows it. -/
def headerLine (name : String) (rest : List Char) : List Char :=
  '[' :: (name.toList ++ ']' :: '\n' :: rest)

/-- The line of a field, and what follows it. -/
def fieldLine (field : WrittenField) (rest : List Char) : List Char :=
  field.name.toList ++ ' ' :: '=' :: ' ' :: (field.text ++ '\n' :: rest)

/-- A table, and what follows it. -/
def tableLines (name : String) (fields : List WrittenField) (rest : List Char) : List Char :=
  headerLine name (fields.foldr fieldLine rest)

/-- The entry that is read from the line of a field. -/
def WrittenField.entry (field : WrittenField) : String × Node := (field.name, field.value)

/-! ## The statements on them -/

theorem statement?_headerLine (hname : IsName name) (rest : List Char) :
    statement? (headerLine name rest) = some (.table [] name, rest) := by
  obtain ⟨hne, hchars⟩ := hname
  have hkey : key? (name.toList ++ ']' :: '\n' :: rest) =
      some (([], String.ofList name.toList), ']' :: '\n' :: rest) :=
    key?_name hne hchars (by decide) (by decide) rfl
  unfold statement? headerLine
  split
  · -- No second bracket stands where the name begins.
    rename_i heq
    obtain ⟨c, tail, hcons⟩ := List.exists_cons_of_ne_nil hne
    rw [hcons] at heq hchars
    have hc := hchars c List.mem_cons_self
    rw [(List.cons.inj (List.cons.inj heq).2).1] at hc
    exact absurd hc (by decide)
  · rename_i heq
    obtain rfl := (List.cons.inj heq).2
    rw [hkey]
    simp only [bind, Option.bind, String.ofList_toList]
    rfl
  · rename_i h
    exact (h _ rfl).elim

theorem statement?_fieldLine {field : WrittenField} (hname : IsName field.name)
    (h : field.IsReadable) (rest : List Char) :
    statement? (fieldLine field rest) = some (.pair [] field.name field.value, rest) := by
  obtain ⟨hne, hchars⟩ := hname
  obtain ⟨⟨c, cs, htext, hplain⟩, hvalue⟩ := h
  have hkey : key? (fieldLine field rest) = some (([], String.ofList field.name.toList),
      '=' :: ' ' :: (field.text ++ '\n' :: rest)) :=
    key?_name hne hchars (by decide) (by decide) rfl
  have hblank : skipBlanks (' ' :: (field.text ++ '\n' :: rest)) = field.text ++ '\n' :: rest := by
    rw [htext]
    exact skipBlanks_of_plain hplain
  have hread := hvalue (2 * (' ' :: (field.text ++ '\n' :: rest)).length + 2) rest
    (by simp only [List.length_cons, List.length_append]; omega)
  have hbracket : ∀ tail, fieldLine field rest ≠ '[' :: tail := by
    intro tail heq
    obtain ⟨d, ds, hcons⟩ := List.exists_cons_of_ne_nil hne
    rw [fieldLine, hcons] at heq
    have hd := hchars d (hcons ▸ List.mem_cons_self)
    rw [(List.cons.inj heq).1] at hd
    exact absurd hd (by decide)
  unfold statement?
  split
  · rename_i heq
    exact (hbracket _ heq).elim
  · rename_i heq
    exact (hbracket _ heq).elim
  · rw [hkey]
    simp only [bind, Option.bind, behind?, if_true, hblank, hread, String.ofList_toList]
    rfl

/-! ## Documents -/

theorem isPlain_of_isKeyChar {c : Char} (h : isKeyChar c = true) : IsPlain c := by
  refine ⟨?_, ne_of_isKeyChar h (by decide), ne_of_isKeyChar h (by decide),
    ne_of_isKeyChar h (by decide)⟩
  rw [isSpace, Bool.or_eq_false_iff, beq_eq_false_iff_ne, beq_eq_false_iff_ne]
  exact ⟨ne_of_isKeyChar h (by decide), ne_of_isKeyChar h (by decide)⟩

theorem statementsWithin_cons {document document' : Document} {c : Char} {cs : List Char}
    {statement : Statement} (hc : IsPlain c) (hread : statement? (c :: cs) = some (statement, rest))
    (happly : document.apply? statement = some document') :
    statementsWithin (bound + 1) document (c :: cs) = statementsWithin bound document' rest := by
  have hhead : (c :: cs).head? ≠ some '#' := fun heq => hc.2.1 (Option.some.inj heq)
  rw [statementsWithin, skipLayout_of_plain hc]
  simp only [if_neg hhead, hread, happly, bind, Option.bind]

theorem statementsWithin_newline (bound : Nat) (document : Document) (rest : List Char) :
    statementsWithin bound document ('\n' :: rest) = statementsWithin bound document rest := by
  cases bound with
  | zero => rfl
  | succ bound => rw [statementsWithin, statementsWithin, skipLayout_newline]

theorem statementsWithin_headerLine (hname : IsName name) (hnew : find? entries name = none)
    (rest : List Char) :
    statementsWithin (bound + 1) ⟨entries, current⟩ (headerLine name rest) =
      statementsWithin bound ⟨put entries name (.table .header []), [name]⟩ rest :=
  statementsWithin_cons ⟨by decide, by decide, by decide, by decide⟩
    (statement?_headerLine hname rest) (Document.apply_table hnew current)

theorem statementsWithin_fieldLine {field : WrittenField} (hname : IsName field.name)
    (hreadable : field.IsReadable) (hnew : field.name ∉ before.map Prod.fst) (rest : List Char) :
    statementsWithin (bound + 1) ⟨put entries name (.table .header before), [name]⟩
        (fieldLine field rest) =
      statementsWithin bound ⟨put entries name (.table .header (before ++ [field.entry])), [name]⟩
        rest := by
  have hread := statement?_fieldLine hname hreadable rest
  obtain ⟨c, cs, hcons⟩ := List.exists_cons_of_ne_nil hname.1
  have hline : fieldLine field rest =
      c :: (cs ++ ' ' :: '=' :: ' ' :: (field.text ++ '\n' :: rest)) := by
    rw [fieldLine, hcons, List.cons_append]
  rw [hline] at hread ⊢
  exact statementsWithin_cons (isPlain_of_isKeyChar (hname.2 c (hcons ▸ List.mem_cons_self))) hread
    (Document.apply_pair hnew entries name field.value)

/-- **The lines of fields**, whose names are new, add them to the present table. -/
theorem statementsWithin_fieldLines {fields : List WrittenField}
    (hfields : ∀ field ∈ fields, IsName field.name ∧ field.IsReadable)
    (hnames : (fields.map WrittenField.name).Nodup)
    (hnew : ∀ field ∈ fields, field.name ∉ before.map Prod.fst) (rest : List Char) :
    statementsWithin (bound + fields.length) ⟨put entries name (.table .header before), [name]⟩
        (fields.foldr fieldLine rest) =
      statementsWithin bound
        ⟨put entries name (.table .header (before ++ fields.map WrittenField.entry)), [name]⟩
        rest := by
  induction fields generalizing before with
  | nil => rw [List.map_nil, List.append_nil]; rfl
  | cons field fields ih =>
    obtain ⟨⟨hname, hreadable⟩, hfields⟩ := List.forall_mem_cons.mp hfields
    obtain ⟨hfirst, hnew⟩ := List.forall_mem_cons.mp hnew
    rw [List.map_cons, List.nodup_cons] at hnames
    have hnew' : ∀ other ∈ fields, other.name ∉ (before ++ [field.entry]).map Prod.fst := by
      intro other hmem hname'
      rw [List.map_append, List.mem_append] at hname'
      rcases hname' with hname' | hname'
      · exact hnew other hmem hname'
      · rw [List.map_singleton, List.mem_singleton] at hname'
        exact hnames.1 (List.mem_map.mpr ⟨other, hmem, hname'⟩)
    rw [List.length_cons, ← Nat.add_assoc, List.foldr_cons,
      statementsWithin_fieldLine hname hreadable hfirst, ih hfields hnames.2 hnew', List.map_cons,
      List.append_assoc, List.singleton_append]

/-- **A table is read as it was written.** -/
theorem statementsWithin_tableLines {fields : List WrittenField} (hname : IsName name)
    (hfresh : find? entries name = none)
    (hfields : ∀ field ∈ fields, IsName field.name ∧ field.IsReadable)
    (hnames : (fields.map WrittenField.name).Nodup) (rest : List Char) :
    statementsWithin (bound + fields.length + 1) ⟨entries, current⟩ (tableLines name fields rest) =
      statementsWithin bound
        ⟨put entries name (.table .header (fields.map WrittenField.entry)), [name]⟩ rest := by
  rw [tableLines, statementsWithin_headerLine hname hfresh,
    statementsWithin_fieldLines hfields hnames (fun _ _ => List.not_mem_nil), List.nil_append]

end OneUnknown.Toml
