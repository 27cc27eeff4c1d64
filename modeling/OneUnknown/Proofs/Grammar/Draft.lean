import OneUnknown.Proofs.Grammar.Derivation

/-!
# Drawing up a derivation

A row of tokens is read from the left into a draft, which holds the tree as far as the tokens
determine it. Reading is a function of the tokens, it spells back what it has read, and it finds
every sentence. So no two sentences spell the same tokens.

* `Slot`, `Place`, `Frame`, `Stage`, **`Draft`**: what is known of the tree;
* `Draft.push`, `Draft.finish?`, **`derivation?`**: a token, the end of input, a row of tokens;
* `Draft.kinds`: the tokens that a draft spells, `Draft.kinds_push`, **`kinds_of_derivation?`**:
  reading spells back its tokens;
* `Draft.Leads`: where reading leads, `Phrase.leads` and its companions: reading a tree;
* **`derivation?_of_kinds`**: every sentence is found, **`Sentence.kinds_injective`**: there is no
  other.
-/

namespace OneUnknown.Grammar

/-! ## Drafts -/

/-- The place of a signed factor: the product before it, and its signs. -/
structure Slot where
  product? : Option (Term × FactorSign) := none
  signs : List TermSign := []

/-- **The place of a power.** Only a group power may stand beside a term. -/
inductive Place : Head → Type where
  | slot {head : Head} (s : Slot) : Place head
  | beside (t : Term) : Place .group

/-- What stands before an open parenthesis within its sum. -/
structure Frame where
  sum? : Option (Phrase × TermSign)
  place : Place .group

/-- **What may come next**, and the factor as far as it has been read. -/
inductive Stage where
  | operand (s : Slot)
  | base {head : Head} (place : Place head) (b : Primary head)
  | exponent {head : Head} (place : Place head) (b : Primary head)
  | power {head : Head} (place : Place head) (p : Power head)

/-- **A tree as far as it is known.** -/
structure Draft where
  /-- The left side, once the sign of equality has been read. -/
  left? : Option Phrase := none
  /-- What stands before the open parentheses, the innermost first. -/
  outer : List Frame := []
  /-- The sum before the present term. -/
  sum? : Option (Phrase × TermSign) := none
  /-- The present factor. -/
  stage : Stage := .operand {}
  /-- The column of the token that was read last. -/
  column : Nat := 0

/-- The factor with the signs of the slot. -/
def Slot.factor (s : Slot) (f : Factor) : Factor := s.signs.foldr Factor.signed f

/-- The product of the slot with its factor. -/
def Slot.term (s : Slot) (f : Factor) : Term :=
  match s.product? with
  | none => .factor f
  | some (t, .times) => .times t f
  | some (t, .over _) => .over t f

/-- The product that ends with a power at the given place. -/
def Place.term {head : Head} : Place head → Power head → Term
  | .slot s, p => s.term (s.factor (.power p))
  | .beside t, p => .beside t p

namespace Draft

/-- The sum that ends with a term. -/
def phrase (d : Draft) (t : Term) : Phrase :=
  match d.sum? with
  | none => .term t
  | some (p, sign) => .sum p sign t

/-- The first token of a group. -/
def group (d : Draft) (place : Place .group) (t : Token) : Option Draft :=
  match t.kind with
  | .letter name => some { d with stage := .base place (.letter name), column := t.column }
  | .openParen =>
    some { d with
      outer := ⟨d.sum?, place⟩ :: d.outer
      sum? := none
      stage := .operand {}
      column := t.column }
  | _ => none

/-- A token with which a factor begins. -/
def operand (d : Draft) (s : Slot) (t : Token) : Option Draft :=
  let signed (sign : TermSign) : Draft :=
    { d with stage := .operand { s with signs := s.signs ++ [sign] }, column := t.column }
  match t.kind with
  | .number value => some { d with stage := .base (.slot s) (.number value), column := t.column }
  | .letter _ | .openParen => d.group (.slot s) t
  | .minus => some (signed .minus)
  | .plus => some (signed .plus)
  | _ => none

/-- A token behind a complete term. -/
def afterTerm (d : Draft) (u : Term) (t : Token) : Option Draft :=
  let continued (sign : FactorSign) : Draft :=
    { d with stage := .operand { product? := some (u, sign) }, column := t.column }
  let added (sign : TermSign) : Draft :=
    { d with sum? := some (d.phrase u, sign), stage := .operand {}, column := t.column }
  match t.kind with
  | .star => some (continued .times)
  | .slash => some (continued (.over t.column))
  | .plus => some (added .plus)
  | .minus => some (added .minus)
  | .letter _ | .openParen => d.group (.beside u) t
  | .closeParen =>
    match d.outer with
    | [] => none
    | frame :: outer =>
      some { d with
        outer := outer
        sum? := frame.sum?
        stage := .base frame.place (.parenthesis (d.phrase u))
        column := t.column }
  | .equals =>
    if d.outer.isEmpty && d.left?.isNone then
      some { d with
        left? := some (d.phrase u), sum? := none, stage := .operand {}, column := t.column }
    else none
  | _ => none

/-- **Reads one token.** -/
def push (d : Draft) (t : Token) : Option Draft :=
  match d.stage with
  | .operand s => d.operand s t
  | .base place b =>
    match t.kind with
    | .caret => some { d with stage := .exponent place b, column := t.column }
    | .superscript n =>
      some { d with stage := .power place (.of b (some (.superscript n))), column := t.column }
    | _ => d.afterTerm (place.term (.of b none)) t
  | .exponent place b =>
    match t.kind with
    | .number value =>
      match h : exponentOf? value with
      | some n =>
        some { d with
          stage := .power place (.of b (some (.caret value n (exponentOf?_eq_some_iff.mp h))))
          column := t.column }
      | none => none
    | _ => none
  | .power place p => d.afterTerm (place.term p) t

/-- The term that has been read, if it is complete. -/
def term? (d : Draft) : Option Term :=
  match d.stage with
  | .base place b => some (place.term (.of b none))
  | .power place p => some (place.term p)
  | _ => none

/-- The sentence that has been read, when the input ends. -/
def finish? (d : Draft) : Option Sentence := do
  let u ← d.term?
  if d.outer.isEmpty then
    return match d.left? with
      | none => ⟨d.phrase u, none⟩
      | some left => ⟨left, some (d.phrase u)⟩
  else none

end Draft

/-- **The sentence that tokens spell**, if there is one. -/
def derivation? (ts : List Token) : Option Sentence := do (← ts.foldlM Draft.push {}).finish?

/-! ## What a draft spells -/

/-- The tokens of a sum with the sign behind it. -/
def sumKinds (sum? : Option (Phrase × TermSign)) : List TokenKind :=
  match sum? with
  | none => []
  | some (p, sign) => p.kinds ++ [signKind sign]

def Slot.kinds (s : Slot) : List TokenKind :=
  (match s.product? with
    | none => []
    | some (t, .times) => t.kinds ++ [.star]
    | some (t, .over _) => t.kinds ++ [.slash]) ++ s.signs.map signKind

def Place.kinds {head : Head} : Place head → List TokenKind
  | .slot s => s.kinds
  | .beside t => t.kinds

def Frame.kinds (frame : Frame) : List TokenKind :=
  sumKinds frame.sum? ++ frame.place.kinds ++ [.openParen]

def Stage.kinds : Stage → List TokenKind
  | .operand s => s.kinds
  | .base place b => place.kinds ++ b.kinds
  | .exponent place b => place.kinds ++ b.kinds ++ [.caret]
  | .power place p => place.kinds ++ p.kinds

/-- **The tokens that a draft spells.** -/
def Draft.kinds (d : Draft) : List TokenKind :=
  (d.left?.map fun p => p.kinds ++ [.equals]).getD [] ++
    d.outer.foldr (fun frame kinds => kinds ++ frame.kinds) [] ++ sumKinds d.sum? ++ d.stage.kinds

section

variable {head : Head}

@[simp] theorem Slot.kinds_start : (Slot.mk none []).kinds = [] := rfl

@[simp] theorem Slot.kinds_times (t : Term) :
    (Slot.mk (some (t, .times)) []).kinds = t.kinds ++ [.star] := by simp [Slot.kinds]

@[simp] theorem Slot.kinds_over (t : Term) (column : Nat) :
    (Slot.mk (some (t, .over column)) []).kinds = t.kinds ++ [.slash] := by simp [Slot.kinds]

@[simp] theorem Slot.kinds_sign (s : Slot) (sign : TermSign) :
    (Slot.mk s.product? (s.signs ++ [sign])).kinds = s.kinds ++ [signKind sign] := by
  simp [Slot.kinds]

@[simp] theorem Place.kinds_slot (s : Slot) : (Place.slot s : Place head).kinds = s.kinds := rfl

@[simp] theorem Place.kinds_beside (t : Term) : (Place.beside t).kinds = t.kinds := rfl

@[simp] theorem Stage.kinds_operand (s : Slot) : (Stage.operand s).kinds = s.kinds := rfl

@[simp] theorem Stage.kinds_base (place : Place head) (b : Primary head) :
    (Stage.base place b).kinds = place.kinds ++ b.kinds := rfl

@[simp] theorem Stage.kinds_exponent (place : Place head) (b : Primary head) :
    (Stage.exponent place b).kinds = place.kinds ++ b.kinds ++ [.caret] := rfl

@[simp] theorem Stage.kinds_power (place : Place head) (p : Power head) :
    (Stage.power place p).kinds = place.kinds ++ p.kinds := rfl

theorem Slot.kinds_factor (s : Slot) (f : Factor) :
    (s.factor f).kinds = s.signs.map signKind ++ f.kinds := by
  unfold Slot.factor
  induction s.signs with
  | nil => rfl
  | cons sign signs ih => simp [Factor.kinds, ih]

theorem Place.kinds_term (place : Place head) (p : Power head) :
    (place.term p).kinds = place.kinds ++ p.kinds := by
  cases place with
  | slot s =>
    simp only [Place.term, Slot.term, Place.kinds, Slot.kinds]
    split <;> simp [Term.kinds, Factor.kinds, Slot.kinds_factor]
  | beside t => rfl

end

namespace Draft

theorem kinds_phrase (d : Draft) (t : Term) : (d.phrase t).kinds = sumKinds d.sum? ++ t.kinds := by
  unfold phrase sumKinds
  split <;> simp [Phrase.kinds]

variable {d d' : Draft} {t : Token}

theorem kinds_group {place : Place .group} (hs : d.stage.kinds = place.kinds)
    (h : d.group place t = some d') : d'.kinds = d.kinds ++ [t.kind] := by
  unfold group at h
  split at h
  · rename_i name hk
    obtain rfl := Option.some.inj h
    simp [kinds, Primary.kinds, hs, hk]
  · rename_i hk
    obtain rfl := Option.some.inj h
    simp [kinds, Frame.kinds, sumKinds, hs, hk]
  · simp at h

theorem kinds_operand {s : Slot} (hs : d.stage.kinds = s.kinds)
    (h : d.operand s t = some d') : d'.kinds = d.kinds ++ [t.kind] := by
  unfold operand at h
  split at h
  · rename_i value hk
    obtain rfl := Option.some.inj h
    simp [kinds, Primary.kinds, hs, hk]
  · exact kinds_group (by exact hs) h
  · exact kinds_group (by exact hs) h
  · rename_i hk
    obtain rfl := Option.some.inj h
    simp [kinds, signKind, hs, hk]
  · rename_i hk
    obtain rfl := Option.some.inj h
    simp [kinds, signKind, hs, hk]
  · simp at h

theorem kinds_afterTerm {u : Term} (hs : d.stage.kinds = u.kinds)
    (h : d.afterTerm u t = some d') : d'.kinds = d.kinds ++ [t.kind] := by
  unfold afterTerm at h
  split at h
  · rename_i hk
    obtain rfl := Option.some.inj h
    simp [kinds, hs, hk]
  · rename_i hk
    obtain rfl := Option.some.inj h
    simp [kinds, hs, hk]
  · rename_i hk
    obtain rfl := Option.some.inj h
    simp [kinds, sumKinds, signKind, kinds_phrase, hs, hk]
  · rename_i hk
    obtain rfl := Option.some.inj h
    simp [kinds, sumKinds, signKind, kinds_phrase, hs, hk]
  · exact kinds_group (by exact hs) h
  · exact kinds_group (by exact hs) h
  · rename_i hk
    split at h
    · simp at h
    · rename_i frame outer ho
      obtain rfl := Option.some.inj h
      simp [kinds, Frame.kinds, Primary.kinds, kinds_phrase, hs, hk, ho]
  · rename_i hk
    split at h
    · rename_i hc
      obtain rfl := Option.some.inj h
      simp only [Bool.and_eq_true, List.isEmpty_iff, Option.isNone_iff_eq_none] at hc
      simp [kinds, sumKinds, kinds_phrase, hs, hk, hc]
    · simp at h
  · simp at h

/-- **Reading a token adds it to what the draft spells.** -/
theorem kinds_push (h : d.push t = some d') : d'.kinds = d.kinds ++ [t.kind] := by
  unfold push at h
  split at h
  · rename_i s hs
    exact kinds_operand (by rw [hs]; rfl) h
  · rename_i head place b hs
    split at h
    · rename_i hk
      obtain rfl := Option.some.inj h
      simp [kinds, hs, hk]
    · rename_i n hk
      obtain rfl := Option.some.inj h
      simp [kinds, Power.kinds, Exponent.kinds, hs, hk]
    · exact kinds_afterTerm (by rw [hs, Place.kinds_term]; simp [Power.kinds]) h
  · rename_i head place b hs
    split at h
    · rename_i value hk
      split at h
      · obtain rfl := Option.some.inj h
        simp [kinds, Power.kinds, Exponent.kinds, hs, hk]
      · simp at h
    · simp at h
  · rename_i head place p hs
    exact kinds_afterTerm (by rw [hs, Place.kinds_term]; rfl) h

theorem kinds_of_foldlM {ts : List Token} (h : ts.foldlM push d = some d') :
    d'.kinds = d.kinds ++ ts.map (·.kind) := by
  induction ts generalizing d with
  | nil =>
    obtain rfl := Option.some.inj h
    simp
  | cons t ts ih =>
    rw [List.foldlM_cons] at h
    obtain ⟨d₁, h₁, h₂⟩ := Option.bind_eq_some_iff.mp h
    rw [ih h₂, kinds_push h₁]
    simp

theorem kinds_of_term? {u : Term} (h : d.term? = some u) : d.stage.kinds = u.kinds := by
  unfold term? at h
  split at h
  · rename_i hs
    obtain rfl := Option.some.inj h
    rw [hs, Place.kinds_term]
    simp [Power.kinds]
  · rename_i hs
    obtain rfl := Option.some.inj h
    rw [hs, Place.kinds_term]
    rfl
  · simp at h

theorem kinds_of_finish? {s : Sentence} (h : d.finish? = some s) : s.kinds = d.kinds := by
  obtain ⟨u, hu, h⟩ := Option.bind_eq_some_iff.mp h
  have hd := kinds_of_term? hu
  split at h
  · rename_i ho
    obtain rfl := Option.some.inj h
    rw [List.isEmpty_iff] at ho
    split <;> rename_i hl <;> simp [Sentence.kinds, kinds, kinds_phrase, hd, ho, hl]
  · simp at h

end Draft

/-- **Reading spells back its tokens.** -/
theorem kinds_of_derivation? {ts : List Token} {s : Sentence} (h : derivation? ts = some s) :
    s.kinds = ts.map (·.kind) := by
  obtain ⟨d, hd, hs⟩ := Option.bind_eq_some_iff.mp h
  rw [Draft.kinds_of_finish? hs, Draft.kinds_of_foldlM hd]
  rfl

/-! ## Reading a tree -/

namespace Draft

/-- **Where reading leads**: tokens of the given kinds lead from the draft to one with property
`P`. -/
def Leads (d : Draft) (kinds : List TokenKind) (P : Draft → Prop) : Prop :=
  ∀ ts : List Token, ts.map (·.kind) = kinds → ∃ d', ts.foldlM push d = some d' ∧ P d'

/-- The drafts agree in what stands before the present term. -/
structure Within (d d' : Draft) : Prop where
  left?_eq : d'.left? = d.left?
  outer_eq : d'.outer = d.outer
  sum?_eq : d'.sum? = d.sum?

theorem Within.trans {d d' d'' : Draft} (h : d.Within d') (h' : d'.Within d'') : d.Within d'' :=
  ⟨h'.left?_eq.trans h.left?_eq, h'.outer_eq.trans h.outer_eq, h'.sum?_eq.trans h.sum?_eq⟩

/-- A power at the given place may begin. -/
inductive Awaits (d : Draft) : {head : Head} → Place head → Prop where
  | slot {head : Head} {s : Slot} (h : d.stage = .operand s) : d.Awaits (Place.slot s : Place head)
  | beside {u : Term} (h : d.term? = some u) : d.Awaits (.beside u)

variable {d d' : Draft} {t : Token} {kind : TokenKind} {kinds kinds' : List TokenKind}
  {P Q : Draft → Prop}

theorem Leads.nil (h : P d) : d.Leads [] P := by
  intro ts hts
  obtain rfl := List.map_eq_nil_iff.mp hts
  exact ⟨d, rfl, h⟩

theorem Leads.cons (h : ∀ t : Token, t.kind = kind → ∃ d', d.push t = some d' ∧ d'.Leads kinds P) :
    d.Leads (kind :: kinds) P := by
  intro ts hts
  obtain ⟨t, ts, rfl, ht, hts⟩ := List.map_eq_cons_iff.mp hts
  obtain ⟨d₁, h₁, hlead⟩ := h t ht
  obtain ⟨d', h', hP⟩ := hlead ts hts
  exact ⟨d', by rw [List.foldlM_cons, h₁]; exact h', hP⟩

theorem Leads.append (h : d.Leads kinds P) (h' : ∀ d', P d' → d'.Leads kinds' Q) :
    d.Leads (kinds ++ kinds') Q := by
  intro ts hts
  obtain ⟨ts₁, ts₂, rfl, h₁, h₂⟩ := List.map_eq_append_iff.mp hts
  obtain ⟨d₁, hd₁, hP⟩ := h ts₁ h₁
  obtain ⟨d₂, hd₂, hQ⟩ := h' d₁ hP ts₂ h₂
  exact ⟨d₂, by rw [List.foldlM_append, hd₁]; exact hd₂, hQ⟩

theorem Leads.imp (h : d.Leads kinds P) (h' : ∀ d', P d' → Q d') : d.Leads kinds Q := by
  intro ts hts
  obtain ⟨d', hd, hP⟩ := h ts hts
  exact ⟨d', hd, h' d' hP⟩

theorem push_of_term? {u : Term} (h : d.term? = some u) (h₁ : t.kind ≠ .caret)
    (h₂ : ∀ n, t.kind ≠ .superscript n) : d.push t = d.afterTerm u t := by
  unfold term? at h
  unfold push
  split at h
  · rename_i hs
    obtain rfl := Option.some.inj h
    simp only [hs]
  · rename_i hs
    obtain rfl := Option.some.inj h
    rw [hs]
  · simp at h

theorem Awaits.push_letter {place : Place .group} {name : Char} (h : d.Awaits place)
    (hk : t.kind = .letter name) : d.push t = d.group place t := by
  cases h with
  | slot h => simp [push, h, operand, hk]
  | beside h => rw [push_of_term? h (by simp [hk]) (by simp [hk])]; simp [afterTerm, hk]

theorem Awaits.push_openParen {place : Place .group} (h : d.Awaits place)
    (hk : t.kind = .openParen) : d.push t = d.group place t := by
  cases h with
  | slot h => simp [push, h, operand, hk]
  | beside h => rw [push_of_term? h (by simp [hk]) (by simp [hk])]; simp [afterTerm, hk]

theorem push_exponent {head : Head} {place : Place head} {b : Primary head} {value : Float}
    {n : Nat} (hs : d.stage = .exponent place b) (ht : t.kind = .number value)
    (h : IsExponent value n) : d.push t = some { d with
      stage := .power place (.of b (some (.caret value n h))), column := t.column } := by
  have hn := exponentOf?_eq_some_iff.mpr h
  simp only [push, hs, ht]
  split
  · rename_i m hm
    obtain rfl := Option.some.inj (hm.symm.trans hn)
    rfl
  · rename_i hm
    simp [hm] at hn

theorem leads_exponent {head : Head} {place : Place head} {b : Primary head}
    (h : d'.stage = .base place b) (hw : d.Within d') (e? : Option Exponent) :
    d'.Leads ((e?.map Exponent.kinds).getD []) fun d' =>
      d.Within d' ∧ d'.term? = some (place.term (.of b e?)) := by
  rcases e? with _ | ⟨value, n, he⟩ | n
  · exact .nil ⟨hw, by simp [term?, h]⟩
  · refine .cons fun t ht => ⟨{ d' with stage := .exponent place b, column := t.column }, ?_, ?_⟩
    · simp [push, h, ht]
    refine .cons fun t ht => ⟨{ d' with
      stage := .power place (.of b (some (.caret value n he))), column := t.column }, ?_, ?_⟩
    · exact push_exponent rfl ht he
    · exact .nil ⟨⟨hw.1, hw.2, hw.3⟩, rfl⟩
  · refine .cons fun t ht => ⟨{ d' with
      stage := .power place (.of b (some (.superscript n))), column := t.column }, ?_, ?_⟩
    · simp [push, h, ht]
    · exact .nil ⟨⟨hw.1, hw.2, hw.3⟩, rfl⟩

end Draft

open Draft

mutual

theorem Phrase.leads : ∀ (p : Phrase) (d : Draft), d.stage = .operand {} → d.sum? = none →
    d.Leads p.kinds fun d' => d'.left? = d.left? ∧ d'.outer = d.outer ∧
      ∃ u, d'.term? = some u ∧ d'.phrase u = p
  | .term t, d, hd, hs => by
    refine (Term.leads t d hd).imp fun d' ⟨hw, ht⟩ => ?_
    exact ⟨hw.left?_eq, hw.outer_eq, t, ht, by simp [phrase, hw.sum?_eq, hs]⟩
  | .sum p sign t, d, hd, hs => by
    refine (Phrase.leads p d hd hs).append fun d₁ ⟨hl, ho, u, hu, hp⟩ => .cons fun tok hk => ?_
    refine ⟨{ d₁ with sum? := some (p, sign), stage := .operand {}, column := tok.column }, ?_, ?_⟩
    · cases sign <;>
        rw [push_of_term? hu (by simp [hk, signKind]) (by simp [hk, signKind])] <;>
        simp [afterTerm, hk, signKind, hp]
    · refine (Term.leads t _ rfl).imp fun d' ⟨hw, ht⟩ => ?_
      exact ⟨hw.left?_eq.trans hl, hw.outer_eq.trans ho, t, ht, by simp [phrase, hw.sum?_eq]⟩

theorem Term.leads : ∀ (t : Term) (d : Draft), d.stage = .operand {} →
    d.Leads t.kinds fun d' => d.Within d' ∧ d'.term? = some t
  | .factor f, d, hd => Factor.leads f d {} hd
  | .times t f, d, hd => by
    refine (Term.leads t d hd).append fun d₁ ⟨hw, ht⟩ => .cons fun tok hk => ⟨{ d₁ with
      stage := .operand { product? := some (t, .times) }, column := tok.column }, ?_, ?_⟩
    · rw [push_of_term? ht (by simp [hk]) (by simp [hk])]
      simp only [afterTerm, hk]
    · refine (Factor.leads f _ { product? := some (t, .times) } rfl).imp fun d' ⟨hw', hf⟩ => ?_
      exact ⟨hw.trans ⟨hw'.1, hw'.2, hw'.3⟩, hf⟩
  | .over t f, d, hd => by
    refine (Term.leads t d hd).append fun d₁ ⟨hw, ht⟩ => .cons fun tok hk => ⟨{ d₁ with
      stage := .operand { product? := some (t, .over tok.column) }, column := tok.column }, ?_, ?_⟩
    · rw [push_of_term? ht (by simp [hk]) (by simp [hk])]
      simp only [afterTerm, hk]
    · refine (Factor.leads f _ { product? := some (t, .over tok.column) } rfl).imp
        fun d' ⟨hw', hf⟩ => ?_
      exact ⟨hw.trans ⟨hw'.1, hw'.2, hw'.3⟩, hf⟩
  | .beside t p, d, hd => by
    refine (Term.leads t d hd).append fun d₁ ⟨hw, ht⟩ => ?_
    exact (Power.leads p d₁ (.beside t) (.beside ht)).imp fun d' ⟨hw', hp⟩ => ⟨hw.trans hw', hp⟩

theorem Factor.leads : ∀ (f : Factor) (d : Draft) (s : Slot), d.stage = .operand s →
    d.Leads f.kinds fun d' => d.Within d' ∧ d'.term? = some (s.term (s.factor f))
  | .power p, d, s, hd => Power.leads p d (.slot s) (.slot hd)
  | .signed sign f, d, s, hd => by
    refine .cons fun tok hk => ⟨{ d with
      stage := .operand { s with signs := s.signs ++ [sign] }, column := tok.column }, ?_, ?_⟩
    · cases sign <;> simp [push, hd, operand, hk, signKind]
    · refine (Factor.leads f _ _ rfl).imp fun d' ⟨hw, hf⟩ => ⟨⟨hw.1, hw.2, hw.3⟩, ?_⟩
      rw [hf]
      simp [Slot.factor, Slot.term]

theorem Power.leads : ∀ {head : Head} (p : Power head) (d : Draft) (place : Place head),
    d.Awaits place → d.Leads p.kinds fun d' => d.Within d' ∧ d'.term? = some (place.term p)
  | _, .of b e?, d, place, hd =>
    (Primary.leads b d place hd).append fun _ ⟨hw, hb⟩ => leads_exponent hb hw e?

theorem Primary.leads : ∀ {head : Head} (b : Primary head) (d : Draft) (place : Place head),
    d.Awaits place → d.Leads b.kinds fun d' => d.Within d' ∧ d'.stage = .base place b
  | _, .number value, d, place, hd => by
    cases hd with
    | @slot _ s hs =>
      refine .cons fun tok hk => ⟨{ d with
        stage := .base (.slot s) (.number value), column := tok.column }, ?_, ?_⟩
      · simp [push, hs, operand, hk]
      · exact .nil ⟨⟨rfl, rfl, rfl⟩, rfl⟩
  | _, .letter name, d, place, hd => by
    refine .cons fun tok hk => ⟨{ d with
      stage := .base place (.letter name), column := tok.column }, ?_, ?_⟩
    · rw [hd.push_letter hk]
      simp [group, hk]
    · exact .nil ⟨⟨rfl, rfl, rfl⟩, rfl⟩
  | _, .parenthesis p, d, place, hd => by
    refine .cons fun tok hk => ⟨{ d with
      outer := ⟨d.sum?, place⟩ :: d.outer
      sum? := none
      stage := .operand {}
      column := tok.column }, ?_, ?_⟩
    · rw [hd.push_openParen hk]
      simp only [group, hk]
    refine (Phrase.leads p _ rfl rfl).append fun d₁ ⟨hl, ho, u, hu, hp⟩ => ?_
    refine .cons fun tok hk => ⟨{ d₁ with
      outer := d.outer
      sum? := d.sum?
      stage := .base place (.parenthesis p)
      column := tok.column }, ?_, ?_⟩
    · rw [push_of_term? hu (by simp [hk]) (by simp [hk])]
      simp [afterTerm, hk, ho, hp]
    · exact .nil ⟨⟨hl, rfl, rfl⟩, rfl⟩

end

/-- **Every sentence is found.** -/
theorem derivation?_of_kinds {s : Sentence} {ts : List Token} (h : ts.map (·.kind) = s.kinds) :
    derivation? ts = some s := by
  obtain ⟨left, right?⟩ := s
  have lead : ({} : Draft).Leads (Sentence.kinds ⟨left, right?⟩) fun d =>
      d.finish? = some ⟨left, right?⟩ := by
    refine (Phrase.leads left {} rfl rfl).append fun d ⟨hl, ho, u, hu, hp⟩ => ?_
    rcases right? with _ | p
    · exact .nil (by simp [finish?, hu, ho, hl, hp])
    · refine .cons fun tok hk => ⟨{ d with
        left? := some left, sum? := none, stage := .operand {}, column := tok.column }, ?_, ?_⟩
      · rw [push_of_term? hu (by simp [hk]) (by simp [hk])]
        simp [afterTerm, hk, ho, hl, hp]
      · refine (Phrase.leads p _ rfl rfl).imp fun d' ⟨hl', ho', u', hu', hp'⟩ => ?_
        simp [finish?, hu', ho', ho, hl', hp']
  obtain ⟨d, hd, hs⟩ := lead ts h
  simp [derivation?, hd, hs]

/-- **No two sentences spell the same tokens.** -/
theorem Sentence.kinds_injective : Function.Injective Sentence.kinds := by
  intro s s' h
  have hts : (s.kinds.map fun kind => Token.mk kind "" 0).map (·.kind) = s.kinds := by
    simp [Function.comp_def]
  exact Option.some.inj ((derivation?_of_kinds hts).symm.trans (derivation?_of_kinds (hts.trans h)))

end OneUnknown.Grammar
