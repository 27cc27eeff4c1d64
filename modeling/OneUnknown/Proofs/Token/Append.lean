import OneUnknown.Proofs.Equation.Spacing
import OneUnknown.Proofs.Text.Split

/-!
# Texts continued behind a blank

What is written behind a text, with a blank before it, changes nothing in the tokens of the text:
the last of them cannot go on, since no token has a blank in it. So the tokens of both together are
those of the text up to its end of input, and then those of what is written behind. If the text is
no row of tokens, what is behind cannot make it one.

* `Piece.append`, `Scans.blank_append`: one token, and blanks, before the rest;
* **`Scans.append`**: the tokens of a text and of what is behind it;
* **`Scans.exists_ok_of_append`**: a text that is continued to a row of tokens is one;
* **`tokens_append_eq_ok_iff`**: the same of texts as they are typed, which are composed first.
-/

namespace OneUnknown

variable {column : Nat} {text gap run rest : List Char} {kind : TokenKind}
  {result : Except LexError (List Token)}

/-- **The text begins with a blank**, or is empty. -/
def BeginsBlank (text : List Char) : Prop := ∀ c, text.head? = some c → isBlank c = true

/-! ## One token -/

theorem Piece.append (h : Piece run rest kind) {behind : List Char} (hbehind : BeginsBlank behind) :
    Piece run (rest ++ behind) kind := by
  refine h.of_head? fun c hc => ?_
  rcases rest with _ | ⟨d, rest⟩
  · exact .inl (hbehind c hc)
  · exact .inr hc

/-! ## Rows of tokens -/

theorem Scans.blank_append (hgap : ∀ c ∈ gap, isBlank c = true)
    (h : Scans (column + gap.length) text result) : Scans column (gap ++ text) result := by
  have hboth {more : List Char} (hmore : ∀ c ∈ more, isBlank c = true) :
      ∀ c ∈ gap ++ more, isBlank c = true := List.forall_mem_append.mpr ⟨hgap, hmore⟩
  have hlength (more : List Char) :
      column + gap.length + more.length = column + (gap ++ more).length := by
    rw [List.length_append, Nat.add_assoc]
  generalize hstart : column + gap.length = start at h
  cases h with
  | @stop _ more hmore =>
    rw [← hstart, hlength]
    exact .stop (hboth hmore)
  | @token _ more run rest kind result hmore hpiece h =>
    rw [← hstart, hlength] at h ⊢
    rw [← List.append_assoc]
    exact .token (hboth hmore) hpiece h
  | @fault _ more text e hmore h =>
    rw [← hstart, hlength] at h
    rw [← List.append_assoc]
    exact .fault (hboth hmore) h

/-- **The tokens of a text and of what is behind it**, by induction on the scan of the text: where
that stops, the scan of what is behind begins. -/
theorem Scans.append {behind : List Char} (hbehind : BeginsBlank behind)
    (h : Scans column text result) {ts : List Token} (hts : result = .ok ts) {more : List Token}
    (hmore : Scans (column + text.length) behind (.ok more)) :
    Scans column (text ++ behind) (.ok (body ts ++ more)) := by
  induction h generalizing ts with
  | stop hgap =>
    obtain rfl := Except.ok.inj hts
    exact hmore.blank_append hgap
  | @token column gap run rest kind result hgap hpiece h ih =>
    rcases result with e | later
    · cases hts
    obtain rfl := Except.ok.inj hts
    have hbody : body (⟨kind, String.ofList run, column + gap.length⟩ :: later) =
        ⟨kind, String.ofList run, column + gap.length⟩ :: body later := by
      simp [body, hpiece.isEnd_eq]
    have hlength : column + (gap ++ (run ++ rest)).length =
        column + gap.length + run.length + rest.length := by
      simp only [List.length_append]
      omega
    rw [hlength] at hmore
    rw [hbody, List.append_assoc, List.append_assoc]
    exact .token hgap (hpiece.append hbehind) (ih rfl hmore)
  | fault => cases hts

/-- **A text that is continued to a row of tokens is one.** What is wrong with it would be wrong
with both together. -/
theorem Scans.exists_ok_of_append {behind : List Char} (hbehind : BeginsBlank behind)
    (h : Scans column text result) {ts : List Token}
    (hboth : Scans column (text ++ behind) (.ok ts)) : ∃ ts, result = .ok ts := by
  rcases result with e | ts
  · have hparted (p : Char → Bool) (hp : IsRunClass p) : Parted p text behind :=
      fun _ d _ hd _ => hp.of_isBlank (hbehind d hd)
    exact absurd ((offence_append hparted).mpr (.inl (h.leftmost rfl).1)) (hboth.not_offence rfl e)
  · exact ⟨ts, rfl⟩

/-- **The tokens of a text that is continued** by characters that no accent is joined to. -/
theorem tokens_append_eq_ok_iff {text behind : String} {more ts' : List Token}
    (hlow : ∀ c ∈ behind.toList, c.toNat < firstWhole) (hbehind : BeginsBlank behind.toList)
    (hmore : Scans (1 + (composed text.toList).length) behind.toList (.ok more)) :
    tokens (text ++ behind) = .ok ts' ↔ ∃ ts, tokens text = .ok ts ∧ ts' = body ts ++ more := by
  have hcomposed : composed (text ++ behind).toList = composed text.toList ++ behind.toList := by
    rw [String.toList_append, composed_append_of_lt hlow]
  have hboth : tokens (text ++ behind) =
      Cursor.tokens ⟨1, composed text.toList ++ behind.toList⟩ := by
    rw [tokens, Cursor.start, hcomposed]
  have hscans : Scans 1 (composed text.toList) (tokens text) := (Cursor.start text).scans_tokens
  rw [hboth]
  constructor
  · intro hts'
    have hscans' := Cursor.scans_tokens ⟨1, composed text.toList ++ behind.toList⟩
    rw [hts'] at hscans'
    obtain ⟨ts, hts⟩ := hscans.exists_ok_of_append hbehind hscans'
    have htokens := (hscans.append hbehind hts hmore).tokens_eq rfl
    exact ⟨ts, hts, Except.ok.inj (hts'.symm.trans htokens)⟩
  · rintro ⟨ts, hts, rfl⟩
    exact (hscans.append hbehind hts hmore).tokens_eq rfl

end OneUnknown
