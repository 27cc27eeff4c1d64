import OneUnknown.Equation.Reader

/-!
# The shape of a row of tokens

* **`exists_end_of_tokens`**: the end of input is the last token, and no other;
* `exists_body_append`: what is read are the tokens before it;
* **`exists_literal_of_mem_tokens`**: the numbers are values of literals.
-/

namespace OneUnknown

theorem Cursor.exists_end_of_tokens {cursor : Cursor} {ts : List Token}
    (h : cursor.tokens = .ok ts) : ∃ (before : List Token) (stop : Token), ts = before ++ [stop] ∧
      stop.kind.isEnd = true ∧ ∀ t ∈ before, t.kind.isEnd = false := by
  induction cursor using Cursor.tokens.induct generalizing ts with
  | case1 cursor e after hn => rw [Cursor.tokens, hn] at h; simp at h
  | case2 cursor t after hn ht =>
    rw [Cursor.tokens, hn] at h
    simp only [ht, dite_true, Except.ok.injEq] at h
    exact ⟨[], t, h.symm, ht, by simp⟩
  | case3 cursor t after hn ht ih =>
    rw [Cursor.tokens, hn] at h
    simp only [dif_neg ht] at h
    rcases hafter : after.tokens with e | rest
    · simp [hafter, Except.map] at h
    · obtain ⟨before, stop, rfl, hstop, hbefore⟩ := ih hafter
      simp only [hafter, Except.map, Except.ok.injEq] at h
      refine ⟨t :: before, stop, h.symm, hstop, ?_⟩
      simpa [ht] using hbefore

/-- **The end of input is the last token, and no other.** -/
theorem exists_end_of_tokens {text : String} {ts : List Token} (h : tokens text = .ok ts) :
    ∃ (before : List Token) (stop : Token), ts = before ++ [stop] ∧ stop.kind.isEnd = true ∧
      ∀ t ∈ before, t.kind.isEnd = false :=
  Cursor.exists_end_of_tokens h

theorem exists_body_append {text : String} {ts : List Token} (h : tokens text = .ok ts) :
    ∃ stop, stop.kind.isEnd = true ∧ body ts ++ [stop] = ts := by
  obtain ⟨before, stop, rfl, hstop, hbefore⟩ := exists_end_of_tokens h
  refine ⟨stop, hstop, ?_⟩
  rw [body, List.takeWhile_append_of_pos (by simpa using hbefore)]
  simp [hstop]

/-! ## Numbers -/

theorem Cursor.exists_literal_of_take {cursor after : Cursor} {kind : TokenKind} {count : Nat}
    {t : Token} {value : Float} (h : cursor.take kind count = (.ok t, after))
    (ht : t.kind = .number value) : kind = .number value := by
  simp only [take, Prod.mk.injEq, Except.ok.injEq] at h
  rw [← ht, ← h.1]

theorem Cursor.exists_literal_of_token {cursor after : Cursor} {t : Token} {value : Float}
    (h : cursor.token = (.ok t, after)) (ht : t.kind = .number value) :
    ∃ run, value = literalValue run := by
  unfold token at h
  split at h
  · simpa using exists_literal_of_take h ht
  · rename_i c rest hrest
    split at h
    · rename_i kind hkind
      have := exists_literal_of_take h ht
      subst this
      unfold symbol? at hkind
      split at hkind <;> simp at hkind
    · split at h
      · simp only [number] at h
        split at h
        · simp at h
        · split at h
          · simp at h
          · split at h
            · have := exists_literal_of_take h ht
              exact ⟨_, (TokenKind.number.inj this).symm⟩
            · simp at h
      · split at h
        · simp only [superscript] at h
          split at h
          · simp at h
          · simpa using exists_literal_of_take h ht
        · split at h
          · simpa using exists_literal_of_take h ht
          · simp at h

theorem Cursor.exists_literal_of_mem_tokens {cursor : Cursor} {ts : List Token}
    (h : cursor.tokens = .ok ts) {t : Token} (ht : t ∈ ts) {value : Float}
    (hk : t.kind = .number value) : ∃ run, value = literalValue run := by
  induction cursor using Cursor.tokens.induct generalizing ts with
  | case1 cursor e after hn => rw [Cursor.tokens, hn] at h; simp at h
  | case2 cursor stop after hn hstop =>
    rw [Cursor.tokens, hn] at h
    simp only [hstop, dite_true, Except.ok.injEq] at h
    obtain rfl : t = stop := by simpa [← h] using ht
    simp [hk, TokenKind.isEnd] at hstop
  | case3 cursor first after hn hfirst ih =>
    rw [Cursor.tokens, hn] at h
    simp only [dif_neg hfirst] at h
    rcases hafter : after.tokens with e | rest
    · simp [hafter, Except.map] at h
    · simp only [hafter, Except.map, Except.ok.injEq] at h
      rw [← h, List.mem_cons] at ht
      rcases ht with rfl | ht
      · exact exists_literal_of_token hn hk
      · exact ih hafter ht

/-- **The numbers are values of literals.** -/
theorem exists_literal_of_mem_tokens {text : String} {ts : List Token} (h : tokens text = .ok ts)
    {t : Token} (ht : t ∈ ts) {value : Float} (hk : t.kind = .number value) :
    ∃ run, value = literalValue run :=
  Cursor.exists_literal_of_mem_tokens h ht hk

end OneUnknown
