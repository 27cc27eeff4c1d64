import OneUnknown.Equation.Descent

/-!
# Runs that stay within the row

A run starts at a spot: a position, and the unknown that has been met. From a sound state it ends
in a sound one that is not before it, with a value or with a refusal, and never by looking for a
token that is not there nor for want of turns. This is one judgement, with one rule for every step
that a run takes. It rests on the last token of the row being an end of input, so that a token
that is passed always has another one behind it.

* `outcome_pure`, `outcome_throw`, `outcome_bind`: the outcome of a run, step by step;
* `Spot`, **`Sound`**: where a run is, and what holds of all that it has looked up;
* **`Meets`**, `Yields`: how a run ends; `Meets.pure`, `Meets.bind`, `Yields.bind`: what follows;
* **`IsClosed`**, `isClosed_closed`: the last token is an end of input;
* `yields_peek`, `yields_advance`, `yields_matchToken`, …: one step at a known token.
-/

namespace OneUnknown.Descent

variable {K : Type} [Scalar K] {α β : Type}

/-! ## Outcomes -/

@[simp] theorem outcome_pure (a : α) (s : State K) : outcome (pure a) s = (.ok a, s) := rfl

@[simp] theorem outcome_throw (halt : Halt) (s : State K) :
    outcome (throw halt : Descent K α) s = (.error halt, s) := rfl

@[simp] theorem outcome_get (s : State K) : outcome (get : Descent K (State K)) s = (.ok s, s) :=
  rfl

@[simp] theorem outcome_modify (f : State K → State K) (s : State K) :
    outcome (modify f : Descent K PUnit) s = (.ok ⟨⟩, f s) := rfl

theorem outcome_bind (m : Descent K α) (f : α → Descent K β) (s : State K) :
    outcome (m >>= f) s =
      match outcome m s with
      | (.ok a, s') => outcome (f a) s'
      | (.error halt, s') => (.error halt, s') := by
  change (ExceptT.run m >>= ExceptT.bindCont f).run s = _
  rw [StateT.run_bind]
  change (ExceptT.bindCont f (outcome m s).1).run (outcome m s).2 = _
  rcases outcome m s with ⟨halt | a, s'⟩ <;> rfl

/-! ## Sound states -/

/-- **What a state is known by**: the position and the unknown. -/
structure Spot where
  position : Nat
  unknown? : Option Char

/-- The spot behind the token at a spot. -/
def Spot.next (x : Spot) : Spot := { x with position := x.position + 1 }

@[simp] theorem Spot.position_next (x : Spot) : x.next.position = x.position + 1 := rfl

@[simp] theorem Spot.unknown?_next (x : Spot) : x.next.unknown? = x.unknown? := rfl

def State.spot (s : State K) : Spot := ⟨s.position, s.unknown?⟩

/-- **There is a token at the position.** All lookups were of the token at the position of that
time or of the one before it, and the position has never decreased. -/
structure Sound (row : List Token) (s : State K) : Prop where
  position_lt : s.position < row.length
  index_eq : ∀ l ∈ s.lookups, l.index = l.position ∨ l.index + 1 = l.position
  position_le : ∀ l ∈ s.lookups, l.position ≤ s.position
  monotone : s.lookups.Pairwise fun later earlier => earlier.position ≤ later.position

variable {row : List Token} {s : State K} {x y : Spot}

theorem sound_start (h : 0 < row.length) : Sound row ({} : State K) :=
  ⟨h, nofun, nofun, .nil⟩

theorem Sound.lookup (h : Sound row s) {index : Nat}
    (hindex : index = s.position ∨ index + 1 = s.position) :
    Sound row { s with lookups := ⟨s.position, index⟩ :: s.lookups } where
  position_lt := h.position_lt
  index_eq := List.forall_mem_cons.mpr ⟨hindex, h.index_eq⟩
  position_le := List.forall_mem_cons.mpr ⟨Nat.le_refl _, h.position_le⟩
  monotone := List.pairwise_cons.mpr ⟨h.position_le, h.monotone⟩

theorem Sound.move (h : Sound row s) {position : Nat} (hle : s.position ≤ position)
    (hlt : position < row.length) : Sound row { s with position := position } where
  position_lt := hlt
  index_eq := h.index_eq
  position_le := fun l hl => Nat.le_trans (h.position_le l hl) hle
  monotone := h.monotone

/-! ## How a run ends -/

/-- An outcome at a sound state that is not before the spot, with a value as wanted or a refusal
as expected. -/
def Ends (row : List Token) (x : Spot) (Q : α → Spot → Prop) (R : SolveError → Prop) :
    Except Halt α × State K → Prop
  | (.ok a, s) => Sound row s ∧ x.position ≤ s.position ∧ Q a s.spot
  | (.error (.refused e), s) => Sound row s ∧ R e
  | (.error .outOfRange, _) => False
  | (.error .exhausted, _) => False

/-- **How a run from a spot ends**: with a value and at a spot as wanted, or with a refusal as
expected. -/
def Meets (row : List Token) (x : Spot) (m : Descent K α) (Q : α → Spot → Prop)
    (R : SolveError → Prop) : Prop :=
  ∀ s, Sound row s → s.spot = x → Ends row x Q R (outcome m s)

/-- A run from a spot ends with a value and at another spot. -/
def Yields (row : List Token) (x : Spot) (m : Descent K α) (a : α) (y : Spot) : Prop :=
  Meets row x m (fun b z => b = a ∧ z = y) fun _ => False

section Rules

variable {m : Descent K α} {f : α → Descent K β} {a : α} {Q Q' : α → Spot → Prop}
  {R R' : SolveError → Prop} {P : β → Spot → Prop}

theorem Meets.pure (h : Q a x) : Meets row x (pure a : Descent K α) Q R := by
  rintro s hs rfl
  exact ⟨hs, Nat.le_refl _, h⟩

theorem Meets.throw_refused {e : SolveError} (h : R e) :
    Meets row x (throw (.refused e) : Descent K α) Q R :=
  fun _ hs _ => ⟨hs, h⟩

theorem Meets.refuse {complaint : Complaint} (h : R (.malformed complaint)) :
    Meets row x (refuse complaint : Descent K α) Q R := Meets.throw_refused h

theorem Ends.imp {r : Except Halt α × State K} (h : Ends row x Q R r)
    (hQ : ∀ a y, x.position ≤ y.position → Q a y → Q' a y) (hR : ∀ e, R e → R' e) :
    Ends row x Q' R' r := by
  rcases r with ⟨(e | _ | _) | a, s⟩
  · exact ⟨h.1, hR e h.2⟩
  · exact h
  · exact h
  · exact ⟨h.1, h.2.1, hQ a s.spot h.2.1 h.2.2⟩

theorem Ends.of_le {r : Except Halt α × State K} (h : Ends row y Q R r)
    (hle : x.position ≤ y.position) : Ends row x Q R r := by
  rcases r with ⟨(e | _ | _) | a, s⟩
  · exact h
  · exact h
  · exact h
  · exact ⟨h.1, Nat.le_trans hle h.2.1, h.2.2⟩

theorem Meets.imp (hm : Meets row x m Q R)
    (hQ : ∀ a y, x.position ≤ y.position → Q a y → Q' a y) (hR : ∀ e, R e → R' e) :
    Meets row x m Q' R' :=
  fun s hs hx => (hm s hs hx).imp hQ hR

/-- **What follows a run starts where the run ends.** -/
theorem Meets.bind (hm : Meets row x m Q R)
    (hf : ∀ a y, x.position ≤ y.position → Q a y → Meets row y (f a) P R) :
    Meets row x (m >>= f) P R := by
  intro s hs hx
  have hend := hm s hs hx
  rw [outcome_bind]
  revert hend
  rcases outcome m s with ⟨(e | _ | _) | a, s'⟩
  · exact id
  · exact id
  · exact id
  · rintro ⟨hs', hle, hQ⟩
    exact (hf a s'.spot hle hQ s' hs' rfl).of_le hle

theorem Meets.bind_imp (hm : Meets row x m Q R') (hR : ∀ e, R' e → R e)
    (hf : ∀ a y, x.position ≤ y.position → Q a y → Meets row y (f a) P R) :
    Meets row x (m >>= f) P R :=
  (hm.imp (fun _ _ _ h => h) hR).bind hf

theorem Yields.bind (hm : Yields row x m a y) (hf : Meets row y (f a) P R) :
    Meets row x (m >>= f) P R := by
  refine hm.bind_imp (fun _ => False.elim) ?_
  rintro _ _ _ ⟨rfl, rfl⟩
  exact hf

theorem Yields.meets (hm : Yields row x m a y) (hQ : Q a y) : Meets row x m Q R := by
  refine hm.imp ?_ fun _ => False.elim
  rintro _ _ _ ⟨rfl, rfl⟩
  exact hQ

theorem Yields.pure : Yields row x (pure a : Descent K α) a x := Meets.pure ⟨rfl, rfl⟩

theorem Yields.trans {b : β} {z : Spot} (hm : Yields row x m a y) (hf : Yields row y (f a) b z) :
    Yields row x (m >>= f) b z := Yields.bind hm hf

theorem Meets.get {f : State K → Descent K β}
    (h : ∀ s, Sound row s → s.spot = x → Meets row x (f s) P R) :
    Meets row x (get >>= f) P R := by
  intro s hs hx
  rw [outcome_bind, outcome_get]
  exact h s hs hx s hs hx

theorem Meets.of_length_le (h : row.length ≤ x.position) : Meets row x m Q R := by
  rintro s hs rfl
  exact absurd hs.position_lt (Nat.not_lt.mpr h)

theorem Meets.of_token (h : ∀ t, row[x.position]? = some t → Meets row x m Q R) :
    Meets row x m Q R := by
  rcases Nat.lt_or_ge x.position row.length with hlt | hge
  · exact h _ (List.getElem?_eq_getElem hlt)
  · exact Meets.of_length_le hge

end Rules

/-! ## Tokens -/

section Tokens

variable {t : Token} {kind : TokenKind}

theorem yields_tokenAt {index : Nat} (ht : row[index]? = some t)
    (hindex : index = x.position ∨ index + 1 = x.position) :
    Yields row x (tokenAt row index : Descent K Token) t x := by
  rintro s hs rfl
  simp only [tokenAt, outcome_bind, outcome_modify, ht, outcome_pure]
  exact ⟨hs.lookup hindex, Nat.le_refl _, rfl, rfl⟩

theorem yields_peek (ht : row[x.position]? = some t) :
    Yields row x (peek row : Descent K Token) t x := by
  refine Meets.get fun s _ hx => ?_
  subst hx
  exact yields_tokenAt ht (.inl rfl)

theorem yields_previous (hpos : 0 < x.position) (ht : row[x.position - 1]? = some t) :
    Yields row x (previous row : Descent K Token) t x := by
  refine Meets.get fun s _ hx => ?_
  subst hx
  rw [if_neg (by exact Nat.ne_of_gt hpos)]
  exact yields_tokenAt ht (.inr (by exact Nat.sub_add_cancel hpos))

theorem yields_atEnd (ht : row[x.position]? = some t) :
    Yields row x (atEnd row : Descent K Bool) t.kind.isEnd x :=
  (yields_peek ht).trans .pure

theorem yields_check (ht : row[x.position]? = some t) :
    Yields row x (check row kind : Descent K Bool) (t.kind == kind) x :=
  (yields_peek ht).trans .pure

/-- **The last token is an end of input.** -/
def IsClosed (row : List Token) : Prop := ∃ t, row.getLast? = some t ∧ t.kind.isEnd = true

theorem isClosed_closed (ts : List Token) : IsClosed (closed ts) := by
  unfold closed
  split
  · exact ⟨_, rfl, rfl⟩
  · split
    · exact ⟨_, ‹_›, ‹_›⟩
    · exact ⟨_, List.getLast?_concat, rfl⟩

theorem IsClosed.next_lt (hrow : IsClosed row) (ht : row[x.position]? = some t)
    (hend : t.kind.isEnd = false) : x.next.position < row.length := by
  obtain ⟨last, hlast, hlastEnd⟩ := hrow
  have hlt := (List.getElem?_eq_some_iff.mp ht).1
  rw [List.getLast?_eq_getElem?] at hlast
  have hne : x.position ≠ row.length - 1 := by
    intro hindex
    rw [hindex, hlast] at ht
    obtain rfl := Option.some.inj ht
    simp [hend] at hlastEnd
  rw [Spot.position_next]
  omega

/-- **A token that is no end of input is passed.** -/
theorem yields_advance (hrow : IsClosed row) (ht : row[x.position]? = some t)
    (hend : t.kind.isEnd = false) : Yields row x (advance row : Descent K Token) t x.next := by
  refine (yields_atEnd ht).bind ?_
  rw [hend]
  rintro s hs rfl
  rw [if_neg (by simp), outcome_bind, outcome_modify]
  have hmoved := hs.move (Nat.le_succ _) (hrow.next_lt ht hend)
  exact (yields_previous (x := s.spot.next) (Nat.succ_pos _) ht _ hmoved rfl).of_le
    (Nat.le_succ _)

theorem yields_advance_of_isEnd (ht : row[x.position]? = some t) (hend : t.kind.isEnd = true) :
    Yields row x (advance row : Descent K Token) t x := by
  refine (yields_atEnd ht).bind ?_
  rw [hend, if_pos rfl]
  exact yields_peek ht

/-- A kind that carries no value, other than the end of input. -/
def isSign : TokenKind → Bool
  | .number _ | .letter _ | .superscript _ | .endOfInput => false
  | _ => true

theorem beq_iff_of_isSign {k : TokenKind} (h : isSign kind = true) :
    (k == kind) = true ↔ k = kind := by
  cases k <;> cases kind <;> simp_all [isSign] <;> rfl

theorem isEnd_of_isSign (h : isSign kind = true) : kind.isEnd = false := by
  cases kind <;> first | rfl | simp [isSign] at h

theorem yields_matchToken (hrow : IsClosed row) (ht : row[x.position]? = some t)
    (hsign : isSign kind = true) (hk : t.kind = kind) :
    Yields row x (matchToken row kind : Descent K Bool) true x.next := by
  refine (yields_check ht).bind ?_
  rw [if_pos ((beq_iff_of_isSign hsign).mpr hk)]
  exact (yields_advance hrow ht (isEnd_of_isSign (hk ▸ hsign))).trans .pure

theorem yields_matchToken_of_ne (ht : row[x.position]? = some t) (hsign : isSign kind = true)
    (hk : t.kind ≠ kind) : Yields row x (matchToken row kind : Descent K Bool) false x := by
  refine (yields_check ht).bind ?_
  rw [if_neg (by rwa [beq_iff_of_isSign hsign])]
  exact Yields.pure

theorem yields_consume (hrow : IsClosed row) (ht : row[x.position]? = some t)
    (hsign : isSign kind = true) (hk : t.kind = kind) {complaint : Nat → Complaint} :
    Yields row x (consume row kind complaint : Descent K Token) t x.next := by
  refine (yields_check ht).bind ?_
  rw [if_pos ((beq_iff_of_isSign hsign).mpr hk)]
  exact yields_advance hrow ht (isEnd_of_isSign (hk ▸ hsign))

theorem meets_consume_of_ne (ht : row[x.position]? = some t) (hsign : isSign kind = true)
    (hk : t.kind ≠ kind) {complaint : Nat → Complaint} {Q : Token → Spot → Prop}
    {R : SolveError → Prop} (h : R (.malformed (complaint t.column))) :
    Meets row x (consume row kind complaint : Descent K Token) Q R := by
  refine (yields_check ht).bind ?_
  rw [if_neg (by rwa [beq_iff_of_isSign hsign])]
  exact (yields_peek ht).bind (Meets.refuse h)

/-- A factor without a sign begins with this kind. -/
def beginsPrimary : TokenKind → Bool
  | .number _ | .letter _ | .openParen => true
  | _ => false

theorem yields_startsPrimary (ht : row[x.position]? = some t) :
    Yields row x (startsPrimary row : Descent K Bool) (beginsPrimary t.kind) x := by
  refine (yields_peek ht).trans ?_
  cases t.kind <;> exact Yields.pure

end Tokens

/-! ## The unknown and polynomials -/

theorem meets_bindLetter (name : Char) (column : Nat) :
    Meets row x (bindLetter name column : Descent K Unit)
      (fun _ y => ∃ unknown, bindUnknown x.unknown? name column = .ok unknown ∧
        y = { x with unknown? := some unknown })
      fun e => bindUnknown x.unknown? name column = .error e := by
  refine Meets.get fun s _ hx => ?_
  subst hx
  change Meets row s.spot (checked (bindUnknown s.unknown? name column) >>= _) _ _
  rcases hbind : bindUnknown s.unknown? name column with e | unknown
  · exact Meets.throw_refused (by exact hbind)
  · intro s' hs' hx'
    exact ⟨⟨hs'.1, hs'.2, hs'.3, hs'.4⟩, hx' ▸ Nat.le_refl _, unknown, hbind,
      congrArg (fun y : Spot => { y with unknown? := some unknown }) hx'⟩

theorem yields_build (p : Polynomial K) : Yields row x (build p) p x := by
  rintro s hs rfl
  exact ⟨⟨hs.1, hs.2, hs.3, hs.4⟩, Nat.le_refl _, rfl, rfl⟩

end OneUnknown.Descent
