import OneUnknown.Integer.SquareFree

/-!
# Loops over words

Arithmetic in words is exact until a result does not fit. Here every operation is checked, and one
that does not fit ends the computation. A loop is given a number of turns, and to be in want of
turns is another way to end without a result.

* `Mishap`, **`Checked`**: how a computation in words fails;
* `word`, `doubleWord`, `difference`: checked results;
* **`Loop`**, `Loop.run`, **`Loop.After`**: a loop, its result, and the states that it comes to;
* `Loop.run_of_wanted`, `Loop.run_of_not_wanted`, `Loop.After.run_add`: a loop turn by turn;
* `Loop.Progresses`, **`Loop.Progresses.exists_after`**, **`Loop.Progresses.exists_run`**: a loop
  with an invariant and a number that falls with every turn comes to its end.
-/

namespace OneUnknown

/-! ## Checked arithmetic -/

/-- **How a computation in words fails.** -/
inductive Mishap where
  /-- A result does not fit into its word. -/
  | overflow
  /-- The turns that a loop was given do not suffice. -/
  | exhausted
  deriving DecidableEq

/-- **A computation in words**, where every operation is checked. -/
abbrev Checked := Except Mishap

/-- A result of 64 bits. -/
def word (n : Nat) : Checked Nat := if n ≤ largestWord then .ok n else .error .overflow

/-- A result of 128 bits. -/
def doubleWord (n : Nat) : Checked Nat := if n < Nat.pow 2 128 then .ok n else .error .overflow

/-- A difference, which has no sign. -/
def difference (m n : Nat) : Checked Nat := if n ≤ m then .ok (m - n) else .error .overflow

theorem word_eq_ok {n : Nat} (h : n ≤ largestWord) : word n = .ok n := if_pos h

theorem doubleWord_eq_ok {n : Nat} (h : n < Nat.pow 2 128) : doubleWord n = .ok n := if_pos h

theorem difference_eq_ok {m n : Nat} (h : n ≤ m) : difference m n = .ok (m - n) := if_pos h

/-! ## Loops -/

/-- **A loop**: as long as a further turn is wanted, a turn is taken. -/
structure Loop (σ : Type) where
  wanted : σ → Checked Bool
  turn : σ → Checked σ

namespace Loop

variable {σ : Type} {l : Loop σ} {s t u : σ} {i turns : Nat}

/-- **The state in which a loop ends**, if the turns that it is given suffice. -/
def run (l : Loop σ) (turns : Nat) (s : σ) : Checked σ := do
  if ← l.wanted s then
    match turns with
    | 0 => throw .exhausted
    | turns + 1 => l.run turns (← l.turn s)
  else return s

/-- **A loop that starts in `s` is in a state after a number of turns.** -/
inductive After (l : Loop σ) (s : σ) : Nat → σ → Prop where
  | start : After l s 0 s
  | turn {i : Nat} {t u : σ} : After l s i t → l.wanted t = .ok true → l.turn t = .ok u →
      After l s (i + 1) u

theorem run_of_not_wanted (h : l.wanted s = .ok false) (turns : Nat) :
    l.run turns s = .ok s := by
  unfold run
  rw [h]
  rfl

theorem run_of_wanted (h : l.wanted s = .ok true) (turns : Nat) :
    l.run (turns + 1) s = l.turn s >>= l.run turns := by
  rw [run, h]
  rfl

theorem After.run_add (h : l.After s i t) (turns : Nat) : l.run (i + turns) s = l.run turns t := by
  induction h generalizing turns with
  | start => rw [Nat.zero_add]
  | turn _ hwanted hturn ih =>
    rw [Nat.add_assoc, Nat.add_comm 1, ih, run_of_wanted hwanted, hturn]
    rfl

theorem After.invariant {p : σ → Prop} (h : l.After s i t) (hs : p s)
    (hturn : ∀ t u, p t → l.wanted t = .ok true → l.turn t = .ok u → p u) : p t := by
  induction h with
  | start => exact hs
  | turn _ hwanted hnext ih => exact hturn _ _ ih hwanted hnext

theorem After.head (hwanted : l.wanted s = .ok true) (hturn : l.turn s = .ok t)
    (h : l.After t i u) : l.After s (i + 1) u := by
  induction h with
  | start => exact .turn .start hwanted hturn
  | turn _ hwanted' hturn' ih => exact .turn ih hwanted' hturn'

/-! ## Loops that end -/

/-- **A loop makes progress**: in every state with the invariant, no turn is wanted, or there is a
next state with the invariant and with a smaller number. -/
def Progresses (l : Loop σ) (invariant : σ → Prop) (variant : σ → Nat) : Prop :=
  ∀ s, invariant s → l.wanted s = .ok false ∨
    l.wanted s = .ok true ∧ ∃ t, l.turn s = .ok t ∧ invariant t ∧ variant t < variant s

variable {invariant : σ → Prop} {variant : σ → Nat}

/-- **A loop that makes progress comes to its end.** -/
theorem Progresses.exists_after (h : l.Progresses invariant variant) (hs : invariant s) :
    ∃ i t, i ≤ variant s ∧ l.After s i t ∧ invariant t ∧ l.wanted t = .ok false := by
  induction hv : variant s using Nat.strongRecOn generalizing s with
  | ind v ih =>
    subst hv
    obtain hwanted | ⟨hwanted, t, hturn, ht, hlt⟩ := h s hs
    · exact ⟨0, s, Nat.zero_le _, .start, hs, hwanted⟩
    · obtain ⟨i, u, hi, hafter, hu, hend⟩ := ih (variant t) hlt ht rfl
      exact ⟨i + 1, u, by omega, hafter.head hwanted hturn, hu, hend⟩

/-- **The result of a loop that makes progress** does not depend on the turns, once they
suffice. -/
theorem Progresses.exists_run (h : l.Progresses invariant variant) (hs : invariant s) :
    ∃ t, (∀ turns, variant s ≤ turns → l.run turns s = .ok t) ∧ invariant t ∧
      l.wanted t = .ok false := by
  obtain ⟨i, t, hi, hafter, ht, hend⟩ := h.exists_after hs
  refine ⟨t, fun turns hle => ?_, ht, hend⟩
  obtain ⟨more, rfl⟩ := Nat.exists_eq_add_of_le (Nat.le_trans hi hle)
  rw [hafter.run_add, run_of_not_wanted hend]

end Loop

end OneUnknown
