import OneUnknown.Proofs.Descent.Run

/-!
# More turns change nothing

A run that is not in want of turns is the same run with any more turns, in its outcome and in the
state that it leaves. So the turns are no part of what is read.

* **`Extends`**, `Extends.bind`: a run that goes on where another one wants turns;
* `extends_unary`, `extends_factors`, `extends_terms`, `extends_expression`: one more turn;
* **`outcome_equation_of_le`**: any more turns.
-/

namespace OneUnknown.Descent

variable {K : Type} [Scalar K] {α β : Type}

/-- **A run goes on where another one wants turns**, and is the same otherwise. -/
def Extends (m m' : Descent K α) : Prop :=
  ∀ s, (outcome m s).1 ≠ .error .exhausted → outcome m' s = outcome m s

theorem Extends.refl (m : Descent K α) : Extends m m := fun _ _ => rfl

theorem Extends.of_exhausted (m : Descent K α) : Extends (throw .exhausted) m :=
  fun _ h => absurd rfl h

theorem Extends.bind {m m' : Descent K α} {f f' : α → Descent K β} (hm : Extends m m')
    (hf : ∀ a, Extends (f a) (f' a)) : Extends (m >>= f) (m' >>= f') := by
  intro s h
  have hs := hm s
  rw [outcome_bind, outcome_bind]
  rw [outcome_bind] at h
  revert hs h
  rcases outcome m s with ⟨halt | a, s'⟩
  · intro h hs
    rw [hs fun hhalt => h (by cases hhalt; rfl)]
  · intro h hs
    rw [hs nofun]
    exact hf a s' h

theorem Extends.after (m : Descent K α) {f f' : α → Descent K β}
    (hf : ∀ a, Extends (f a) (f' a)) : Extends (m >>= f) (m >>= f') :=
  (Extends.refl m).bind hf

theorem Extends.ite {c : Prop} [Decidable c] {m m' n n' : Descent K α} (hm : Extends m m')
    (hn : Extends n n') : Extends (if c then m else n) (if c then m' else n') := by
  by_cases h : c
  · rwa [if_pos h, if_pos h]
  · rwa [if_neg h, if_neg h]

section Rules

variable (row : List Token) (limit : Nat) {phrase phrase' : Descent K (Polynomial K)}
  (hphrase : Extends phrase phrase')

include hphrase

theorem extends_primary : Extends (primary row phrase) (primary row phrase') := by
  refine .after _ fun t => ?_
  cases t.kind with
  | openParen => exact hphrase.bind fun _ => .refl _
  | _ => exact .refl _

theorem extends_power : Extends (power row limit phrase) (power row limit phrase') :=
  (extends_primary row hphrase).bind fun _ => .refl _

theorem extends_unary (turns : Nat) :
    Extends (unary row limit phrase turns) (unary row limit phrase' (turns + 1)) := by
  induction turns with
  | zero => exact .of_exhausted _
  | succ turns ih =>
    refine .after _ fun minus => .ite (ih.bind fun _ => .refl _) ?_
    exact .after _ fun plus => .ite ih (extends_power row limit hphrase)

theorem extends_factors (turns : Nat) (product : Polynomial K) :
    Extends (factors row limit phrase turns product)
      (factors row limit phrase' (turns + 1) product) := by
  induction turns generalizing product with
  | zero => exact .of_exhausted _
  | succ turns ih =>
    have hfactor := extends_unary row limit hphrase turns
    refine .after _ fun star => .ite (hfactor.bind fun _ => .after _ ih) ?_
    refine .after _ fun slash => .ite ?_ ?_
    · exact .after _ fun _ => hfactor.bind fun _ => .after _ ih
    refine .after _ fun begins => .ite ?_ (.refl _)
    refine .after _ fun t => ?_
    cases t.kind with
    | number => exact .refl _
    | _ => exact (extends_power row limit hphrase).bind fun _ => .after _ ih

theorem extends_term (turns : Nat) :
    Extends (term row limit phrase turns) (term row limit phrase' (turns + 1)) :=
  (extends_unary row limit hphrase turns).bind (extends_factors row limit hphrase turns)

theorem extends_terms (turns : Nat) (sum : Polynomial K) :
    Extends (terms row limit phrase turns sum) (terms row limit phrase' (turns + 1) sum) := by
  induction turns generalizing sum with
  | zero => exact .of_exhausted _
  | succ turns ih =>
    have hterm := extends_term row limit hphrase turns
    refine .after _ fun plus => .ite (hterm.bind fun _ => .after _ ih) ?_
    exact .after _ fun minus => .ite (hterm.bind fun _ => .after _ ih) (.refl _)

end Rules

variable (row : List Token) (limit : Nat)

theorem extends_expression (turns : Nat) :
    Extends (expression row limit turns : Descent K (Polynomial K))
      (expression row limit (turns + 1)) := by
  induction turns with
  | zero => exact .of_exhausted _
  | succ turns ih =>
    exact (extends_term row limit ih (turns + 1)).bind (extends_terms row limit ih (turns + 1))

theorem extends_equation (turns : Nat) :
    Extends (equation row limit turns : Descent K (Equation K))
      (equation row limit (turns + 1)) := by
  have hside := extends_expression (K := K) row limit turns
  unfold equation
  split
  · exact .refl _
  refine hside.bind fun left => Extends.bind ?_ fun _ => .refl _
  exact .after _ fun equals => .ite (hside.bind fun _ => .refl _) (.refl _)

/-- **Any more turns change nothing** for a run that is not in want of them. -/
theorem outcome_equation_of_le {turns turns' : Nat} (hle : turns ≤ turns') (s : State K)
    (h : (outcome (equation row limit turns) s).1 ≠ .error .exhausted) :
    outcome (equation row limit turns') s = outcome (equation row limit turns) s := by
  induction hle with
  | refl => rfl
  | @step further _ ih => rw [extends_equation row limit further s (by rw [ih]; exact h), ih]

end OneUnknown.Descent
