import Mathlib.Data.List.Defs
import OneUnknown.RealRoots

/-!
# What a root of Newton's method is worth

A root that Newton's method has reached is an exact zero, or the last step to it was shorter than
the tolerance and was not taken where the slope is small. The run is told by the numbers at which
the polynomial is evaluated on the way.

* `newtonMap`, `Stepped`, **`stepped_newtonStep`**: what one step can do;
* `newtonRun`, `newtonRun_snd`: the numbers that are visited, and the root they lead to;
* `visited_eq_iterate`, `length_visited_le`, `isFinite_of_mem_visited`: these numbers;
* `exists_stepped_of_newton`, `newton_of_le`: the last step, and a greater number of steps;
* **`newton_certificate`**: all of this about one run.
-/

namespace OneUnknown

variable {p : Polynomial Float} {tolerance x r : Float} {steps : Nat}

/-! ## One step -/

/-- Where the tangent at `x` meets the axis. -/
def newtonMap (p : Polynomial Float) (x : Float) : Float :=
  x - p.evaluate x / p.evaluateDerivative x

/-- **What one step of Newton's method can do**, and when. -/
inductive Stepped (p : Polynomial Float) (tolerance x : Float) : NewtonStep → Prop where
  /-- The number is a zero. -/
  | zero (hvalue : (p.evaluate x == 0) = true) : Stepped p tolerance x (.root x)
  /-- The slope is small. -/
  | flat (hvalue : (p.evaluate x == 0) = false)
    (hslope : (p.evaluateDerivative x).abs < tolerance) : Stepped p tolerance x .lost
  /-- The next number is not finite. -/
  | away (hvalue : (p.evaluate x == 0) = false)
    (hslope : ¬ (p.evaluateDerivative x).abs < tolerance)
    (hfinite : (newtonMap p x).isFinite = false) : Stepped p tolerance x .lost
  /-- The next number is near. -/
  | near (hvalue : (p.evaluate x == 0) = false)
    (hslope : ¬ (p.evaluateDerivative x).abs < tolerance)
    (hfinite : (newtonMap p x).isFinite = true)
    (hstep : (newtonMap p x - x).abs < tolerance) : Stepped p tolerance x (.root (newtonMap p x))
  /-- The next number is farther away. -/
  | far (hvalue : (p.evaluate x == 0) = false)
    (hslope : ¬ (p.evaluateDerivative x).abs < tolerance)
    (hfinite : (newtonMap p x).isFinite = true)
    (hstep : ¬ (newtonMap p x - x).abs < tolerance) :
    Stepped p tolerance x (.next (newtonMap p x))

theorem stepped_newtonStep (p : Polynomial Float) (tolerance x : Float) :
    Stepped p tolerance x (newtonStep p tolerance x) := by
  unfold newtonStep
  dsimp only
  split
  · rename_i hvalue
    exact .zero hvalue
  rename_i hvalue
  rw [Bool.not_eq_true] at hvalue
  split
  · rename_i hslope
    exact .flat hvalue hslope
  rename_i hslope
  split
  · rename_i hfinite
    rw [Bool.not_eq_true'] at hfinite
    exact .away hvalue hslope hfinite
  rename_i hfinite
  rw [Bool.not_eq_true, Bool.not_eq_false'] at hfinite
  split
  · rename_i hstep
    exact .near hvalue hslope hfinite hstep
  · rename_i hstep
    exact .far hvalue hslope hfinite hstep

theorem newtonMap_of_next {y : Float} (h : newtonStep p tolerance x = .next y) :
    y = newtonMap p x ∧ y.isFinite = true := by
  have hstepped := stepped_newtonStep p tolerance x
  rw [h] at hstepped
  cases hstepped with
  | far _ _ hfinite _ => exact ⟨rfl, hfinite⟩

/-! ## Runs -/

/-- **The numbers at which the polynomial is evaluated**, the starting point first, and the root
that is reached. -/
def newtonRun (p : Polynomial Float) (tolerance : Float) : Nat → Float → List Float × Option Float
  | 0, _ => ([], none)
  | steps + 1, x =>
    match newtonStep p tolerance x with
    | .root r => ([x], some r)
    | .next y =>
      let run := newtonRun p tolerance steps y
      (x :: run.1, run.2)
    | .lost => ([x], none)

theorem newtonRun_snd (p : Polynomial Float) (tolerance : Float) (steps : Nat) (x : Float) :
    (newtonRun p tolerance steps x).2 = newton p tolerance steps x := by
  induction steps generalizing x with
  | zero => rfl
  | succ steps ih =>
    cases hstep : newtonStep p tolerance x with
    | root r => simp only [newtonRun, newton, hstep]
    | next y =>
      simp only [newtonRun, newton, hstep]
      exact ih y
    | lost => simp only [newtonRun, newton, hstep]

theorem visited_eq_iterate (p : Polynomial Float) (tolerance : Float) (steps : Nat) (x : Float) :
    (newtonRun p tolerance steps x).1 =
      List.iterate (newtonMap p) x (newtonRun p tolerance steps x).1.length := by
  induction steps generalizing x with
  | zero => rfl
  | succ steps ih =>
    cases hstep : newtonStep p tolerance x with
    | root r =>
      simp only [newtonRun, hstep]
      rfl
    | next y =>
      obtain ⟨rfl, -⟩ := newtonMap_of_next hstep
      simp only [newtonRun, hstep]
      exact congrArg (x :: ·) (ih _)
    | lost =>
      simp only [newtonRun, hstep]
      rfl

theorem length_visited_le (p : Polynomial Float) (tolerance : Float) (steps : Nat) (x : Float) :
    (newtonRun p tolerance steps x).1.length ≤ steps := by
  induction steps generalizing x with
  | zero => exact Nat.le_refl 0
  | succ steps ih =>
    cases hstep : newtonStep p tolerance x with
    | root | lost =>
      simp only [newtonRun, hstep]
      exact Nat.succ_le_succ (Nat.zero_le steps)
    | next y =>
      simp only [newtonRun, hstep]
      exact Nat.succ_le_succ (ih y)

/-- **The run stays among the finite numbers**, since a step out of them is given up. -/
theorem isFinite_of_mem_visited (hx : x.isFinite = true) {y : Float}
    (hy : y ∈ (newtonRun p tolerance steps x).1) : y.isFinite = true := by
  induction steps generalizing x with
  | zero => cases hy
  | succ steps ih =>
    cases hstep : newtonStep p tolerance x with
    | root | lost =>
      simp only [newtonRun, hstep] at hy
      rwa [List.mem_singleton.mp hy]
    | next z =>
      simp only [newtonRun, hstep] at hy
      rcases List.mem_cons.mp hy with rfl | hy
      · exact hx
      · exact ih (newtonMap_of_next hstep).2 hy

/-- **The last step** of a run that reaches a root is taken at a number that is visited. -/
theorem exists_stepped_of_newton (h : newton p tolerance steps x = some r) :
    ∃ y ∈ (newtonRun p tolerance steps x).1, Stepped p tolerance y (.root r) := by
  induction steps generalizing x with
  | zero => cases h
  | succ steps ih =>
    cases hstep : newtonStep p tolerance x with
    | root y =>
      simp only [newton, hstep] at h
      obtain rfl := Option.some.inj h
      refine ⟨x, ?_, hstep ▸ stepped_newtonStep p tolerance x⟩
      simp only [newtonRun, hstep, List.mem_singleton]
    | next z =>
      simp only [newton, hstep] at h
      obtain ⟨y, hy, hstepped⟩ := ih h
      refine ⟨y, ?_, hstepped⟩
      simp only [newtonRun, hstep]
      exact List.mem_cons_of_mem x hy
    | lost =>
      simp only [newton, hstep] at h
      cases h

theorem newton_of_le {more : Nat} (hle : steps ≤ more) (h : newton p tolerance steps x = some r) :
    newton p tolerance more x = some r := by
  induction steps generalizing x more with
  | zero => cases h
  | succ steps ih =>
    obtain ⟨more, rfl⟩ : ∃ n, more = n + 1 := ⟨more - 1, by omega⟩
    cases hstep : newtonStep p tolerance x with
    | root y =>
      simp only [newton, hstep] at h ⊢
      exact h
    | next z =>
      simp only [newton, hstep] at h ⊢
      exact ih (by omega) h
    | lost =>
      simp only [newton, hstep] at h
      cases h

theorem isFinite_of_newton (hx : x.isFinite = true) (h : newton p tolerance steps x = some r) :
    r.isFinite = true := by
  obtain ⟨y, hy, hstepped⟩ := exists_stepped_of_newton h
  cases hstepped with
  | zero => exact isFinite_of_mem_visited hx hy
  | near _ _ hfinite _ => exact hfinite

/-! ## The certificate -/

/-- **What a run of Newton's method tells about its root.** The numbers at which the polynomial is
evaluated are finite iterates of one map, and no more of them than steps are allowed. A root is
finite and an exact zero, or it is the iterate behind one of them, where the slope is not below the
tolerance and the step is. More steps do not change it. -/
theorem newton_certificate (p : Polynomial Float) (tolerance : Float) (steps : Nat) {seed : Float}
    (hseed : seed.isFinite = true) :
    (newtonRun p tolerance steps seed).2 = newton p tolerance steps seed ∧
    (newtonRun p tolerance steps seed).1 =
      List.iterate (newtonMap p) seed (newtonRun p tolerance steps seed).1.length ∧
    (newtonRun p tolerance steps seed).1.length ≤ steps ∧
    (∀ x ∈ (newtonRun p tolerance steps seed).1, x.isFinite = true ∧
      ∀ y, newtonStep p tolerance x = .next y → y.isFinite = true) ∧
    ∀ r, newton p tolerance steps seed = some r → r.isFinite = true ∧
      ((p.evaluate r == 0) = true ∨
        ∃ x ∈ (newtonRun p tolerance steps seed).1, x.isFinite = true ∧
          r = x - p.evaluate x / p.evaluateDerivative x ∧
          ¬ (p.evaluateDerivative x).abs < tolerance ∧ (r - x).abs < tolerance) ∧
      ∀ more, steps ≤ more → newton p tolerance more seed = some r := by
  refine ⟨newtonRun_snd p tolerance steps seed, visited_eq_iterate p tolerance steps seed,
    length_visited_le p tolerance steps seed, fun x hx => ?_, fun r hr => ⟨?_, ?_, ?_⟩⟩
  · exact ⟨isFinite_of_mem_visited hseed hx, fun y hy => (newtonMap_of_next hy).2⟩
  · exact isFinite_of_newton hseed hr
  · obtain ⟨x, hx, hstepped⟩ := exists_stepped_of_newton hr
    cases hstepped with
    | zero hvalue => exact .inl hvalue
    | near _ hslope _ hstep =>
      exact .inr ⟨x, hx, isFinite_of_mem_visited hseed hx, rfl, hslope, hstep⟩
  · exact fun more hle => newton_of_le hle hr

/-- From 5 the root of `x² - 2` is reached by a step that is short enough. What is reached is no
exact zero, and 200 steps reach the same. -/
theorem newton_certificate_sqrt_two :
    let p : Polynomial Float := .ofList [-2, 0, 1]
    let r : Float := 1.4142135623730951
    (5 : Float).isFinite = true ∧ newton p 1e-6 100 5 = some r ∧ (p.evaluate r == 0) = false ∧
    (∃ x ∈ (newtonRun p 1e-6 100 5).1, x.isFinite = true ∧
      r = x - p.evaluate x / p.evaluateDerivative x ∧ ¬ (p.evaluateDerivative x).abs < 1e-6 ∧
      (r - x).abs < 1e-6) ∧
    newton p 1e-6 200 5 = some r := by
  intro p r
  have hseed : (5 : Float).isFinite = true := by decide
  have hreached : newton p 1e-6 100 5 = some r := by decide +kernel
  have hvalue : (p.evaluate r == 0) = false := by decide +kernel
  obtain ⟨-, -, -, -, hcertificate⟩ := newton_certificate p 1e-6 100 hseed
  obtain ⟨-, hlast, hmore⟩ := hcertificate r hreached
  exact ⟨hseed, hreached, hvalue, hlast.resolve_left (by simp [hvalue]), hmore 200 (by decide)⟩

end OneUnknown
