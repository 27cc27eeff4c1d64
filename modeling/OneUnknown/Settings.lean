/-!
# Settings

What a person may choose: where the search for roots starts and when it stops, how many places a
decimal has, and how high a degree may be.

* `NewtonSettings`: the search for roots;
* **`Settings`**, the structure of all settings with their usual values;
* **`SettingsFault`**, `Settings.fault?`: why settings are refused;
* **`Settings.Usable`**, `Settings.fault?_eq_none_iff`: settings that are not.
-/

namespace OneUnknown

/-! ## Settings -/

/-- **The search for roots.** The tolerance is the step below which a search has arrived, the least
slope that it accepts, and the distance below which two roots count as one. -/
structure NewtonSettings where
  seeds : List Float := [-10, -5, 0, 5, 10]
  maxIterations : Nat := 100
  tolerance : Float := 1e-6

/-- **All settings.** -/
structure Settings where
  newton : NewtonSettings := {}
  decimalPlaces : Nat := 6
  maxDegree : Nat := 64

/-! ## Validation -/

/-- **Why settings are refused.** -/
inductive SettingsFault where
  | noSeeds
  | seedNotFinite
  | toleranceNotPositive
  | noIterations
  | tooManyPlaces
  | degreeTooLow
  deriving DecidableEq

namespace SettingsFault

/-- The wording of a fault. -/
def message : SettingsFault → String
  | noSeeds => "newton.seeds must not be empty"
  | seedNotFinite => "newton.seeds must be finite numbers"
  | toleranceNotPositive => "newton.tolerance must be positive"
  | noIterations => "newton.max_iterations must be at least 1"
  | tooManyPlaces => "format.decimal_places must be at most 15"
  | degreeTooLow => "parser.max_degree must be at least 2"

end SettingsFault

namespace Settings

/-- **The first fault of settings**, in a fixed order; there is none if they may be used. -/
def fault? (s : Settings) : Option SettingsFault :=
  if s.newton.seeds.isEmpty then some .noSeeds
  else if s.newton.seeds.any fun seed => !seed.isFinite then some .seedNotFinite
  else if !decide (0 < s.newton.tolerance) then some .toleranceNotPositive
  else if s.newton.maxIterations = 0 then some .noIterations
  else if 15 < s.decimalPlaces then some .tooManyPlaces
  else if s.maxDegree < 2 then some .degreeTooLow
  else none

/-- **Settings that may be used.** -/
structure Usable (s : Settings) : Prop where
  seeds_ne_nil : s.newton.seeds ≠ []
  finite_seeds : ∀ seed ∈ s.newton.seeds, seed.isFinite = true
  tolerance_pos : 0 < s.newton.tolerance
  iterations_pos : 1 ≤ s.newton.maxIterations
  places_le : s.decimalPlaces ≤ 15
  two_le_degree : 2 ≤ s.maxDegree

theorem fault?_eq_none_iff {s : Settings} : s.fault? = none ↔ s.Usable := by
  constructor
  · intro h
    unfold fault? at h
    repeat' split at h
    all_goals try cases h
    rename_i hempty hfinite htolerance hiterations hplaces hdegree
    exact ⟨by simpa using hempty, by simpa using hfinite, by simpa using htolerance, by omega,
      by omega, by omega⟩
  · rintro ⟨hempty, hfinite, htolerance, hiterations, hplaces, hdegree⟩
    have hany : ¬ (s.newton.seeds.any fun seed => !seed.isFinite) = true := by simpa using hfinite
    rw [fault?, if_neg (by simpa using hempty), if_neg hany, if_neg (by simpa using htolerance),
      if_neg (by omega), if_neg (by omega), if_neg (by omega)]

end Settings

end OneUnknown
