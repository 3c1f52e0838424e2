import Mathlib.Tactic.Common

/-!
# Accepted calls

A relay answers calls one after the other.  What became of it depends on the
calls that succeeded alone; their list is the history that the theorems about
runs speak of.  A claim about every run is proved for the relay and its history
together, one call at a time.
-/

namespace HeaderRelay.Runs

variable {State Call Failure Answer : Type}

/-- The calls that succeed when the calls of a list are made one after the other. -/
def accepted (step : State → Call → State × Except Failure Answer) :
    (state : State) → List Call → List Call
  | _, [] => []
  | state, call :: rest =>
      match (step state call).2 with
      | .ok _ => call :: accepted step (step state call).1 rest
      | .error _ => accepted step (step state call).1 rest

variable {step : State → Call → State × Except Failure Answer}

theorem accepted_append (state : State) (first second : List Call) :
    accepted step state (first ++ second) =
      accepted step state first ++
        accepted step (first.foldl (fun state call => (step state call).1) state) second := by
  induction first generalizing state with
  | nil => rfl
  | cons call rest ih =>
      simp only [List.cons_append, accepted, List.foldl_cons, ih]
      split <;> rfl

/-- What holds of a state and its history at the start, and is kept by every
call that succeeds and by every one that fails, holds after every run. -/
theorem holds_after {Holds : State → List Call → Prop}
    (succeeds : ∀ {state past call answer}, Holds state past →
      (step state call).2 = .ok answer → Holds (step state call).1 (past ++ [call]))
    (fails : ∀ {state past call failure}, Holds state past →
      (step state call).2 = .error failure → Holds (step state call).1 past)
    {start : State} {past : List Call} (holds : Holds start past) (calls : List Call) :
    Holds (calls.foldl (fun state call => (step state call).1) start)
      (past ++ accepted step start calls) := by
  induction calls generalizing start past with
  | nil => simpa [accepted] using holds
  | cons call rest ih =>
      simp only [List.foldl_cons, accepted]
      split
      next answered =>
        rw [List.append_cons]
        exact ih (succeeds holds answered)
      next failed => exact ih (fails holds failed)

end HeaderRelay.Runs
