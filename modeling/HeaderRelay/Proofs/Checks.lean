import Mathlib.Algebra.Ring.Nat
import Mathlib.Data.BitVec
import Mathlib.Tactic.Common

/-!
# Sequences of checks

An operation of a relay is a sequence of checks of which the first that fails
decides.  The lemmas of this module take such a sequence apart: it succeeds
exactly when every check does.
-/

namespace HeaderRelay.Checks

variable {Failure Value Result : Type}

/-- Two steps in a row succeed if the second succeeds on what the first tells. -/
@[simp] theorem bind_eq_ok_iff {first : Except Failure Value}
    {next : Value → Except Failure Result} {result : Result} :
    first >>= next = .ok result ↔ ∃ value, first = .ok value ∧ next value = .ok result := by
  cases first <;> simp [bind, Except.bind]

/-- Two steps in a row fail if the first does, or the second on what the first tells. -/
theorem bind_eq_error_iff {first : Except Failure Value}
    {next : Value → Except Failure Result} {failure : Failure} :
    first >>= next = .error failure ↔
      first = .error failure ∨ ∃ value, first = .ok value ∧ next value = .error failure := by
  cases first <;> simp [bind, Except.bind]

/-- A check tells nothing but that it was passed. -/
@[simp] theorem exists_unit_iff {property : Unit → Prop} :
    (∃ told, property told) ↔ property () :=
  ⟨fun ⟨_, holds⟩ => holds, fun holds => ⟨(), holds⟩⟩

@[simp] theorem pure_eq_ok_iff {value result : Value} :
    (pure value : Except Failure Value) = .ok result ↔ value = result := by
  simp [pure, Except.pure]

@[simp] theorem throw_eq_error_iff {refused failure : Failure} :
    (throw refused : Except Failure Value) = .error failure ↔ refused = failure := by
  simp [throw, throwThe, MonadExceptOf.throw]

@[simp] theorem throw_ne_ok {failure : Failure} {result : Value} :
    ¬(throw failure : Except Failure Value) = .ok result := by
  simp [throw, throwThe, MonadExceptOf.throw]

/-- A refusal in front of other steps is passed if its condition is false. -/
@[simp] theorem refusal_eq_ok_iff {condition : Prop} [Decidable condition]
    {failure : Failure} {next : Unit → Except Failure Result} {result : Result} :
    (if condition then throw failure >>= next else next ()) = .ok result ↔
      ¬condition ∧ next () = .ok result := by
  by_cases holds : condition <;> simp [holds]

/-- A refusal in front of other steps fails with its own error if its condition is true. -/
theorem refusal_eq_error_iff {condition : Prop} [Decidable condition]
    {refused failure : Failure} {next : Unit → Except Failure Result} :
    (if condition then throw refused >>= next else next ()) = .error failure ↔
      condition ∧ refused = failure ∨ ¬condition ∧ next () = .error failure := by
  by_cases holds : condition <;> simp [holds, bind_eq_error_iff]

@[simp] theorem mapError_eq_ok_iff {Other : Type} {rename : Failure → Other}
    {first : Except Failure Value} {result : Value} :
    first.mapError rename = .ok result ↔ first = .ok result := by
  cases first <;> simp [Except.mapError]

theorem mapError_eq_error_iff {Other : Type} {rename : Failure → Other}
    {first : Except Failure Value} {failure : Other} :
    first.mapError rename = .error failure ↔
      ∃ cause, first = .error cause ∧ rename cause = failure := by
  cases first <;> simp [Except.mapError]

@[simp] theorem map_eq_ok_iff {change : Value → Result} {first : Except Failure Value}
    {result : Result} :
    first.map change = .ok result ↔ ∃ value, first = .ok value ∧ change value = result := by
  cases first <;> simp [Except.map]

/-- A check of every item of a list. -/
theorem forM_eq_ok_iff {Item : Type} {items : List Item} {check : Item → Except Failure Unit} :
    items.forM check = .ok () ↔ ∀ item ∈ items, check item = .ok () := by
  induction items with
  | nil => simp [List.forM]
  | cons item rest ih =>
      change (check item >>= fun _ => rest.forM check) = .ok () ↔ _
      rw [bind_eq_ok_iff, List.forall_mem_cons, ← ih]
      constructor
      · intro succeeded
        rcases succeeded with ⟨_, passed, others⟩
        exact ⟨passed, others⟩
      · intro conditions
        rcases conditions with ⟨passed, others⟩
        exact ⟨_, passed, others⟩

/-- Of a list of checks that fails, one has failed. -/
theorem exists_of_forM_eq_error {Item : Type} {items : List Item}
    {check : Item → Except Failure Unit} {failure : Failure}
    (failed : items.forM check = .error failure) :
    ∃ item ∈ items, check item = .error failure := by
  induction items with
  | nil => cases failed
  | cons item rest ih =>
      rcases bind_eq_error_iff.mp failed with here | ⟨_, _, later⟩
      · exact ⟨item, List.mem_cons_self, here⟩
      · obtain ⟨other, member, there⟩ := ih later
        exact ⟨other, List.mem_cons_of_mem _ member, there⟩

/-- A run of steps fails in the first one that does, on what those before it lead to. -/
theorem foldlM_eq_error_iff {State Item : Type} {items : List Item}
    {step : State → Item → Except Failure State} {state : State} {failure : Failure} :
    items.foldlM step state = .error failure ↔
      ∃ before item after reached, items = before ++ item :: after ∧
        before.foldlM step state = .ok reached ∧ step reached item = .error failure := by
  constructor
  · induction items generalizing state with
    | nil => nofun
    | cons item rest ih =>
        rw [List.foldlM_cons, bind_eq_error_iff]
        intro failed
        rcases failed with here | ⟨next, passed, later⟩
        · exact ⟨[], item, rest, state, rfl, rfl, here⟩
        · obtain ⟨before, other, after, reached, rfl, walked, there⟩ := ih later
          refine ⟨item :: before, other, after, reached, rfl, ?_, there⟩
          rw [List.foldlM_cons, passed]
          exact walked
  · rintro ⟨before, item, after, reached, rfl, walked, failed⟩
    rw [List.foldlM_append, walked]
    change List.foldlM step reached (item :: after) = _
    rw [List.foldlM_cons, failed]
    rfl

end HeaderRelay.Checks
