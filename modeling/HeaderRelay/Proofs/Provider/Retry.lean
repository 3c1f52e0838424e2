import HeaderRelay.Provider.Backoff
import HeaderRelay.Provider.Retry
import HeaderRelay.Provider.Script
import Mathlib.Order.Bounds.Basic
import Mathlib.Tactic.Common

/-!
# How often a question is asked

The operation that repeats calls comes from elsewhere; of it is known that it makes a
call, and as long as the call fails for a passing reason and there is a delay left,
uses up the delay and makes the call again.  So a provider that never falls silent is
asked up to the first answer that stays the same when the question is repeated, but not
more than once beyond the number of delays, and its last answer is passed on.
-/

namespace HeaderRelay

/-- Failures that only pass when the chain has grown. -/
def ProviderError.AwaitsChain : ProviderError → Prop
  | .insufficientConfirmations .. | .transactionNotFound _ | .blockNotFound _ => True
  | _ => False

namespace Retry

variable {α : Type}

/-- Whether an answer stays the same when the question is repeated: it is no failure that
passes. -/
def Lasting (answer : Except ProviderError α) : Prop :=
  ∀ error, answer = .error error → error.isRetryable = false

theorem lasting_ok (value : α) : Lasting (.ok value) := nofun

theorem lasting_error {error : ProviderError} (lasting : error.isRetryable = false) :
    Lasting (.error error : Except ProviderError α) := by
  intro other same
  cases same
  exact lasting

/-- An answer that does not last is a failure that passes. -/
theorem exists_passing {answer : Except ProviderError α} (passes : ¬Lasting answer) :
    ∃ error, answer = .error error ∧ error.isRetryable = true := by
  simpa [Lasting] using passes

theorem lasting_of_awaitsChain {error : ProviderError} (awaits : error.AwaitsChain) :
    Lasting (.error error : Except ProviderError α) := by
  apply lasting_error
  cases error with
  | failure text => cases awaits
  | _ => rfl

end Retry

/-! ## Operations that repeat calls -/

/-- Whether an operation makes a call, and after a failure that asks for it takes the next
delay and makes the call again, until there is no delay left. -/
structure Repetition.IsLawful {m : Type → Type} [Monad m] (repetition : Repetition m) :
    Prop where
  exhausted : ∀ {α : Type} (again : ProviderError → Bool)
    (action : m (Except ProviderError α)), repetition.run again action [] = action
  repeats : ∀ {α : Type} (again : ProviderError → Bool) (action : m (Except ProviderError α))
    (delay : Nat) (rest : List Nat), repetition.run again action (delay :: rest) = do
      match ← action with
      | .ok value => return .ok value
      | .error error =>
          if again error then repetition.run again action rest else return .error error

theorem Retry.isLawful_repetition {m : Type → Type} [Monad m] :
    (repetition : Repetition m).IsLawful where
  exhausted _ _ := rfl
  repeats _ _ _ _ := rfl

/-! ## Providers that never fall silent -/

/-- A place where questions are counted. -/
structure Counter where
  count : Script.Calls → Nat
  set : Script.Calls → Nat → Script.Calls
  count_set : ∀ calls number, count (set calls number) = number
  set_set : ∀ calls first second, set (set calls first) second = set calls second

namespace Counter

def latestHeight : Counter :=
  ⟨Script.Calls.latestHeight, fun calls number => { calls with latestHeight := number },
    fun _ _ => rfl, fun _ _ _ => rfl⟩

def transaction : Counter :=
  ⟨Script.Calls.transaction, fun calls number => { calls with transaction := number },
    fun _ _ => rfl, fun _ _ _ => rfl⟩

def confirmations : Counter :=
  ⟨Script.Calls.confirmations, fun calls number => { calls with confirmations := number },
    fun _ _ => rfl, fun _ _ _ => rfl⟩

def headers : Counter :=
  ⟨Script.Calls.headers, fun calls number => { calls with headers := number },
    fun _ _ => rfl, fun _ _ _ => rfl⟩

def branch : Counter :=
  ⟨Script.Calls.branch, fun calls number => { calls with branch := number },
    fun _ _ => rfl, fun _ _ _ => rfl⟩

variable {α : Type}

/-- The answer to a question, which is counted. -/
def ask (counter : Counter) (answers : Nat → Except ProviderError α) :
    StateM Script.Calls (Except ProviderError α) :=
  fun calls => (answers (counter.count calls), counter.set calls (counter.count calls + 1))

/-- Whether a question is asked until its answer lasts or a number of repetitions is used up:
the last answer is passed on, and no other question was asked. -/
def Settles (counter : Counter) (limit : Nat) (answers : Nat → Except ProviderError α)
    (calls : Script.Calls) (result : Except ProviderError α × Script.Calls) : Prop :=
  ∃ repetitions, result = (answers (counter.count calls + repetitions),
      counter.set calls (counter.count calls + repetitions + 1)) ∧
    IsLeast {number | Retry.Lasting (answers (counter.count calls + number)) ∨ number = limit}
      repetitions ∧
    ∀ number ≤ repetitions, ∀ error, answers (counter.count calls + number) = .error error →
      error.AwaitsChain → number = repetitions

end Counter

/-- Endless answers to each question, by the number of times that it was asked before. -/
structure Feed where
  latestHeight : Nat → Except ProviderError Height
  transaction (txid : Hash) : Nat → Except ProviderError Transaction
  confirmations (txid : Hash) : Nat → Except ProviderError UInt32
  headers (start : Height) (count : UInt32) : Nat → Except ProviderError Bytes
  branch (txid : Hash) (height : Height) : Nat → Except ProviderError ReportedBranch

/-- The provider with these answers. -/
def Feed.provider (feed : Feed) : Provider (StateM Script.Calls) where
  latestHeight := Counter.latestHeight.ask feed.latestHeight
  transaction txid := Counter.transaction.ask (feed.transaction txid)
  confirmations txid := Counter.confirmations.ask (feed.confirmations txid)
  headers start count := Counter.headers.ask (feed.headers start count)
  branch txid height := Counter.branch.ask (feed.branch txid height)

/-! ## Repeated questions -/

/-- The least number with a property that zero does not have. -/
theorem isLeast_succ {property : Nat → Prop} {least : Nat} (notZero : ¬property 0)
    (isLeast : IsLeast {number | property (number + 1)} least) :
    IsLeast {number | property number} (least + 1) := by
  refine ⟨isLeast.1, ?_⟩
  intro number holds
  cases number with
  | zero => exact absurd holds notZero
  | succ number => exact Nat.succ_le_succ (isLeast.2 holds)

theorem isLeast_zero {property : Nat → Prop} (zero : property 0) :
    IsLeast {number | property number} 0 :=
  ⟨zero, fun _ _ => Nat.zero_le _⟩

variable {repetition : Repetition (StateM Script.Calls)}

namespace Counter

variable {α : Type} {counter : Counter} {answers : Nat → Except ProviderError α}

/-- What is done with the answer to a question. -/
theorem ask_bind {β : Type} (next : Except ProviderError α → StateM Script.Calls β)
    (calls : Script.Calls) :
    (counter.ask answers >>= next) calls =
      next (answers (counter.count calls)) (counter.set calls (counter.count calls + 1)) :=
  rfl

/-- An answer that lasts is passed on. -/
theorem run_ask_of_lasting (lawful : repetition.IsLawful) {calls : Script.Calls}
    (lasting : Retry.Lasting (answers (counter.count calls))) (delays : List Nat) :
    repetition.call (counter.ask answers) delays calls =
      (answers (counter.count calls), counter.set calls (counter.count calls + 1)) := by
  cases delays with
  | nil =>
      rw [Repetition.call, lawful.exhausted]
      rfl
  | cons delay rest =>
      rw [Repetition.call, lawful.repeats, ask_bind]
      cases answered : answers (counter.count calls) with
      | ok value => rfl
      | error error =>
          simp only [lasting error answered]
          rfl

/-- After a passing failure the question is asked again, with one delay less. -/
theorem run_ask_of_passing (lawful : repetition.IsLawful) {calls : Script.Calls}
    {error : ProviderError} (answered : answers (counter.count calls) = .error error)
    (passing : error.isRetryable = true) (delay : Nat) (rest : List Nat) :
    repetition.call (counter.ask answers) (delay :: rest) calls =
      repetition.call (counter.ask answers) rest
        (counter.set calls (counter.count calls + 1)) := by
  rw [Repetition.call, lawful.repeats, ask_bind, answered]
  simp only [passing, if_true]
  rfl

/-- A question is asked up to the first answer that lasts, or that comes when no delay is
left. -/
theorem exists_run_ask (lawful : repetition.IsLawful) (delays : List Nat)
    (calls : Script.Calls) :
    ∃ repetitions, repetition.call (counter.ask answers) delays calls =
        (answers (counter.count calls + repetitions),
          counter.set calls (counter.count calls + repetitions + 1)) ∧
      IsLeast {number | Retry.Lasting (answers (counter.count calls + number)) ∨
        number = delays.length} repetitions := by
  induction delays generalizing calls with
  | nil =>
      refine ⟨0, ?_, isLeast_zero (.inr rfl)⟩
      rw [Repetition.call, lawful.exhausted]
      rfl
  | cons delay rest ih =>
      by_cases lasting : Retry.Lasting (answers (counter.count calls))
      · exact ⟨0, run_ask_of_lasting lawful lasting _, isLeast_zero (.inl lasting)⟩
      · obtain ⟨error, answered, passing⟩ := Retry.exists_passing lasting
        obtain ⟨repetitions, run, isLeast⟩ := ih (counter.set calls (counter.count calls + 1))
        simp only [counter.count_set, counter.set_set, Nat.add_assoc, Nat.add_comm 1]
          at run isLeast
        refine ⟨repetitions + 1, ?_, isLeast_succ ?_ ?_⟩
        · rw [run_ask_of_passing lawful answered passing, run]
          rfl
        · rintro (lasts | none)
          · exact lasting lasts
          · cases none
        · simpa only [List.length_cons, Nat.add_right_cancel_iff] using isLeast

/-- A failure that awaits the chain is the last answer that is asked for. -/
theorem settles_run_ask (lawful : repetition.IsLawful) (delays : List Nat)
    (calls : Script.Calls) :
    counter.Settles delays.length answers calls
      (repetition.call (counter.ask answers) delays calls) := by
  obtain ⟨repetitions, run, isLeast⟩ := exists_run_ask lawful delays calls
  refine ⟨repetitions, run, isLeast, ?_⟩
  intro number asked error answered awaits
  have lasting := answered ▸ Retry.lasting_of_awaitsChain awaits
  exact Nat.le_antisymm asked (isLeast.2 (.inl lasting))

end Counter

namespace Backoff

variable {pacing : Pacing} {backoff : Backoff}

theorem length_strategy (shorten : Nat → Nat → Nat) :
    (backoff.strategy pacing shorten).length = backoff.maxRetries := by
  have counted (state : pacing.State) (count : Nat) :
      (pacing.delays state count).length = count := by
    induction count generalizing state with
    | zero => rfl
    | succ count ih => rw [Pacing.delays, List.length_cons, ih]
  rw [strategy, apply_ite List.length, List.length_mapIdx, ite_self, spans, counted]

end Backoff

namespace Feed

/-- Whatever makes the delays and repeats the calls, each question to a provider is asked
until its answer lasts, but not more than once beyond the number of delays, and the last
answer is passed on as it is. -/
theorem repeating_settles (lawful : repetition.IsLawful) (pacing : Pacing)
    (shorten : Nat → Nat → Nat) (initialDelayMillis multiplier : UInt64)
    (maxDelay maxRetries : Nat) (jitter : Bool) (feed : Feed) (calls : Script.Calls)
    (txid : Hash) (height : Height) (count : UInt32) :
    let backoff := Backoff.upTo initialDelayMillis maxDelay maxRetries multiplier jitter
    let provider := feed.provider.repeating repetition (backoff.strategy pacing shorten)
    let limit := min maxRetries 50
    Counter.latestHeight.Settles limit feed.latestHeight calls (provider.latestHeight calls) ∧
      Counter.transaction.Settles limit (feed.transaction txid) calls
        (provider.transaction txid calls) ∧
      Counter.confirmations.Settles limit (feed.confirmations txid) calls
        (provider.confirmations txid calls) ∧
      Counter.headers.Settles limit (feed.headers height count) calls
        (provider.headers height count calls) ∧
      Counter.branch.Settles limit (feed.branch txid height) calls
        (provider.branch txid height calls) := by
  intro backoff provider limit
  have counted : (backoff.strategy pacing shorten).length = limit :=
    Backoff.length_strategy shorten
  simp only [← counted]
  exact ⟨Counter.settles_run_ask lawful _ calls, Counter.settles_run_ask lawful _ calls,
    Counter.settles_run_ask lawful _ calls, Counter.settles_run_ask lawful _ calls,
    Counter.settles_run_ask lawful _ calls⟩

/-- Answers of each kind: two failures that pass before an answer, failures that never pass,
one that passes before one that does not, and two that do not pass at once. -/
def flaky : Feed where
  latestHeight number := if number < 2 then .error (.failure "Connection refused") else .ok 42
  transaction _ _ := .error (.failure "network unreachable")
  confirmations _ number :=
    if number = 0 then .error (.failure "request timed out")
    else .error (.transactionNotFound "unknown")
  headers start _ _ := .error (.blockNotFound start)
  branch _ _ _ := .error (.failure "bad request")

/-- At most three repetitions, the delays of which are halved. -/
theorem flaky_settles :
    let backoff := Backoff.upTo 1 5000000 3 1 true
    let provider := flaky.provider.repeating Retry.repetition
      (backoff.strategy Progression.pacing fun _ delay => delay / 2)
    (Retry.repetition : Repetition (StateM Script.Calls)).IsLawful ∧
      (provider.latestHeight.run {}).run = (.ok 42, { latestHeight := 3 }) ∧
      ((provider.transaction .zero).run {}).run =
        (.error (.failure "network unreachable"), { transaction := 4 }) ∧
      ((provider.confirmations .zero).run {}).run =
        (.error (.transactionNotFound "unknown"), { confirmations := 2 }) ∧
      ((provider.headers 7 6).run {}).run = (.error (.blockNotFound 7), { headers := 1 }) ∧
      ((provider.branch .zero 7).run {}).run = (.error (.failure "bad request"), { branch := 1 }) ∧
      Counter.latestHeight.Settles 3 flaky.latestHeight {} (provider.latestHeight {}) := by
  intro backoff provider
  refine ⟨Retry.isLawful_repetition, by decide +kernel, by decide +kernel, by decide +kernel,
    by decide +kernel, by decide +kernel, ?_⟩
  exact (repeating_settles Retry.isLawful_repetition Progression.pacing
    (fun _ delay => delay / 2) 1 1 5000000 3 true flaky {} .zero 7 6).1

end Feed

end HeaderRelay
