import HeaderRelay.Provider
import HeaderRelay.Text.Lowercase

/-!
# Repeated calls

A call that fails for a passing reason is repeated after a delay, until it
succeeds, fails for a lasting reason or has used up its delays.  Of two calls
that run side by side with the same delays, both wait equally long, so they stay
in step: the first one is made first in every round.
-/

namespace HeaderRelay

/-- The words that mark a failure as passing. -/
def passingWords : List String :=
  ["timeout", "timed out", "connection", "temporary", "busy", "unavailable", "network"]

/-- Whether a failure may have gone away when the call is repeated. A missing
block or transaction stays missing until the chain has grown. -/
def ProviderError.isRetryable : ProviderError → Bool
  | .failure text => passingWords.any (Text.mentions text)
  | _ => false

namespace Retry

variable {m : Type → Type} [Monad m] {α β : Type}

/-- A call with at most one repetition for each delay, for as long as failures ask for it. -/
def callWhile (again : ProviderError → Bool) (action : m (Except ProviderError α)) :
    (delays : List Nat) → m (Except ProviderError α)
  | [] => action
  | _ :: rest => do
      match ← action with
      | .ok value => return .ok value
      | .error error => if again error then callWhile again action rest else return .error error

/-- A call that is repeated after passing failures. -/
def call (action : m (Except ProviderError α)) (delays : List Nat) :
    m (Except ProviderError α) :=
  callWhile ProviderError.isRetryable action delays

/-- Two calls side by side. The first failure that is not repeated ends both. -/
def inStep (first : m (Except ProviderError α)) (second : m (Except ProviderError β)) :
    (delays : List Nat) → m (Except ProviderError (α × β))
  | [] => do
      match ← first with
      | .error error => return .error error
      | .ok left => return (← second).map (left, ·)
  | delay :: rest => do
      match ← first with
      | .ok left => return (← call second (delay :: rest)).map (left, ·)
      | .error error =>
          if !error.isRetryable then return .error error
          match ← second with
          | .ok right => return (← call first rest).map (·, right)
          | .error error =>
              if error.isRetryable then inStep first second rest else return .error error

/-- One call after the other. -/
def inTurn (first : m (Except ProviderError α)) (second : m (Except ProviderError β))
    (delays : List Nat) : m (Except ProviderError (α × β)) := do
  match ← call first delays with
  | .error error => return .error error
  | .ok left => return (← call second delays).map (left, ·)

/-- Two calls at once. A call that need not wait is repeated before the other
one gets its turn; the delays are either all zero or all positive. -/
def both (first : m (Except ProviderError α)) (second : m (Except ProviderError β))
    (delays : List Nat) : m (Except ProviderError (α × β)) :=
  if delays.all (· = 0) then inTurn first second delays else inStep first second delays

end Retry

/-- An operation that makes a call, and repeats it after certain failures with delays in
between. -/
structure Repetition (m : Type → Type) where
  run {α : Type} (again : ProviderError → Bool) (action : m (Except ProviderError α))
    (delays : List Nat) : m (Except ProviderError α)

def Retry.repetition {m : Type → Type} [Monad m] : Repetition m where
  run := callWhile

section

variable {m : Type → Type}

/-- A call that is repeated after passing failures. -/
def Repetition.call {α : Type} (repetition : Repetition m)
    (action : m (Except ProviderError α)) (delays : List Nat) : m (Except ProviderError α) :=
  repetition.run ProviderError.isRetryable action delays

namespace Provider

/-- A provider whose answers are asked for by an operation that repeats calls. -/
def repeating (provider : Provider m) (repetition : Repetition m) (delays : List Nat) :
    Provider m where
  latestHeight := repetition.call provider.latestHeight delays
  transaction txid := repetition.call (provider.transaction txid) delays
  confirmations txid := repetition.call (provider.confirmations txid) delays
  headers start count := repetition.call (provider.headers start count) delays
  branch txid height := repetition.call (provider.branch txid height) delays

/-- A provider whose answers are asked for again. -/
def retrying [Monad m] (provider : Provider m) (delays : List Nat) : Provider m :=
  provider.repeating Retry.repetition delays

end Provider

end

end HeaderRelay
