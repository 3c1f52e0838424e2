import HeaderRelay.Provider

/-!
# Prepared answers

A provider that knows its answers in advance, a list of them for each question.
Each answer is given once, except for the last of a list, which is given to all
later questions.  The number of questions is counted.
-/

namespace HeaderRelay

/-- The answers to each question, in order. -/
structure Script where
  latestHeight : List (Except ProviderError Height) := []
  transaction : List (Except ProviderError Transaction) := []
  confirmations : List (Except ProviderError UInt32) := []
  headers : List (Except ProviderError Bytes) := []
  branch : List (Except ProviderError ReportedBranch) := []

namespace Script

/-- How often each question has been asked. -/
structure Calls where
  latestHeight : Nat := 0
  transaction : Nat := 0
  confirmations : Nat := 0
  headers : Nat := 0
  branch : Nat := 0
  deriving DecidableEq

/-- The answer to the question that comes after `count` others. -/
def answer {α : Type} (count : Nat) (answers : List (Except ProviderError α)) :
    Except ProviderError α :=
  match answers[count]? with
  | some answer => answer
  | none => answers.getLast?.getD (.error (.failure "no answer"))

/-- The provider that follows a script. -/
def provider (script : Script) : Provider (StateM Calls) where
  latestHeight := fun calls =>
    (answer calls.latestHeight script.latestHeight,
      { calls with latestHeight := calls.latestHeight + 1 })
  transaction _ := fun calls =>
    (answer calls.transaction script.transaction,
      { calls with transaction := calls.transaction + 1 })
  confirmations _ := fun calls =>
    (answer calls.confirmations script.confirmations,
      { calls with confirmations := calls.confirmations + 1 })
  headers _ _ := fun calls =>
    (answer calls.headers script.headers, { calls with headers := calls.headers + 1 })
  branch _ _ := fun calls =>
    (answer calls.branch script.branch, { calls with branch := calls.branch + 1 })

end Script

end HeaderRelay
