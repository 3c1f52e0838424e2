import HeaderRelay.Proof
import HeaderRelay.Provider.Retry

/-!
# Assembly of proofs

Five questions to a provider lead to the proof of a transaction.  The chain may
grow in between: the block of the transaction is computed from the number of
its confirmations and the height of the tip, and a branch that belongs to
another block is refused.
-/

namespace HeaderRelay

/-- A transaction with the proof that it is in a block. -/
structure AssembledProof where
  transaction : Transaction
  proof : Proof
  deriving DecidableEq

namespace AssembledProof

/-- The height of the block that has a number of confirmations under a tip. The height
above the tip wraps around. -/
def blockHeight (txid : Hash) (confirmations : UInt32) (tip : Height) :
    Except ProviderError Height :=
  match (tip + 1).down? confirmations.toNat with
  | some height => .ok height
  | none => .error (.confirmationsAboveTip txid confirmations tip)

/-- The proof with the given headers and branch, if the branch is that of the
block at `height`. -/
def ofParts (txid : Hash) (transaction : Transaction) (height : Height) (headers : Bytes)
    (branch : ReportedBranch) : Except ProviderError AssembledProof :=
  if branch.height ≠ height then .error (.branchOfOtherBlock txid branch.height height)
  else
    .ok {
      transaction
      proof := {
        txid
        branch := Proof.encodeBranch (branch.siblings.map Hash.reverse)
        index := branch.position
        headers
      }
    }

/-- Assembles the proof of a transaction with as many headers as confirmations
are required. Each question may be repeated after the given delays; the headers
and the branch are asked for at the same time. -/
def assemble {m : Type → Type} [Monad m] (provider : Provider m) (delays : List Nat)
    (required : UInt32) (txid : Hash) : m (Except ProviderError AssembledProof) :=
  ExceptT.run do
    let transaction ← ExceptT.mk (Retry.call (provider.transaction txid) delays)
    let confirmations ← ExceptT.mk (Retry.call (provider.confirmations txid) delays)
    if confirmations < required then
      throw (.insufficientConfirmations required confirmations)
    let tip ← ExceptT.mk (Retry.call provider.latestHeight delays)
    let height ← ExceptT.mk (pure (blockHeight txid confirmations tip))
    let (headers, branch) ←
      ExceptT.mk (Retry.both (provider.headers height required)
        (provider.branch txid height) delays)
    ExceptT.mk (pure (ofParts txid transaction height headers branch))

end AssembledProof

end HeaderRelay
