import HeaderRelay.Error
import HeaderRelay.Transaction

/-!
# Data providers

Where blocks and transactions come from.  A provider answers five questions;
what it takes to answer is left to a monad, so that a store of blocks, a list of
prepared answers and a chain that grows between two questions are all providers.
-/

namespace HeaderRelay

/-- What a provider tells about the place of a transaction in its block. -/
structure ReportedBranch where
  /-- The height of the block. -/
  height : Height
  /-- The siblings, the deepest first, as people read them. -/
  siblings : List Hash
  /-- The position of the transaction in the block. -/
  position : UInt32
  deriving DecidableEq

structure Provider (m : Type → Type) where
  /-- The height of the tip. -/
  latestHeight : m (Except ProviderError Height)
  transaction (txid : Hash) : m (Except ProviderError Transaction)
  /-- The number of blocks from that of a transaction up to the tip. -/
  confirmations (txid : Hash) : m (Except ProviderError UInt32)
  /-- The bytes of consecutive headers. -/
  headers (start : Height) (count : UInt32) : m (Except ProviderError Bytes)
  branch (txid : Hash) (height : Height) : m (Except ProviderError ReportedBranch)

end HeaderRelay
