import HeaderRelay.Network

/-!
# Configuration

The settings of a relay, of proof verification and of a data provider.  Every
setting has a default.
-/

namespace HeaderRelay

/-- Settings of a relay. -/
structure RelayConfig where
  /-- The network whose headers are tracked. -/
  network : Network := .bitcoin
  /-- The number of headers on each side of a retarget boundary. -/
  proofLength : Nat := 20
  /-- Whether only authorized submitters may retarget. -/
  authorizationRequired : Bool := false
  /-- The identity that may govern the relay. -/
  governance : String := "governance"
  /-- The submitters that are authorized from the start. -/
  authorizedSubmitters : List String := []
  deriving DecidableEq

/-- Settings of a sliding window. -/
structure WindowConfig where
  /-- The number of blocks that are remembered. -/
  capacity : Nat := 2016
  deriving DecidableEq

/-- Settings of proof verification. -/
structure VerifierConfig where
  /-- The number of headers a proof must carry. -/
  requiredConfirmations : UInt32 := 6
  /-- Whether the work of all headers must add up to that of as many headers
  like the first. -/
  enforceAccumulated : Bool := true
  deriving DecidableEq

/-- Settings of repeated calls to a data provider. -/
structure ProviderConfig where
  /-- The delay before the first repetition. -/
  initialDelayMillis : UInt64 := 100
  /-- The longest delay. -/
  maxDelaySecs : UInt64 := 30
  /-- The largest number of repetitions. -/
  maxAttempts : Nat := 5
  /-- The ratio of successive delays. -/
  backoffMultiplier : UInt64 := 2
  /-- Whether delays are shortened at random. -/
  jitter : Bool := false
  deriving DecidableEq

/-- The largest number of blocks, headers or repetitions that a setting may
name. -/
def Config.maxSize : Nat :=
  UInt64.size - 1

/-- All settings. -/
structure Config where
  relay : RelayConfig := {}
  window : WindowConfig := {}
  verifier : VerifierConfig := {}
  provider : ProviderConfig := {}
  deriving DecidableEq

end HeaderRelay
