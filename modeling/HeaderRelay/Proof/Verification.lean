import HeaderRelay.Anchor
import HeaderRelay.Config
import HeaderRelay.Merkle
import HeaderRelay.Proof

/-!
# Proof verification

A proof is accepted as a whole or not at all.  It must carry exactly as many
headers as confirmations are required, include its transaction in the block of
the first header, and form a chain that the anchor accepts.
-/

namespace HeaderRelay.Proof

/-- The headers of a proof, if there are exactly as many as required, at least
one. -/
def requiredChain (proof : Proof) (config : VerifierConfig) :
    Except Error (Header × List Header) := do
  if config.requiredConfirmations = 0 then throw (ConfigError.noConfirmations : Error)
  match ← proof.chain.mapError Error.malformed with
  | [] => throw (MalformedInput.headerCount config.requiredConfirmations.toNat 0 : Error)
  | first :: rest =>
      let count := (first :: rest).length
      if count ≠ config.requiredConfirmations.toNat then
        throw (MalformedInput.headerCount config.requiredConfirmations.toNat count : Error)
      return (first, rest)

/-- Checks that the transaction of a proof is in the block of a header. -/
def checkInclusion (proof : Proof) (first : Header) : Except Error Unit := do
  let siblings ← proof.siblings.mapError Error.malformed
  (Merkle.verify proof.txid first.merkleRoot siblings proof.index.toUInt64).mapError
    Error.consensus

/-- The work that a proof must show: that of as many headers as required, all
with the difficulty of the first. -/
def requiredWork (constants : Network.Constants) (config : VerifierConfig)
    (first : Header) : Difficulty :=
  (first.difficulty constants).saturatingTimes config.requiredConfirmations

/-- Holds a proof against an anchor. -/
def verify (anchor : Anchor) (config : VerifierConfig) (proof : Proof) :
    Except Error ValidatedChain := do
  let (first, rest) ← proof.requiredChain config
  proof.checkInclusion first
  anchor.checkHeaders (first :: rest)
  let epochs ← anchor.epochs
  let validated ← ValidatedChain.ofHeaders anchor.constants epochs (first :: rest)
  let required := requiredWork anchor.constants config first
  if config.enforceAccumulated ∧ validated.accumulated < required then
    throw (ConsensusError.insufficientAccumulatedDifficulty required validated.accumulated :
      Error)
  return validated

end HeaderRelay.Proof
