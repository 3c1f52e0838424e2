import HeaderRelay.Proof.Verification
import HeaderRelay.Proofs.Header.Chain

/-!
# Which proofs are accepted

Verification is a sequence of checks.  This module lists what an accepted proof
has passed, so that nothing else has to follow the sequence.
-/

namespace HeaderRelay.Proof

variable {proof : Proof} {config : VerifierConfig} {first : Header} {rest : List Header}

theorem requiredChain_eq_ok_iff :
    proof.requiredChain config = .ok (first, rest) ↔
      config.requiredConfirmations ≠ 0 ∧ proof.chain = .ok (first :: rest) ∧
        rest.length + 1 = config.requiredConfirmations.toNat := by
  unfold requiredChain
  simp only [Checks.refusal_eq_ok_iff, Checks.bind_eq_ok_iff, Checks.mapError_eq_ok_iff]
  apply and_congr_right
  intro _
  constructor
  · intro succeeded
    rcases succeeded with ⟨headers, decoded, checked⟩
    cases headers with
    | nil => simp at checked
    | cons head tail =>
        simp only [Checks.refusal_eq_ok_iff, Checks.pure_eq_ok_iff, Prod.mk.injEq] at checked
        obtain ⟨counted, rfl, rfl⟩ := checked
        exact ⟨decoded, by simpa using counted⟩
  · intro conditions
    rcases conditions with ⟨decoded, counted⟩
    exact ⟨_, decoded, by simp [counted]⟩

theorem checkInclusion_eq_ok_iff :
    proof.checkInclusion first = .ok () ↔
      ∃ siblings, proof.siblings = .ok siblings ∧
        Merkle.verify proof.txid first.merkleRoot siblings proof.index.toUInt64 = .ok () := by
  simp [checkInclusion]

/-- A proof is accepted exactly when it has the required number of headers, its
transaction is in the block of the first one, and the anchor takes the headers
for a valid chain of its own that shows the required work. -/
theorem verify_eq_ok_iff {anchor : Anchor} {validated : ValidatedChain} :
    proof.verify anchor config = .ok validated ↔
      ∃ first rest epochs,
        proof.requiredChain config = .ok (first, rest) ∧
        proof.checkInclusion first = .ok () ∧
        anchor.checkHeaders (first :: rest) = .ok () ∧
        anchor.epochs = .ok epochs ∧
        ValidatedChain.ofHeaders anchor.constants epochs (first :: rest) = .ok validated ∧
        (config.enforceAccumulated = true →
          requiredWork anchor.constants config first ≤ validated.accumulated) := by
  unfold verify
  simp only [Checks.refusal_eq_ok_iff, Checks.bind_eq_ok_iff, Checks.pure_eq_ok_iff, Prod.exists,
    not_and, BitVec.not_lt]
  constructor
  · intro succeeded
    rcases succeeded with ⟨first, rest, required, _, included, _, anchored, epochs, known, _,
      valid, shown, rfl⟩
    exact ⟨first, rest, epochs, required, included, anchored, known, valid, shown⟩
  · intro conditions
    rcases conditions with ⟨first, rest, epochs, required, included, anchored, known, valid, shown⟩
    exact ⟨first, rest, required, (), included, (), anchored, epochs, known, _, valid, shown, rfl⟩

/-- An anchor decides whether a proof is accepted, and not what is then known of its
headers: another one of the same network that takes them too comes to the same. -/
theorem verify_eq_ok_of_admits {anchor other : Anchor} {validated : ValidatedChain}
    {headers : List Header} {epochs : EpochDifficulties}
    (accepts : proof.verify anchor config = .ok validated)
    (decoded : proof.chain = .ok headers) (sameNetwork : other.constants = anchor.constants)
    (anchored : other.checkHeaders headers = .ok ()) (known : other.epochs = .ok epochs)
    (admits : epochs.Admits anchor.constants headers) :
    proof.verify other config = .ok validated := by
  obtain ⟨first, rest, _, required, included, _, _, valid, shown⟩ := verify_eq_ok_iff.mp accepts
  obtain ⟨_, sameHeaders, _⟩ := requiredChain_eq_ok_iff.mp required
  obtain rfl : headers = first :: rest := Except.ok.inj (decoded.symm.trans sameHeaders)
  obtain ⟨linked, works, _, summarized⟩ := ValidatedChain.ofHeaders_eq_ok_iff.mp valid
  rw [← sameNetwork] at admits summarized shown
  exact verify_eq_ok_iff.mpr ⟨first, rest, epochs, required, included, anchored, known,
    ValidatedChain.ofHeaders_eq_ok_iff.mpr ⟨linked, works, admits, summarized⟩, shown⟩

/-- A proof for the only transaction in the block of the first of some headers, with
the same zeros for its id as for the Merkle root. -/
def sole (headers : List Header) : Proof where
  txid := .zero
  branch := []
  index := 0
  headers := Header.encodeChain headers

end HeaderRelay.Proof
