import HeaderRelay.Proofs.EpochRelay.Verification

/-!
# Chains that a relay validates

A relay judges a chain by the epoch that its first header falls in, and a proof
always by its last two epochs.  A chain of the current epoch must keep to one
difficulty where a proof may use two, so whatever is validated as a chain would
also pass as the headers of a proof.  The one exception is a current epoch of
difficulty one: held against itself it switches the rules on difficulties off.
-/

namespace HeaderRelay.EpochRelay

variable {relay : EpochRelay} {timestamp : UInt32} {epochs : EpochDifficulties}

/-- The difficulties for chains that start at a time: those of the epoch it falls in
and of the one after it, among the last two. -/
inductive Selects (relay : EpochRelay) (timestamp : UInt32) : EpochDifficulties → Prop where
  | current {older : List EpochRecord} {current : EpochRecord}
      (records : relay.epochs = older ++ [current]) (reached : current.timestamp ≤ timestamp) :
      Selects relay timestamp ⟨current.difficulty, current.difficulty⟩
  | previous {oldest : List EpochRecord} {previous current : EpochRecord}
      (records : relay.epochs = oldest ++ [previous, current])
      (early : timestamp < current.timestamp) (reached : previous.timestamp ≤ timestamp) :
      Selects relay timestamp ⟨previous.difficulty, current.difficulty⟩

theorem Selects.exists_last (selects : relay.Selects timestamp epochs) :
    ∃ current, relay.epochs.getLast? = some current := by
  cases selects with
  | @current _ current records => exact ⟨current, by simp [records]⟩
  | @previous _ _ current records => exact ⟨current, by simp [records]⟩

theorem epochs_of_reverse {current : EpochRecord} {older : List EpochRecord}
    (backwards : relay.epochs.reverse = current :: older) :
    relay.epochs = older.reverse ++ [current] := by
  rw [← List.reverse_reverse relay.epochs, backwards, List.reverse_cons]

theorem difficultiesAt_eq_ok_iff :
    relay.difficultiesAt timestamp = .ok epochs ↔ relay.Selects timestamp epochs := by
  constructor
  · intro told
    unfold difficultiesAt at told
    split at told
    next => cases told
    next current older backwards =>
      have records := epochs_of_reverse backwards
      split at told
      next reached =>
        cases told
        exact .current records reached
      next early =>
        split at told
        next => cases told
        next previous oldest =>
          dsimp only at told
          split at told
          next reached =>
            cases told
            rw [List.reverse_cons, List.append_assoc] at records
            exact .previous records (UInt32.not_le.mp early) reached
          next => split at told <;> cases told
  · intro selects
    cases selects with
    | current records reached => simp [difficultiesAt, records, reached]
    | previous records early reached =>
        simp [difficultiesAt, records, UInt32.not_le.mpr early, reached]

/-- A chain is validated exactly when it has at least three headers and at most two
for each of the proof length, starts in one of the last two epochs and is valid for
the difficulties of that time. -/
theorem validateChain_eq_ok_iff {bytes : Bytes} {hash : Hash} {count : Nat} :
    relay.validateChain bytes = .ok (hash, count) ↔
      ∃ first rest epochs validated,
        Header.decodeChain bytes = .ok (first :: rest) ∧
        minChainLength ≤ rest.length + 1 ∧ rest.length + 1 ≤ 2 * relay.proofLength ∧
        relay.Selects first.time epochs ∧
        ValidatedChain.ofHeaders relay.constants epochs (first :: rest) = .ok validated ∧
        validated.firstHash = hash ∧ validated.count = count := by
  unfold validateChain
  simp only [Checks.bind_eq_ok_iff, Checks.mapError_eq_ok_iff, Checks.refusal_eq_ok_iff,
    Checks.pure_eq_ok_iff, difficultiesAt_eq_ok_iff, latest_eq_ok_iff, Prod.mk.injEq,
    Nat.not_lt]
  constructor
  · intro succeeded
    rcases succeeded with ⟨_, _, headers, decoded, enough, within, epochs, selects, validated,
      valid, first, count⟩
    cases headers with
    | nil => cases enough
    | cons header rest =>
        exact ⟨header, rest, epochs, validated, decoded, enough, within, selects, valid, first,
          count⟩
  · intro conditions
    rcases conditions with ⟨header, rest, epochs, validated, decoded, enough, within, selects,
      valid, first, count⟩
    obtain ⟨current, last⟩ := selects.exists_last
    exact ⟨current, last, header :: rest, decoded, enough, within, epochs, selects, validated,
      valid, first, count⟩

/-- What is valid for the difficulties of a time is valid for those that proofs are held
against, unless the current one is one. -/
theorem Selects.ofHeaders_handedOut (selects : relay.Selects timestamp epochs)
    (notOne : relay.currentDifficulty ≠ 1) {first : Header} {rest : List Header}
    {validated : ValidatedChain}
    (valid : ValidatedChain.ofHeaders relay.constants epochs (first :: rest) = .ok validated) :
    ValidatedChain.ofHeaders relay.constants
      ⟨relay.previousDifficulty, relay.currentDifficulty⟩ (first :: rest) = .ok validated := by
  obtain ⟨linked, works, admitted, summarized⟩ := ValidatedChain.ofHeaders_eq_ok_iff.mp valid
  refine ValidatedChain.ofHeaders_eq_ok_iff.mpr ⟨linked, works, ?_, summarized⟩
  cases selects with
  | current records =>
      rw [currentDifficulty_of_last records] at notOne ⊢
      exact admitted.of_current notOne
  | @previous oldest previous current records =>
      have records : relay.epochs = (oldest ++ [previous]) ++ [current] := by
        rw [records, List.append_assoc, List.cons_append, List.nil_append]
      rw [currentDifficulty_of_last records, previousDifficulty_of_last records,
        List.getLast?_concat]
      exact admitted

/-- A chain that is validated while the current difficulty is not one passes with the
difficulties that proofs are held against, with the same first hash and count. -/
theorem validated_chains_suit_proofs {bytes : Bytes} {hash : Hash} {count : Nat}
    (notOne : relay.currentDifficulty ≠ 1)
    (validates : relay.validateChain bytes = .ok (hash, count)) :
    ∃ headers epochs validated, Header.decodeChain bytes = .ok headers ∧
      relay.epochDifficulties = .ok epochs ∧
      (relay.epochs.length = 1 → epochs.previous = 0) ∧
      ValidatedChain.ofHeaders relay.constants epochs headers = .ok validated ∧
      validated.firstHash = hash ∧ validated.count = count := by
  obtain ⟨first, rest, epochs, validated, decoded, _, _, selects, valid, sameHash, sameCount⟩ :=
    validateChain_eq_ok_iff.mp validates
  obtain ⟨current, last⟩ := selects.exists_last
  refine ⟨first :: rest, ⟨relay.previousDifficulty, relay.currentDifficulty⟩, validated, decoded,
    epochDifficulties_eq_ok_iff.mpr ⟨epochs_ne_nil_of_last last, rfl⟩, ?_,
    selects.ofHeaders_handedOut notOne valid, sameHash, sameCount⟩
  intro single
  obtain ⟨record, records⟩ := List.length_eq_one_iff.mp single
  have records : relay.epochs = [] ++ [record] := records
  exact previousDifficulty_of_last records

/-- The test relay after its retarget, with room for four headers in a chain. -/
def widerRelay : EpochRelay :=
  testRelay.run (testCalls ++ [.setProofLength "governance" 2])

/-- A chain that starts in the epoch before the last one and goes over to the last. -/
def transitChain : Bytes :=
  let second := Header.easy easyHeader.hash 2
  Header.encodeChain [easyHeader, second, ⟨1, second.hash, .zero, 2, 0x203FFFFF, 4⟩]

theorem widerRelay_validates_transitChain :
    widerRelay.currentDifficulty ≠ 1 ∧
      widerRelay.validateChain transitChain = .ok (easyHeader.hash, 3) ∧
      ∃ headers epochs validated, Header.decodeChain transitChain = .ok headers ∧
        widerRelay.epochDifficulties = .ok epochs ∧
        (widerRelay.epochs.length = 1 → epochs.previous = 0) ∧
        ValidatedChain.ofHeaders widerRelay.constants epochs headers = .ok validated ∧
        validated.firstHash = easyHeader.hash ∧ validated.count = 3 := by
  have notOne : widerRelay.currentDifficulty ≠ 1 := by decide +kernel
  have validates : widerRelay.validateChain transitChain = .ok (easyHeader.hash, 3) := by
    decide +kernel
  exact ⟨notOne, validates, validated_chains_suit_proofs notOne validates⟩

end HeaderRelay.EpochRelay
