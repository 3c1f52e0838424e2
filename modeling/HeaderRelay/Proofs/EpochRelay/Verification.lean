import HeaderRelay.Proofs.EpochRelay.Records
import HeaderRelay.Proofs.Verification

/-!
# Proofs held against an epoch relay

The relay hands two difficulties to the verification of proofs.  From the first
retarget on they are those of its last two records.  Before that there is only
one record, and the previous difficulty is zero: a number that no record stands
for, but that headers with targets above the reference target do have.  The main
theorem says exactly when the headers of an accepted proof have difficulties of
the records all the same.
-/

namespace HeaderRelay.EpochRelay

variable {constants : Network.Constants} {headers : List Header}

/-- Whether the difficulties of some headers are those of the last two of some
records: that of the one before the last up to a point, and that of the last one
from there on.  With a single record all of them are its difficulty. -/
def FollowRecords (constants : Network.Constants) (records : List EpochRecord)
    (headers : List Header) : Prop :=
  ∃ older current before after, records = older ++ [current] ∧ headers = before ++ after ∧
    (∀ header ∈ before, ∃ previous, older.getLast? = some previous ∧
      header.difficulty constants = previous.difficulty) ∧
    ∀ header ∈ after, header.difficulty constants = current.difficulty

theorem followRecords_singleton {record : EpochRecord} :
    FollowRecords constants [record] headers ↔
      ∀ header ∈ headers, header.difficulty constants = record.difficulty := by
  constructor
  · intro follow
    rcases follow with ⟨older, current, before, after, records, rfl, old, new⟩
    obtain ⟨rfl, rfl⟩ : [] = older ∧ record = current := by
      have none : [] ++ [record] = older ++ [current] := records
      simpa using List.append_inj' none rfl
    have noneOld : before = [] := by
      apply List.eq_nil_iff_forall_not_mem.mpr
      intro header member
      obtain ⟨previous, found, _⟩ := old header member
      cases found
    simpa [noneOld] using new
  · intro all
    exact ⟨[], record, [], headers, rfl, rfl, by simp, all⟩

theorem followRecords_append {older : List EpochRecord} {previous current : EpochRecord}
    (last : older.getLast? = some previous) :
    FollowRecords constants (older ++ [current]) headers ↔
      EpochDifficulties.Splits ⟨previous.difficulty, current.difficulty⟩
        (headers.map (Header.difficulty constants)) := by
  constructor
  · intro follow
    rcases follow with ⟨_, _, before, after, records, rfl, old, new⟩
    obtain ⟨rfl, same⟩ := List.append_inj' records rfl
    obtain rfl := List.singleton_inj.mp same
    refine ⟨before.map (Header.difficulty constants), after.map (Header.difficulty constants),
      List.map_append, ?_, by simpa using new⟩
    rw [List.forall_mem_map]
    intro header member
    obtain ⟨record, found, difficulty⟩ := old header member
    cases last.symm.trans found
    exact difficulty
  · intro splits
    rcases splits with ⟨_, _, split, old, new⟩
    obtain ⟨before, after, rfl, rfl, rfl⟩ := List.map_eq_append_iff.mp split
    rw [List.forall_mem_map] at old new
    exact ⟨older, current, before, after, rfl, rfl,
      fun header member => ⟨previous, last, old header member⟩, new⟩

/-! ## The difficulties that are handed out -/

variable {relay : EpochRelay} {older : List EpochRecord} {current : EpochRecord}

theorem currentDifficulty_of_last (records : relay.epochs = older ++ [current]) :
    relay.currentDifficulty = current.difficulty := by
  simp [currentDifficulty, records]

theorem previousDifficulty_of_last (records : relay.epochs = older ++ [current]) :
    relay.previousDifficulty = older.getLast?.elim 0 EpochRecord.difficulty := by
  simp [previousDifficulty, records]

theorem epochDifficulties_eq_ok_iff {epochs : EpochDifficulties} :
    relay.epochDifficulties = .ok epochs ↔
      relay.epochs ≠ [] ∧ ⟨relay.previousDifficulty, relay.currentDifficulty⟩ = epochs := by
  simp only [epochDifficulties, Checks.bind_eq_ok_iff, Checks.pure_eq_ok_iff, latest_eq_ok_iff,
    exists_and_right]
  rw [← List.getLast?_isSome, Option.isSome_iff_exists]

/-- With a single record, zero stands for the missing difficulty: headers that
pass may have that difficulty instead of the one recorded. -/
theorem followRecords_iff_of_splits_zero {record : EpochRecord} {first : Header}
    {rest : List Header}
    (splits : EpochDifficulties.Splits ⟨0, record.difficulty⟩
      ((first :: rest).map (Header.difficulty constants))) :
    FollowRecords constants [record] (first :: rest) ↔
      ¬(record.difficulty ≠ 0 ∧ first.difficulty constants = 0) := by
  rw [List.map_cons, EpochDifficulties.splits_cons] at splits
  obtain ⟨known, remaining⟩ := splits
  rw [followRecords_singleton, List.forall_mem_cons]
  constructor
  · rintro ⟨same, _⟩ ⟨nonzero, zero⟩
    exact nonzero (same ▸ zero)
  · intro excluded
    have same : first.difficulty constants = record.difficulty := by
      rcases known with zero | same
      · by_contra different
        exact excluded ⟨fun isZero => different (zero.trans isZero.symm), zero⟩
      · exact same
    refine ⟨same, ?_⟩
    simpa [EpochDifficulties.Remaining, same] using remaining

/-- The headers of an accepted proof follow the records of the relay, unless there
was no retarget yet, the difficulty of the only record is above zero and that of
the first header is zero. -/
theorem accepted_headers_follow_records {start : EpochRelay} (initial : start.IsInitial)
    (calls : List Call) {proof : Proof} {config : VerifierConfig} {validated : ValidatedChain}
    (accepts : proof.verify (start.run calls).anchor config = .ok validated)
    (notMinimal : ¬((start.run calls).previousDifficulty = 1 ∧
      (start.run calls).currentDifficulty = 1)) :
    ∃ first rest, proof.chain = .ok (first :: rest) ∧
      (FollowRecords (start.run calls).constants (start.run calls).epochs (first :: rest) ↔
        ¬((start.accepted calls).countP Call.isRetarget = 0 ∧
          (start.run calls).currentDifficulty ≠ 0 ∧
          first.difficulty (start.run calls).constants = 0)) := by
  have recorded := recorded_run initial calls
  generalize start.run calls = relay at *
  obtain ⟨first, rest, epochs, required, _, _, known, valid, _⟩ :=
    Proof.verify_eq_ok_iff.mp accepts
  obtain ⟨_, decoded, _⟩ := Proof.requiredChain_eq_ok_iff.mp required
  obtain ⟨ready, rfl⟩ := epochDifficulties_eq_ok_iff.mp known
  obtain ⟨_, _, admitted, _⟩ := ValidatedChain.ofHeaders_eq_ok_iff.mp valid
  have splits := admitted.resolve_left (by simpa [EpochDifficulties.areMinimal] using notMinimal)
  refine ⟨first, rest, decoded, ?_⟩
  obtain ⟨older, current, records⟩ := (List.eq_nil_or_concat' relay.epochs).resolve_left ready
  rw [currentDifficulty_of_last records, previousDifficulty_of_last records] at splits
  have counted : relay.epochs.length = 1 + (start.accepted calls).countP Call.isRetarget := by
    rw [recorded.count, recorded.started, if_neg ready]
  rw [records, currentDifficulty_of_last records]
  rw [records, List.length_append, List.length_singleton] at counted
  cases last : older.getLast? with
  | none =>
      obtain rfl := List.getLast?_eq_none_iff.mp last
      have none : (start.accepted calls).countP Call.isRetarget = 0 := by
        simpa using counted.symm
      simp only [List.nil_append, none, true_and]
      exact followRecords_iff_of_splits_zero splits
  | some previous =>
      have some : (start.accepted calls).countP Call.isRetarget ≠ 0 := by
        have := List.length_pos_of_mem (List.mem_of_getLast? last)
        omega
      rw [last] at splits
      simp only [some, false_and, not_false_eq_true, iff_true]
      exact (followRecords_append last).mpr splits

theorem testRelay_accepts_transition :
    (Proof.sole [easyHeader, harderHeader]).verify (testRelay.run testCalls).anchor ⟨2, true⟩ =
        .ok ⟨easyHeader.hash, harderHeader.hash, 2, 3⟩ ∧
      ∃ first rest, (Proof.sole [easyHeader, harderHeader]).chain = .ok (first :: rest) ∧
        (FollowRecords (testRelay.run testCalls).constants (testRelay.run testCalls).epochs
            (first :: rest) ↔
          ¬((testRelay.accepted testCalls).countP Call.isRetarget = 0 ∧
            (testRelay.run testCalls).currentDifficulty ≠ 0 ∧
            first.difficulty (testRelay.run testCalls).constants = 0)) := by
  have initial : testRelay.IsInitial := .new _ _
  have accepts : (Proof.sole [easyHeader, harderHeader]).verify (testRelay.run testCalls).anchor
      ⟨2, true⟩ = .ok ⟨easyHeader.hash, harderHeader.hash, 2, 3⟩ := by decide +kernel
  exact ⟨accepts, accepted_headers_follow_records initial testCalls accepts (by decide +kernel)⟩

/-- A header with the easiest target of the public networks, of difficulty one. -/
def referenceHeader : Header :=
  ⟨1, .zero, .zero, 1, 0x1D00FFFF, 0⟩

/-- A relay of the public network after genesis. -/
def startedRelay : EpochRelay :=
  run { constants := Network.bitcoin.constants, governance := "governance" }
    [.genesis "governance" referenceHeader.encode 2016 1]

/-- A header that is mined at once passes where difficulty one is on record. -/
theorem startedRelay_accepts_unrecorded_difficulty :
    ∃ first rest validated, (Proof.sole [easyHeader]).chain = .ok (first :: rest) ∧
      (Proof.sole [easyHeader]).verify startedRelay.anchor ⟨1, true⟩ = .ok validated ∧
      ¬(startedRelay.previousDifficulty = 1 ∧ startedRelay.currentDifficulty = 1) ∧
      ¬FollowRecords startedRelay.constants startedRelay.epochs (first :: rest) := by
  have records : startedRelay.epochs = [⟨1, referenceHeader.target, 1, 1⟩] := by
    decide +kernel
  refine ⟨easyHeader, [], ⟨easyHeader.hash, easyHeader.hash, 1, 0⟩, by decide +kernel,
    by decide +kernel, by decide +kernel, ?_⟩
  rw [records, followRecords_singleton]
  decide +kernel

end HeaderRelay.EpochRelay
