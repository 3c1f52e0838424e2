import HeaderRelay.Proofs.EpochRelay.Records

/-!
# Retarget chains are used once

A retarget asks for a boundary header that is younger than the last record, and
makes the time of that header the time of the last record.  That time never goes
back: no call takes a record away.  So a chain whose boundary header is not younger
than that of an earlier success is refused, also after the targets have returned
to what they were and the proof length was changed in between.
-/

namespace HeaderRelay.EpochRelay

variable {relay next : EpochRelay} {call : Call} {submitter : String} {chain : Bytes}
variable {boundary : Header} {time : UInt32}

/-- The header of a chain that would open the next epoch: the one whose position is
the proof length. -/
def boundary? (relay : EpochRelay) (chain : Bytes) : Option Header :=
  match Header.decodeChain chain with
  | .ok headers => headers[relay.proofLength]?
  | .error _ => none

theorem boundary?_of_decoded {headers : List Header}
    (decoded : Header.decodeChain chain = .ok headers) :
    relay.boundary? chain = headers[relay.proofLength]? := by
  simp only [boundary?, decoded]

/-- The boundary header depends on nothing but the proof length. -/
theorem boundary?_congr (sameLength : next.proofLength = relay.proofLength) :
    next.boundary? chain = relay.boundary? chain := by
  simp only [boundary?, sameLength]

/-- Whether the last record is of a time or a later one. -/
def HasReached (relay : EpochRelay) (time : UInt32) : Prop :=
  ∃ current, relay.epochs.getLast? = some current ∧ time ≤ current.timestamp

/-- Whether a relay refuses a chain, whoever hands it in, and stays as it is. -/
def Refuses (relay : EpochRelay) (chain : Bytes) : Prop :=
  ∀ submitter, ∃ error, relay.step (.retarget submitter chain) = (relay, .error error)

/-- A chain that a retarget takes opens an epoch at a time not reached before. -/
theorem Succeeds.opens_later (succeeds : relay.Succeeds (.retarget submitter chain) next) :
    ∃ boundary, relay.boundary? chain = some boundary ∧
      ¬relay.HasReached boundary.time ∧ next.HasReached boundary.time := by
  cases succeeds with
  | @retarget _ _ current headers boundary last _ decoded _ straddles _ =>
      refine ⟨boundary, ?_, ?_, ?_⟩
      · rw [boundary?_of_decoded decoded]
        exact straddles.at_boundary
      · rintro ⟨record, isLast, reached⟩
        cases last.symm.trans isLast
        exact UInt32.not_le.mpr straddles.later reached
      · exact ⟨successor relay.constants current boundary, List.getLast?_concat,
          UInt32.le_refl _⟩
  | query asked => cases asked

/-- No call that succeeds takes the last record back behind a time. -/
theorem HasReached.of_succeeds (reached : relay.HasReached time)
    (succeeds : relay.Succeeds call next) : next.HasReached time := by
  obtain ⟨current, last, since⟩ := reached
  cases succeeds with
  | genesis _ fresh =>
      simp [fresh] at last
  | @retarget _ _ record headers boundary isLast _ _ _ straddles =>
      cases last.symm.trans isLast
      exact ⟨successor relay.constants current boundary, List.getLast?_concat,
        UInt32.le_trans since (UInt32.le_of_lt straddles.later)⟩
  | setProofLength | setAuthorizationRequired | authorize | deauthorize | takeEvents | query =>
      exact ⟨current, last, since⟩

theorem HasReached.run (reached : relay.HasReached time) (calls : List Call) :
    (relay.run calls).HasReached time :=
  run_induction (fun relay _ => relay.HasReached time) reached
    (fun reached succeeds => reached.of_succeeds succeeds) calls

theorem HasReached.refuses (found : relay.boundary? chain = some boundary)
    (reached : relay.HasReached boundary.time) : relay.Refuses chain := by
  intro submitter
  cases answered : (relay.step (.retarget submitter chain)).2 with
  | ok answer =>
      obtain ⟨other, opened, later, _⟩ := (succeeds_of_step answered).opens_later
      cases found.symm.trans opened
      exact absurd reached later
  | error error =>
      exact ⟨error, Prod.ext (step_fst_of_error answered) answered⟩

/-- After a retarget that succeeded, whatever was called since, a chain is refused if
its boundary header is as old as that of the retarget, or older. In particular the
same chain is refused whenever the proof length is the same. -/
theorem retarget_never_repeats (start : EpochRelay) (before : List Call) {answer : Answer}
    (retargeted : ((start.run before).step (.retarget submitter chain)).2 = .ok answer) :
    ∃ boundary, (start.run before).boundary? chain = some boundary ∧
      ∀ between later, start.run (before ++ .retarget submitter chain :: between) = later →
        (∀ other header, later.boundary? other = some header → header.time ≤ boundary.time →
          later.Refuses other) ∧
        (later.proofLength = (start.run before).proofLength → later.Refuses chain) := by
  obtain ⟨boundary, found, _, opened⟩ := (succeeds_of_step retargeted).opens_later
  refine ⟨boundary, found, ?_⟩
  intro between later ran
  have reached : later.HasReached boundary.time := by
    rw [← ran, run_append, run_cons]
    exact opened.run between
  constructor
  · intro other header otherFound older
    obtain ⟨current, last, since⟩ := reached
    exact HasReached.refuses otherFound ⟨current, last, UInt32.le_trans older since⟩
  · intro sameLength
    exact HasReached.refuses ((boundary?_congr sameLength).trans found) reached

/-- A chain from the easiest target to half of it. -/
def usedChain : Bytes :=
  Header.encodeChain [easyHeader, harderHeader]

/-- A header on top of the harder one, with the easiest target again. -/
def easedHeader : Header :=
  ⟨1, harderHeader.hash, .zero, 3, 0x207FFFFF, 6⟩

/-- A relay of the test network after genesis. -/
def easyRelay : EpochRelay :=
  testRelay.run [.genesis "governance" easyHeader.encode 2016 1]

/-- A retarget back to the first target, and a proof length that is changed and
changed back. -/
def returningCalls : List Call :=
  [.retarget "anyone" (Header.encodeChain [harderHeader, easedHeader]),
    .setProofLength "governance" 2, .setProofLength "governance" 1]

/-- The used chain fits a relay whose target and proof length are what they were;
only its time is against it. -/
theorem easyRelay_refuses_usedChain :
    (easyRelay.step (.retarget "anyone" usedChain)).2 = .ok (.difficulty 2) ∧
      easyRelay.proofLength = 1 ∧
      (easyRelay.run (.retarget "anyone" usedChain :: returningCalls)).proofLength = 1 ∧
      (easyRelay.run (.retarget "anyone" usedChain :: returningCalls)).epochs.map
        EpochRecord.target = [easyHeader.target, harderHeader.target, easyHeader.target] ∧
      (easyRelay.run (.retarget "anyone" usedChain :: returningCalls)).Refuses usedChain := by
  have retargeted : (easyRelay.step (.retarget "anyone" usedChain)).2 =
      .ok (.difficulty 2) := by decide +kernel
  have length : easyRelay.proofLength = 1 := by decide +kernel
  have returned :
      (easyRelay.run (.retarget "anyone" usedChain :: returningCalls)).proofLength = 1 ∧
      (easyRelay.run (.retarget "anyone" usedChain :: returningCalls)).epochs.map
        EpochRecord.target = [easyHeader.target, harderHeader.target, easyHeader.target] := by
    decide +kernel
  refine ⟨retargeted, length, returned.1, returned.2, ?_⟩
  obtain ⟨boundary, _, refuses⟩ := retarget_never_repeats easyRelay [] retargeted
  exact (refuses returningCalls _ rfl).2 (returned.1.trans length.symm)

end HeaderRelay.EpochRelay
