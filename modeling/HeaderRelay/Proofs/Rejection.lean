import HeaderRelay.Proofs.EpochRelay.Records
import HeaderRelay.Proofs.Verification
import HeaderRelay.Proofs.WindowRelay.Refinement

/-!
# Which rejections are final

A proof is held against an anchor in one sequence of checks, and the first that fails
gives the error.  Some checks ask the anchor: what it knows, which headers are on its
chain, which difficulties it accepts.  All others look at the proof alone.  An error of
theirs condemns the proof under every anchor of the same network, whichever check
fails first there.
-/

namespace HeaderRelay

/-- Whether a proof that failed so may be accepted by another anchor: the relay did not
know enough, or the difficulties were not those that it accepts. -/
def Error.dependsOnAnchor : Error → Bool
  | .relayState _ => true
  | .consensus (.wrongEpochDifficulty _ _) => true
  | .consensus (.outOfOrderTransition _) => true
  | _ => false

/-! ## Chains -/

namespace ValidatedChain

variable {constants : Network.Constants} {epochs : EpochDifficulties}

namespace Progress

variable {progress : Progress}

/-- A header that is linked and has valid work fails for its difficulty alone. -/
theorem dependsOnAnchor_of_next {header : Header} {cause : ConsensusError}
    (joined : header.previous = progress.lastHash) (work : header.hasValidWork = true)
    (failed : next constants epochs progress header = .error cause) :
    (cause : Error).dependsOnAnchor = true := by
  have met : header.target.isMetBy header.hash = true := work
  simp only [next, joined, met, ne_eq, not_true_eq_false, Bool.not_true, Bool.false_eq_true,
    if_false] at failed
  split at failed
  · cases failed
  · split at failed
    · cases failed
      rfl
    · split at failed
      · cases failed
        rfl
      · cases failed

/-- So does the first header that fails, if all of them are linked and have valid work. -/
theorem dependsOnAnchor_of_foldlM {headers : List Header} {cause : ConsensusError}
    (joined : ∀ first ∈ headers.head?, first.previous = progress.lastHash)
    (linked : Header.Linked headers) (works : ∀ header ∈ headers, header.hasValidWork = true)
    (failed : headers.foldlM (next constants epochs) progress = .error cause) :
    (cause : Error).dependsOnAnchor = true := by
  induction headers generalizing progress with
  | nil => cases failed
  | cons header rest ih =>
      obtain ⟨work, works⟩ := List.forall_mem_cons.mp works
      obtain ⟨above, linked⟩ := Header.linked_cons.mp linked
      rw [List.foldlM_cons, Checks.bind_eq_error_iff] at failed
      rcases failed with here | ⟨_, passed, later⟩
      · exact dependsOnAnchor_of_next (joined header rfl) work here
      · obtain ⟨_, _, _, rfl⟩ := next_eq_ok_iff.mp passed
        exact ih above linked works later

end Progress

/-- A linked chain with valid work throughout fails for its difficulties alone. -/
theorem dependsOnAnchor_of_ofHeaders {first : Header} {rest : List Header} {error : Error}
    (linked : Header.Linked (first :: rest))
    (works : ∀ header ∈ first :: rest, header.hasValidWork = true)
    (failed : ofHeaders constants epochs (first :: rest) = .error error) :
    error.dependsOnAnchor = true := by
  rw [ofHeaders] at failed
  split at failed
  · cases failed
  next cause stopped =>
    cases failed
    exact Progress.dependsOnAnchor_of_foldlM (by simp [Progress.start]) linked works stopped

end ValidatedChain

/-! ## Anchors -/

namespace Anchor

/-- The anchors there are: the relays of both kinds, in any state, and those that know
two difficulties and nothing else. -/
inductive Known : Anchor → Prop where
  | epochRelay (relay : EpochRelay) : Known relay.anchor
  | windowRelay (relay : WindowRelay) : Known relay.anchor
  | fixed (constants : Network.Constants) (epochs : EpochDifficulties) :
      Known (fixed constants epochs)

/-- The errors of an anchor itself are about what it knows. -/
structure AnswersByState (anchor : Anchor) : Prop where
  epochs : ∀ {error}, anchor.epochs = .error error → error.dependsOnAnchor = true
  checkHeaders : ∀ {headers error}, anchor.checkHeaders headers = .error error →
    error.dependsOnAnchor = true

end Anchor

theorem EpochRelay.anchor_answersByState (relay : EpochRelay) : relay.anchor.AnswersByState where
  epochs := by
    intro error failed
    have unknown : relay.latest = .error error := by
      rcases Checks.bind_eq_error_iff.mp failed with first | ⟨_, _, second⟩
      · exact first
      · cases second
    unfold latest at unknown
    split at unknown
    · cases unknown
    · cases unknown
      rfl
  checkHeaders := nofun

namespace WindowRelay

variable {relay : WindowRelay} {error : Error}

theorem dependsOnAnchor_of_tracked (failed : relay.tracked = .error error) :
    error.dependsOnAnchor = true := by
  unfold tracked at failed
  split at failed
  · cases failed
  · cases failed
    rfl

theorem dependsOnAnchor_of_checkRecorded {height : Height} {header : Header}
    (failed : relay.checkRecorded height header = .error error) :
    error.dependsOnAnchor = true := by
  unfold checkRecorded at failed
  split at failed
  · cases failed
    rfl
  · split at failed
    · cases failed
    · cases failed
      rfl

theorem anchor_answersByState (relay : WindowRelay) : relay.anchor.AnswersByState where
  epochs := by
    intro error failed
    change relay.tracked.map _ = _ at failed
    cases known : relay.tracked with
    | ok chain =>
        rw [known] at failed
        cases failed
    | error cause =>
        rw [known] at failed
        cases failed
        exact dependsOnAnchor_of_tracked known
  checkHeaders := by
    intro headers error failed
    rcases Checks.bind_eq_error_iff.mp failed with unknown | ⟨chain, _, apart⟩
    · exact dependsOnAnchor_of_tracked unknown
    · split at apart
      · cases apart
      · split at apart
        · cases apart
          rfl
        · obtain ⟨_, _, other⟩ := Checks.exists_of_forM_eq_error apart
          exact dependsOnAnchor_of_checkRecorded other

end WindowRelay

namespace Anchor

theorem Known.answersByState {anchor : Anchor} (known : anchor.Known) :
    anchor.AnswersByState := by
  cases known with
  | epochRelay relay => exact relay.anchor_answersByState
  | windowRelay relay => exact relay.anchor_answersByState
  | fixed constants epochs => exact ⟨nofun, nofun⟩

end Anchor

/-! ## Proofs -/

namespace Proof

variable {proof : Proof} {config : VerifierConfig} {first second : Anchor} {error : Error}
variable {validated : ValidatedChain}

/-- What one anchor accepts, another one of the same network rejects only for what
depends on the anchor. -/
theorem dependsOnAnchor_of_accepted (answers : first.AnswersByState)
    (sameNetwork : first.constants = second.constants)
    (accepted : proof.verify second config = .ok validated)
    (rejected : proof.verify first config = .error error) : error.dependsOnAnchor = true := by
  obtain ⟨lowest, rest, _, required, included, _, _, valid, shown⟩ := verify_eq_ok_iff.mp accepted
  obtain ⟨linked, works, _, rfl⟩ := ValidatedChain.ofHeaders_eq_ok_iff.mp valid
  rw [← sameNetwork] at shown
  simp only [verify, required, included, Checks.bind_eq_error_iff, Except.ok.injEq, reduceCtorEq,
    false_or, exists_eq_left', Checks.exists_unit_iff, true_and] at rejected
  rcases rejected with apart | ⟨_, unknown | ⟨epochs, _, unfit | ⟨observed, judged, short⟩⟩⟩
  · exact answers.checkHeaders apart
  · exact answers.epochs unknown
  · exact ValidatedChain.dependsOnAnchor_of_ofHeaders linked works unfit
  · -- The work is the same under both anchors, so it is not too little.
    obtain ⟨_, _, _, rfl⟩ := ValidatedChain.ofHeaders_eq_ok_iff.mp judged
    split at short
    next few => exact absurd few.2 (BitVec.not_lt.mpr (shown few.1))
    next => cases short

/-- A proof that was rejected for its own content is rejected under every anchor of the
same network, of whatever kind. Only what a relay does not know and the difficulties that
it accepts can make one anchor accept what another one rejects. -/
theorem rejections_are_final (known : first.Known)
    (sameNetwork : first.constants = second.constants)
    (rejected : proof.verify first config = .error error)
    (condemned : error.dependsOnAnchor = false) :
    ∃ other, proof.verify second config = .error other := by
  cases judged : proof.verify second config with
  | error other => exact ⟨other, rfl⟩
  | ok validated =>
      have depends :=
        dependsOnAnchor_of_accepted known.answersByState sameNetwork judged rejected
      exact absurd depends (by simp [condemned])

/-- A header that does not meet its target. -/
def lazyHeader : Header :=
  .easy .zero 1

/-- What lacks work under an epoch relay is no better off under a window relay that does
not know any block yet, and says so first. What is wrong with two valid headers depends
on whom one asks. -/
theorem sole_lazyHeader_is_rejected :
    let epochRelay := (EpochRelay.testRelay.run EpochRelay.testCalls).anchor
    let valid := sole [EpochRelay.easyHeader, EpochRelay.harderHeader]
    ((sole [lazyHeader]).verify epochRelay ⟨1, true⟩ =
          .error (ConsensusError.insufficientWork 0) ∧
        (ConsensusError.insufficientWork 0 : Error).dependsOnAnchor = false ∧
        ∃ other, (sole [lazyHeader]).verify WindowRelay.testRelay.anchor ⟨1, true⟩ =
          .error other) ∧
      (∃ validated, valid.verify epochRelay ⟨2, true⟩ = .ok validated) ∧
      valid.verify EpochRelay.testRelay.anchor ⟨2, true⟩ =
        .error RelayStateError.notInitialized ∧
      valid.verify (.fixed Network.regtest.constants ⟨3, 3⟩) ⟨2, true⟩ =
        .error (ConsensusError.wrongEpochDifficulty 0 1) ∧
      valid.verify (.fixed Network.regtest.constants ⟨2, 1⟩) ⟨2, true⟩ =
        .error (ConsensusError.outOfOrderTransition 1) := by
  have rejected : (sole [lazyHeader]).verify (EpochRelay.testRelay.run EpochRelay.testCalls).anchor
      ⟨1, true⟩ = .error (ConsensusError.insufficientWork 0) := by
    decide +kernel
  have sameNetwork : (EpochRelay.testRelay.run EpochRelay.testCalls).anchor.constants =
      WindowRelay.testRelay.anchor.constants := by
    decide +kernel
  have final := rejections_are_final (.epochRelay _) sameNetwork rejected rfl
  have accepted : (sole [EpochRelay.easyHeader, EpochRelay.harderHeader]).verify
      (EpochRelay.testRelay.run EpochRelay.testCalls).anchor ⟨2, true⟩ =
        .ok ⟨EpochRelay.easyHeader.hash, EpochRelay.harderHeader.hash, 2, 3⟩ := by
    decide +kernel
  exact ⟨⟨rejected, rfl, final⟩, ⟨_, accepted⟩, by decide +kernel, by decide +kernel,
    by decide +kernel⟩

end Proof

end HeaderRelay
