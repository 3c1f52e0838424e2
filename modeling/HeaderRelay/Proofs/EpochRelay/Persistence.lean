import HeaderRelay.Proofs.EpochRelay.Replay
import HeaderRelay.Proofs.EpochRelay.Verification

/-!
# How long accepted proofs stay accepted

A retarget moves the current difficulty of a relay to the place of the previous one.
Headers that had the current difficulty then have the previous one, which is as good
for them: no header among them has the new difficulty before one that has the old, and
if the new difficulty is the old one, or switches the rules off, even less is asked.
So the proofs of the current epoch outlive one retarget, whatever else is called before
and after it.
-/

namespace HeaderRelay.EpochRelay

variable {relay next : EpochRelay} {call : Call} {proof : Proof} {config : VerifierConfig}
  {validated : ValidatedChain} {headers : List Header}

/-- After genesis, the calls that add a record are the retargets. -/
theorem Succeeds.exists_epochs_append (succeeds : relay.Succeeds call next)
    (ready : relay.epochs ≠ []) :
    ∃ added, next.epochs = relay.epochs ++ added ∧
      added.length = [call].countP Call.isRetarget := by
  cases succeeds with
  | genesis governed fresh => exact absurd fresh ready
  | retarget => exact ⟨_, rfl, rfl⟩
  | setProofLength | setAuthorizationRequired | authorize | deauthorize | takeEvents =>
      exact ⟨[], (List.append_nil _).symm, rfl⟩
  | query asked =>
      exact ⟨[], (List.append_nil _).symm, by simp [Call.isRetarget_of_isQuery asked]⟩

/-- A relay that is ready gets one record for every retarget that succeeds. -/
theorem exists_epochs_run_append (ready : relay.epochs ≠ []) (calls : List Call) :
    ∃ added, (relay.run calls).epochs = relay.epochs ++ added ∧
      added.length = (relay.accepted calls).countP Call.isRetarget := by
  apply run_induction (fun later past => ∃ added, later.epochs = relay.epochs ++ added ∧
    added.length = past.countP Call.isRetarget) ⟨[], (List.append_nil _).symm, rfl⟩
  intro later next past call grown succeeds
  obtain ⟨added, grown, counted⟩ := grown
  obtain ⟨last, grownAgain, countedAgain⟩ :=
    succeeds.exists_epochs_append (by simp [grown, ready])
  refine ⟨added ++ last, ?_, ?_⟩
  · rw [grownAgain, grown, List.append_assoc]
  · rw [List.length_append, counted, countedAgain, List.countP_append]

/-- One retarget makes the current difficulty the previous one. -/
theorem previousDifficulty_run (ready : relay.epochs ≠ []) {later : List Call}
    (once : (relay.accepted later).countP Call.isRetarget = 1) :
    (relay.run later).previousDifficulty = relay.currentDifficulty := by
  obtain ⟨added, grown, counted⟩ := exists_epochs_run_append ready later
  obtain ⟨record, rfl⟩ := List.length_eq_one_iff.mp (counted.trans once)
  rw [previousDifficulty_of_last grown, currentDifficulty]

/-- A proof whose headers all have the current difficulty is accepted after one more
retarget, with the same result, whatever other calls are made before and after it and
whichever of them fail. -/
theorem current_proofs_outlive_one_retarget
    (accepts : proof.verify relay.anchor config = .ok validated)
    (decoded : proof.chain = .ok headers)
    (recent : ∀ header ∈ headers, header.difficulty relay.constants = relay.currentDifficulty)
    (later : List Call) (once : (relay.accepted later).countP Call.isRetarget = 1) :
    proof.verify (relay.run later).anchor config = .ok validated := by
  obtain ⟨_, _, _, _, _, _, known, _⟩ := Proof.verify_eq_ok_iff.mp accepts
  obtain ⟨ready, _⟩ := epochDifficulties_eq_ok_iff.mp known
  have readyLater : (relay.run later).epochs ≠ [] := by
    obtain ⟨added, grown, _⟩ := exists_epochs_run_append ready later
    simp [grown, ready]
  have knownLater := epochDifficulties_eq_ok_iff.mpr ⟨readyLater, rfl⟩
  have admits : EpochDifficulties.Admits relay.constants
      ⟨(relay.run later).previousDifficulty, (relay.run later).currentDifficulty⟩ headers := by
    rw [previousDifficulty_run ready once]
    exact .of_previous recent
  exact Proof.verify_eq_ok_of_admits accepts decoded (constants_run relay later) rfl knownLater
    admits

/-- A retarget among calls of all sorts, some of which fail. -/
def busyCalls : List Call :=
  [.setProofLength "anyone" 2, .authorize "governance" "submitter",
    .setAuthorizationRequired "governance" true, .retarget "anyone" usedChain,
    .retarget "submitter" usedChain, .takeEvents, .retarget "submitter" usedChain,
    .genesis "governance" easyHeader.encode 2016 1, .setProofLength "governance" 2]

theorem easyRelay_accepts_after_retarget :
    (easyRelay.accepted busyCalls).countP Call.isRetarget = 1 ∧
      (easyRelay.run busyCalls).epochDifficulties = .ok ⟨1, 2⟩ ∧
      (Proof.sole [easyHeader]).verify (easyRelay.run busyCalls).anchor ⟨1, true⟩ =
        .ok ⟨easyHeader.hash, easyHeader.hash, 1, 1⟩ := by
  have accepts : (Proof.sole [easyHeader]).verify easyRelay.anchor ⟨1, true⟩ =
      .ok ⟨easyHeader.hash, easyHeader.hash, 1, 1⟩ := by decide +kernel
  have decoded : (Proof.sole [easyHeader]).chain = .ok [easyHeader] := by decide +kernel
  have once : (easyRelay.accepted busyCalls).countP Call.isRetarget = 1 := by decide +kernel
  exact ⟨once, by decide +kernel,
    current_proofs_outlive_one_retarget accepts decoded (by decide +kernel) busyCalls once⟩

end HeaderRelay.EpochRelay
