import HeaderRelay.Proofs.Encoding
import HeaderRelay.Proofs.Header.Verdict
import HeaderRelay.Proofs.Target
import HeaderRelay.Proofs.Verification
import Mathlib.Algebra.Order.BigOperators.Group.List
import Mathlib.Algebra.Order.Ring.Nat

/-!
# Accumulated difficulty in numbers

The difficulties of a chain are summed in a word, which may wrap, and a proof is asked
for a product that is held at the largest word.  Neither happens while the number of
headers times the reference target is less than `2 ^ 256`, since no valid header has a
zero target and no other target has a difficulty above the reference.  The reference of
every network but regtest leaves room for as many headers as a 32-bit count can tell.

What a proof is asked for comes from the difficulty of its first header.  That is the
difficulty of the epoch, except when both epochs have difficulty one: then the header
may have any, and with none at all it asks for nothing.
-/

namespace HeaderRelay

/-! ## Words and numbers -/

theorem Target.toNat_difficulty_le {target reference : Target} (nonzero : target ≠ 0) :
    (target.difficulty reference).toNat ≤ reference.toNat := by
  rw [toNat_difficulty, if_neg nonzero]
  exact Nat.div_le_self _ _

theorem Difficulty.toNat_saturatingTimes (difficulty : Difficulty) (count : UInt32) :
    (difficulty.saturatingTimes count).toNat =
      min (difficulty.toNat * count.toNat) (2 ^ 256 - 1) := by
  rw [saturatingTimes, BitVec.toNat_ofNat, BitVec.toNat_allOnes]
  exact Nat.mod_eq_of_lt (Nat.lt_of_le_of_lt (Nat.min_le_right _ _) (by decide))

namespace Network.Constants

/-- Whether a number of headers cannot have more difficulty than fits in a word. -/
def HasRoom (constants : Constants) (count : Nat) : Prop :=
  count * constants.reference.toNat < 2 ^ 256

end Network.Constants

theorem Network.hasRoom {network : Network} (notRegtest : network ≠ .regtest) {count : Nat}
    (few : count < 2 ^ 32) : network.constants.HasRoom count := by
  have reference : network.constants.reference.toNat ≤ 2 ^ 224 := by
    cases network with
    | regtest => exact absurd rfl notRegtest
    | bitcoin | testnet | testnet4 | signet => decide
  calc count * network.constants.reference.toNat
      ≤ count * 2 ^ 224 := Nat.mul_le_mul_left _ reference
    _ < 2 ^ 32 * 2 ^ 224 := Nat.mul_lt_mul_of_pos_right few (by decide)
    _ = 2 ^ 256 := by decide

namespace Header

variable {constants : Network.Constants} {headers : List Header}

/-- The difficulties of some headers, added as numbers. -/
def totalDifficulty (constants : Network.Constants) (headers : List Header) : Nat :=
  (headers.map fun header => (header.difficulty constants).toNat).sum

theorem totalDifficulty_cons (header : Header) (rest : List Header) :
    totalDifficulty constants (header :: rest) =
      (header.difficulty constants).toNat + totalDifficulty constants rest :=
  List.sum_cons

/-- How often the target of a header goes into the reference, as a number. -/
def quotient (constants : Network.Constants) (header : Header) : Nat :=
  constants.reference.toNat / header.target.toNat

theorem toNat_difficulty {header : Header} (nonzero : header.target ≠ 0) :
    (header.difficulty constants).toNat = header.quotient constants := by
  rw [difficulty, Target.toNat_difficulty, if_neg nonzero, quotient]

/-- Where there is room for some headers, there is room for as many with the difficulty of
any that has one. -/
theorem mul_difficulty_lt {header : Header} {count : Nat} (nonzero : header.target ≠ 0)
    (room : constants.HasRoom count) : count * (header.difficulty constants).toNat < 2 ^ 256 :=
  Nat.lt_of_le_of_lt (Nat.mul_le_mul_left count (Target.toNat_difficulty_le nonzero)) room

theorem totalDifficulty_eq (nonzero : ∀ header ∈ headers, header.target ≠ 0) :
    totalDifficulty constants headers = (headers.map (quotient constants)).sum :=
  congrArg List.sum
    (List.map_congr_left fun header member => toNat_difficulty (nonzero header member))

theorem totalDifficulty_le (nonzero : ∀ header ∈ headers, header.target ≠ 0) :
    totalDifficulty constants headers ≤ headers.length * constants.reference.toNat := by
  have bounded := List.sum_le_card_nsmul
    (headers.map fun header => (header.difficulty constants).toNat) constants.reference.toNat
  rw [List.length_map, List.forall_mem_map, Nat.nsmul_eq_mul] at bounded
  exact bounded fun header member => Target.toNat_difficulty_le (nonzero header member)

theorem le_totalDifficulty {least : Nat}
    (bounded : ∀ header ∈ headers, least ≤ (header.difficulty constants).toNat) :
    headers.length * least ≤ totalDifficulty constants headers := by
  have summed := List.card_nsmul_le_sum
    (headers.map fun header => (header.difficulty constants).toNat) least
  rw [List.length_map, List.forall_mem_map, Nat.nsmul_eq_mul] at summed
  exact summed bounded

theorem totalDifficulty_lt {most : Nat}
    (bounded : ∀ header ∈ headers, (header.difficulty constants).toNat ≤ most)
    (lesser : ∃ header ∈ headers, (header.difficulty constants).toNat < most) :
    totalDifficulty constants headers < headers.length * most := by
  have summed := List.sum_lt_sum (fun header : Header => (header.difficulty constants).toNat)
    (fun _ => most) bounded lesser
  rwa [List.map_const', List.sum_replicate, Nat.nsmul_eq_mul] at summed

end Header

namespace ValidatedChain

variable {constants : Network.Constants} {epochs : EpochDifficulties} {headers : List Header}
  {validated : ValidatedChain}

theorem target_ne_zero_of_ofHeaders (valid : ofHeaders constants epochs headers = .ok validated) :
    ∀ header ∈ headers, header.target ≠ 0 := by
  have acceptable := exists_ofHeaders_eq_ok_iff.mp ⟨validated, valid⟩
  exact fun header member => (acceptable.works header member).1

/-- The word is the sum, less what has wrapped. -/
theorem toNat_accumulated (valid : ofHeaders constants epochs headers = .ok validated) :
    validated.accumulated.toNat = Header.totalDifficulty constants headers % 2 ^ 256 :=
  (describes_of_ofHeaders valid).accumulated

theorem toNat_accumulated_le (valid : ofHeaders constants epochs headers = .ok validated) :
    validated.accumulated.toNat ≤ Header.totalDifficulty constants headers :=
  toNat_accumulated valid ▸ Nat.mod_le _ _

theorem toNat_accumulated_of_hasRoom (valid : ofHeaders constants epochs headers = .ok validated)
    (room : constants.HasRoom headers.length) :
    validated.accumulated.toNat = Header.totalDifficulty constants headers := by
  rw [toNat_accumulated valid]
  apply Nat.mod_eq_of_lt
  exact Nat.lt_of_le_of_lt (Header.totalDifficulty_le (target_ne_zero_of_ofHeaders valid)) room

end ValidatedChain

namespace Proof

variable {anchor : Anchor} {proof : Proof} {count : UInt32} {validated : ValidatedChain}
  {first : Header} {rest : List Header} {config : VerifierConfig}

/-! ## The last check -/

theorem toNat_requiredWork {constants : Network.Constants} :
    (requiredWork constants config first).toNat =
      min ((first.difficulty constants).toNat * config.requiredConfirmations.toNat)
        (2 ^ 256 - 1) :=
  Difficulty.toNat_saturatingTimes _ _

theorem length_of_verify (decoded : proof.chain = .ok (first :: rest))
    (accepted : proof.verify anchor config = .ok validated) :
    (first :: rest).length = config.requiredConfirmations.toNat := by
  obtain ⟨_, _, _, enough, _⟩ := verify_eq_ok_iff.mp accepted
  obtain ⟨_, redecoded, counted⟩ := requiredChain_eq_ok_iff.mp enough
  cases decoded.symm.trans redecoded
  exact counted

/-- What is accepted under enforcement is accepted without it. -/
theorem verify_of_enforced (accepted : proof.verify anchor ⟨count, true⟩ = .ok validated) :
    proof.verify anchor ⟨count, false⟩ = .ok validated := by
  obtain ⟨first, rest, epochs, enough, included, anchored, known, valid, _⟩ :=
    verify_eq_ok_iff.mp accepted
  exact verify_eq_ok_iff.mpr ⟨first, rest, epochs,
    requiredChain_eq_ok_iff.mpr (requiredChain_eq_ok_iff.mp enough), included, anchored, known,
    valid, nofun⟩

/-- Enforcement adds one check, behind all others. -/
theorem verify_enforced (decoded : proof.chain = .ok (first :: rest))
    (accepted : proof.verify anchor ⟨count, false⟩ = .ok validated) :
    proof.verify anchor ⟨count, true⟩ =
      let required := requiredWork anchor.constants ⟨count, true⟩ first
      if required ≤ validated.accumulated then .ok validated
      else .error (ConsensusError.insufficientAccumulatedDifficulty required
        validated.accumulated) := by
  obtain ⟨other, others, epochs, enough, included, anchored, known, valid, _⟩ :=
    verify_eq_ok_iff.mp accepted
  obtain ⟨_, redecoded, _⟩ := requiredChain_eq_ok_iff.mp enough
  cases decoded.symm.trans redecoded
  have sameCount : proof.requiredChain ⟨count, true⟩ = .ok (first, rest) :=
    requiredChain_eq_ok_iff.mpr (requiredChain_eq_ok_iff.mp enough)
  simp only [verify, sameCount, included, anchored, known, valid, bind, Except.bind, true_and,
    ← BitVec.not_le, ite_not]
  rfl

/-- Where there is room for the headers, nothing is cut off what they are asked for. -/
theorem toNat_requiredWork_of_hasRoom {constants : Network.Constants}
    (nonzero : first.target ≠ 0) (room : constants.HasRoom config.requiredConfirmations.toNat) :
    (requiredWork constants config first).toNat =
      config.requiredConfirmations.toNat * first.quotient constants := by
  have fits := Header.mul_difficulty_lt nonzero room
  rw [toNat_requiredWork, Nat.mul_comm, Nat.min_eq_left (Nat.le_sub_one_of_lt fits),
    Header.toNat_difficulty nonzero]

/-- Where there is room for the headers, the difficulty that is told of a valid chain is
the sum of the quotients of the reference and the targets, none of which is zero.  A proof
that passes all other checks is asked for as many times the difficulty of its first header
as it has headers, and is accepted exactly when the sum is as large.  There is room for
all numbers of headers below `2 ^ 32` on every network but regtest. -/
theorem accumulation_is_exact {constants : Network.Constants} {epochs : EpochDifficulties}
    (room : constants.HasRoom (first :: rest).length ∨
      ∃ network : Network, network ≠ .regtest ∧ constants = network.constants ∧
        (first :: rest).length < 2 ^ 32)
    (valid : ValidatedChain.ofHeaders constants epochs (first :: rest) = .ok validated) :
    (∀ header ∈ first :: rest, header.target ≠ 0) ∧
      validated.accumulated.toNat = ((first :: rest).map (Header.quotient constants)).sum ∧
      ∀ (anchor : Anchor) (proof : Proof) (count : UInt32), anchor.constants = constants →
        proof.chain = .ok (first :: rest) → proof.verify anchor ⟨count, false⟩ = .ok validated →
          (requiredWork constants ⟨count, true⟩ first).toNat =
              count.toNat * first.quotient constants ∧
            proof.verify anchor ⟨count, true⟩ =
              if count.toNat * first.quotient constants ≤
                  ((first :: rest).map (Header.quotient constants)).sum then
                .ok validated
              else
                .error (ConsensusError.insufficientAccumulatedDifficulty
                  (requiredWork constants ⟨count, true⟩ first) validated.accumulated) := by
  have room : constants.HasRoom (first :: rest).length := by
    rcases room with room | ⟨network, notRegtest, rfl, few⟩
    · exact room
    · exact network.hasRoom notRegtest few
  have nonzero := ValidatedChain.target_ne_zero_of_ofHeaders valid
  have isSum : validated.accumulated.toNat =
      ((first :: rest).map (Header.quotient constants)).sum := by
    rw [ValidatedChain.toNat_accumulated_of_hasRoom valid room, Header.totalDifficulty_eq nonzero]
  refine ⟨nonzero, isSum, ?_⟩
  rintro anchor proof count rfl decoded accepted
  have counted := length_of_verify decoded accepted
  have required : (requiredWork anchor.constants ⟨count, true⟩ first).toNat =
      count.toNat * first.quotient anchor.constants :=
    toNat_requiredWork_of_hasRoom (nonzero first List.mem_cons_self) (counted ▸ room)
  refine ⟨required, ?_⟩
  rw [verify_enforced decoded accepted]
  simp only [BitVec.le_def, required, isSum]

/-- An anchor with the difficulties of the test transition. -/
def transitionAnchor : Anchor :=
  .fixed Network.regtest.constants ⟨1, 2⟩

theorem transitionAnchor_accepts :
    ((sole ValidatedChain.testTransition).verify transitionAnchor ⟨2, true⟩).map
      ValidatedChain.accumulated = .ok 3 := by
  decide +kernel

theorem chain_sole (headers : List Header) : (sole headers).chain = .ok headers :=
  Header.decodeChain_encodeChain headers

/-- The two headers of the transition are asked for twice the difficulty of the first one,
and have as much. -/
theorem transitionAnchor_accumulates_exactly :
    ∃ first rest validated, ValidatedChain.testTransition = first :: rest ∧
      ValidatedChain.ofHeaders Network.regtest.constants ⟨1, 2⟩ (first :: rest) =
        .ok validated ∧
      validated.accumulated.toNat =
        ((first :: rest).map (Header.quotient Network.regtest.constants)).sum ∧
      (requiredWork Network.regtest.constants ⟨2, true⟩ first).toNat =
        2 * first.quotient Network.regtest.constants ∧
      2 * first.quotient Network.regtest.constants ≤
        ((first :: rest).map (Header.quotient Network.regtest.constants)).sum := by
  obtain ⟨validated, accepted, _⟩ := Checks.map_eq_ok_iff.mp transitionAnchor_accepts
  obtain ⟨first, rest, epochs, enough, _, _, known, valid, _⟩ := verify_eq_ok_iff.mp accepted
  obtain ⟨_, decoded, counted⟩ := requiredChain_eq_ok_iff.mp enough
  cases known
  have same := Except.ok.inj ((chain_sole _).symm.trans decoded)
  have room : Network.regtest.constants.HasRoom (first :: rest).length := by
    rw [← same]
    unfold Network.Constants.HasRoom
    decide
  obtain ⟨_, isSum, checked⟩ := accumulation_is_exact (.inl room) valid
  obtain ⟨required, judged⟩ :=
    checked transitionAnchor _ 2 rfl decoded (verify_of_enforced accepted)
  refine ⟨first, rest, validated, same, valid, isSum, required, ?_⟩
  rw [accepted] at judged
  split at judged
  next reached => exact reached
  next => cases judged

end Proof

namespace EpochDifficulties

/-- The difficulty of the epoch that a header of some difficulty belongs to.  If both
epochs have difficulty one, that is one for every header. -/
def owner? (epochs : EpochDifficulties) (difficulty : Difficulty) : Option Difficulty :=
  if epochs.areMinimal then some 1
  else if difficulty = epochs.previous then some epochs.previous
  else if difficulty = epochs.current then some epochs.current
  else none

theorem owner?_of_minimal {epochs : EpochDifficulties} {difficulty : Difficulty}
    (minimal : epochs.areMinimal = true) : epochs.owner? difficulty = some 1 := by
  rw [owner?, if_pos minimal]

theorem owner?_of_held {epochs : EpochDifficulties} {difficulty : Difficulty}
    (held : ¬epochs.areMinimal = true)
    (known : difficulty = epochs.previous ∨ difficulty = epochs.current) :
    epochs.owner? difficulty = some difficulty := by
  rw [owner?, if_neg held]
  split
  next same => rw [same]
  next other =>
    rw [if_pos (known.resolve_left other), known.resolve_left other]

/-- A later difficulty below the first is that of a current epoch which all go over to. -/
theorem Splits.le_first {epochs : EpochDifficulties} {first : Difficulty}
    {rest : List Difficulty} (splits : epochs.Splits (first :: rest))
    (lesser : ∃ difficulty ∈ rest, difficulty < first) :
    ∀ difficulty ∈ rest, difficulty ≤ first := by
  obtain ⟨known, remaining⟩ := splits_cons.mp splits
  obtain ⟨least, listed, below⟩ := lesser
  by_cases reached : first = epochs.current
  · simp only [reached, decide_true, Remaining, if_true] at remaining
    rw [remaining least listed, reached] at below
    exact absurd below (BitVec.lt_irrefl _)
  · obtain ⟨before, after, rfl, old, new⟩ : epochs.Splits rest := by
      simpa only [reached, decide_false, Remaining, Bool.false_eq_true, if_false] using remaining
    have isPrevious := known.resolve_right reached
    have current_lt : epochs.current < first := by
      rcases List.mem_append.mp listed with early | late
      · rw [old least early, isPrevious] at below
        exact absurd below (BitVec.lt_irrefl _)
      · rwa [new least late] at below
    intro difficulty member
    rcases List.mem_append.mp member with early | late
    · rw [old difficulty early, isPrevious]
      exact BitVec.le_refl _
    · rw [new difficulty late]
      exact BitVec.le_of_lt current_lt

end EpochDifficulties

/-! ## What an epoch demands -/

namespace Proof

variable {anchor : Anchor} {proof : Proof} {validated : ValidatedChain}
  {first : Header} {rest : List Header} {config : VerifierConfig}

/-- How headers that are accepted under enforcement can have less difficulty than their
epoch demands. -/
inductive Shortfall (constants : Network.Constants) (epochs : EpochDifficulties)
    (first : Header) (rest : List Header) (count : Nat) : Prop where
  /-- Both epochs have difficulty one and the first header has none, so that nothing is
  asked for, and the others have too little. -/
  | unasked (minimal : epochs.previous = 1 ∧ epochs.current = 1)
      (none : first.difficulty constants = 0)
      (few : Header.totalDifficulty constants rest < count)
  /-- What is asked for is cut off, and the headers go over to a lesser difficulty. -/
  | cutOff (held : ¬(epochs.previous = 1 ∧ epochs.current = 1))
      (large : 2 ^ 256 ≤ count * (first.difficulty constants).toNat)
      (lesser : ∃ header ∈ rest, header.difficulty constants < first.difficulty constants)

theorem reaches_iff_of_minimal {constants : Network.Constants} {epochs : EpochDifficulties}
    (minimal : epochs.previous = 1 ∧ epochs.current = 1) (few : rest.length + 1 < 2 ^ 32)
    (demand : min ((first.difficulty constants).toNat * (rest.length + 1)) (2 ^ 256 - 1) ≤
      Header.totalDifficulty constants (first :: rest)) :
    rest.length + 1 ≤ Header.totalDifficulty constants (first :: rest) ↔
      ¬Shortfall constants epochs first rest (rest.length + 1) := by
  constructor
  · rintro reached (⟨_, none, short⟩ | ⟨held, _, _⟩)
    · rw [Header.totalDifficulty_cons, none] at reached
      exact Nat.not_lt.mpr reached (by simpa using short)
    · exact held minimal
  · intro noShortfall
    by_cases none : first.difficulty constants = 0
    · have enough := Nat.not_lt.mp fun short => noShortfall (.unasked minimal none short)
      rw [Header.totalDifficulty_cons]
      omega
    · -- At least one is asked for each header, and so little is never cut off.
      have positive : 0 < (first.difficulty constants).toNat :=
        Target.toNat_pos_iff.mpr none
      have one_each := Nat.le_mul_of_pos_left (rest.length + 1) positive
      omega

theorem reaches_iff_of_held {constants : Network.Constants} {epochs : EpochDifficulties}
    (held : ¬(epochs.previous = 1 ∧ epochs.current = 1))
    (splits : epochs.Splits ((first :: rest).map (Header.difficulty constants)))
    (demand : min ((first.difficulty constants).toNat * (rest.length + 1)) (2 ^ 256 - 1) ≤
      Header.totalDifficulty constants (first :: rest)) :
    (rest.length + 1) * (first.difficulty constants).toNat ≤
        Header.totalDifficulty constants (first :: rest) ↔
      ¬Shortfall constants epochs first rest (rest.length + 1) := by
  constructor
  · rintro reached (⟨minimal, _, _⟩ | ⟨_, _, header, listed, below⟩)
    · exact held minimal
    · -- No header can make up for the lesser one, since none has more than the first.
      have bounded := splits.le_first ⟨_, List.mem_map_of_mem listed, below⟩
      rw [List.forall_mem_map] at bounded
      have short := Header.totalDifficulty_lt bounded ⟨header, listed, below⟩
      rw [Header.totalDifficulty_cons, Nat.succ_mul] at reached
      omega
  · intro noShortfall
    by_cases large : 2 ^ 256 ≤ (rest.length + 1) * (first.difficulty constants).toNat
    · have noLesser (header : Header) (member : header ∈ first :: rest) :
          (first.difficulty constants).toNat ≤ (header.difficulty constants).toNat := by
        rcases List.mem_cons.mp member with rfl | listed
        · exact Nat.le_refl _
        · exact Nat.not_lt.mp fun below =>
            noShortfall (.cutOff held large ⟨header, listed, below⟩)
      exact Header.le_totalDifficulty noLesser
    · rw [Nat.mul_comm]
      rw [Nat.mul_comm] at large
      omega

/-- What enforcement comes to in numbers: a product that may be cut off is at most a sum
that does not wrap. -/
theorem exists_demand_of_verify (enforced : config.enforceAccumulated = true)
    (accepted : proof.verify anchor config = .ok validated) :
    ∃ first rest epochs, proof.chain = .ok (first :: rest) ∧ anchor.epochs = .ok epochs ∧
      rest.length + 1 = config.requiredConfirmations.toNat ∧ first.target ≠ 0 ∧
      epochs.Admits anchor.constants (first :: rest) ∧
      min ((first.difficulty anchor.constants).toNat * (rest.length + 1)) (2 ^ 256 - 1) ≤
        Header.totalDifficulty anchor.constants (first :: rest) := by
  obtain ⟨first, rest, epochs, enough, _, _, known, valid, shown⟩ := verify_eq_ok_iff.mp accepted
  obtain ⟨_, decoded, counted⟩ := requiredChain_eq_ok_iff.mp enough
  obtain ⟨_, _, admitted, _⟩ := ValidatedChain.ofHeaders_eq_ok_iff.mp valid
  have nonzero := ValidatedChain.target_ne_zero_of_ofHeaders valid first List.mem_cons_self
  refine ⟨first, rest, epochs, decoded, known, counted, nonzero, admitted, ?_⟩
  rw [counted, ← toNat_requiredWork]
  exact Nat.le_trans (shown enforced) (ValidatedChain.toNat_accumulated_le valid)

/-- Where there is room for the headers, nothing that is asked for is cut off. -/
theorem Shortfall.unasked_of_hasRoom {constants : Network.Constants} {epochs : EpochDifficulties}
    {count : Nat} (shortfall : Shortfall constants epochs first rest count)
    (nonzero : first.target ≠ 0) (room : constants.HasRoom count) :
    epochs.previous = 1 ∧ epochs.current = 1 ∧ first.difficulty constants = 0 := by
  cases shortfall with
  | unasked minimal none few => exact ⟨minimal.1, minimal.2, none⟩
  | cutOff held large lesser =>
      exact absurd large (Nat.not_le.mpr (Header.mul_difficulty_lt nonzero room))

/-- Under enforcement the headers of an accepted proof reach as many times the difficulty
of the epoch that the first one belongs to as there are headers, but for two cases.  Where
there is room for the headers only one of them is left: with both epochs of difficulty one,
a first header without any difficulty asks for nothing. -/
theorem enforced_difficulty_reaches_epoch_iff (enforced : config.enforceAccumulated = true)
    (accepted : proof.verify anchor config = .ok validated) :
    ∃ first rest epochs epoch, proof.chain = .ok (first :: rest) ∧ anchor.epochs = .ok epochs ∧
      epochs.owner? (first.difficulty anchor.constants) = some epoch ∧
      (config.requiredConfirmations.toNat * epoch.toNat ≤
          Header.totalDifficulty anchor.constants (first :: rest) ↔
        ¬Shortfall anchor.constants epochs first rest config.requiredConfirmations.toNat) ∧
      (anchor.constants.HasRoom config.requiredConfirmations.toNat →
        Shortfall anchor.constants epochs first rest config.requiredConfirmations.toNat →
          epochs.previous = 1 ∧ epochs.current = 1 ∧
            first.difficulty anchor.constants = 0) := by
  obtain ⟨first, rest, epochs, decoded, known, counted, nonzero, admitted, demand⟩ :=
    exists_demand_of_verify enforced accepted
  have few : rest.length + 1 < 2 ^ 32 := counted ▸ config.requiredConfirmations.toNat_lt
  obtain ⟨epoch, own, reaches⟩ : ∃ epoch,
      epochs.owner? (first.difficulty anchor.constants) = some epoch ∧
        ((rest.length + 1) * epoch.toNat ≤
            Header.totalDifficulty anchor.constants (first :: rest) ↔
          ¬Shortfall anchor.constants epochs first rest (rest.length + 1)) := by
    by_cases minimal : epochs.areMinimal = true
    · refine ⟨1, EpochDifficulties.owner?_of_minimal minimal, ?_⟩
      simpa using reaches_iff_of_minimal (EpochDifficulties.areMinimal_iff.mp minimal) few demand
    · have splits := admitted.resolve_left minimal
      have isOwn := (EpochDifficulties.splits_cons.mp splits).1
      exact ⟨_, EpochDifficulties.owner?_of_held minimal isOwn,
        reaches_iff_of_held (mt EpochDifficulties.areMinimal_iff.mpr minimal) splits demand⟩
  rw [← counted]
  exact ⟨first, rest, epochs, epoch, decoded, known, own, reaches,
    fun room shortfall => shortfall.unasked_of_hasRoom nonzero room⟩

theorem transitionAnchor_demands_epoch_difficulty :
    ∃ validated first rest epoch,
      (sole ValidatedChain.testTransition).verify transitionAnchor ⟨2, true⟩ = .ok validated ∧
        ValidatedChain.testTransition = first :: rest ∧
        EpochDifficulties.owner? ⟨1, 2⟩ (first.difficulty Network.regtest.constants) =
          some epoch ∧
        2 * epoch.toNat ≤ Header.totalDifficulty Network.regtest.constants (first :: rest) := by
  obtain ⟨validated, accepted, _⟩ := Checks.map_eq_ok_iff.mp transitionAnchor_accepts
  obtain ⟨first, rest, epochs, epoch, decoded, known, own, reaches_iff, unasked⟩ :=
    enforced_difficulty_reaches_epoch_iff rfl accepted
  cases known
  have same := Except.ok.inj ((chain_sole _).symm.trans decoded)
  have room : Network.regtest.constants.HasRoom 2 := by
    unfold Network.Constants.HasRoom
    decide
  refine ⟨validated, first, rest, epoch, accepted, same, own, reaches_iff.mpr ?_⟩
  intro shortfall
  obtain ⟨_, twoIsOne, _⟩ := unasked room shortfall
  cases twoIsOne

/-- A header that is mined at once has no difficulty on the public networks.  Where both
epochs have difficulty one it is accepted as a confirmation under enforcement, though one
header of that epoch has more. -/
theorem header_without_difficulty_confirms :
    ∃ validated,
      (sole [.easy .zero 0]).verify (.fixed Network.bitcoin.constants ⟨1, 1⟩) ⟨1, true⟩ =
          .ok validated ∧
        (sole [.easy .zero 0]).chain = .ok [.easy .zero 0] ∧
        EpochDifficulties.owner? ⟨1, 1⟩
          ((Header.easy .zero 0).difficulty Network.bitcoin.constants) = some 1 ∧
        ¬(1 : UInt32).toNat * (1 : Difficulty).toNat ≤
          Header.totalDifficulty Network.bitcoin.constants [.easy .zero 0] := by
  refine ⟨⟨(Header.easy .zero 0).hash, (Header.easy .zero 0).hash, 1, 0⟩, ?_, chain_sole _, ?_⟩
  · decide +kernel
  · decide +kernel

end Proof

end HeaderRelay
