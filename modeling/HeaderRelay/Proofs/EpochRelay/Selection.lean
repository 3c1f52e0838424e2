import HeaderRelay.Proofs.Encoding
import HeaderRelay.Proofs.EpochRelay.Chains
import HeaderRelay.Proofs.EpochRelay.Replay
import HeaderRelay.Proofs.Header.Verdict

/-!
# The epoch that a chain starts in

A relay looks at its last record, at the one before it and at the first one, and
never searches.  What it finds is what a search would find: a time falls in the epoch
of the last record that is not younger.  A chain passes if that record is one of the
last two.  That the three looks also tell a time before all records from one that is
only too old is owed to the times of the records, which increase.
-/

namespace HeaderRelay.EpochRelay

variable {relay : EpochRelay} {time : UInt32} {record : EpochRecord}
variable {later : List EpochRecord} {epochs : EpochDifficulties} {bytes : Bytes}
variable {first : Header} {rest : List Header}

/-! ## The record of a time -/

/-- Whether a record is the last one of a time or an earlier one, with some records
behind it. -/
structure FallsIn (relay : EpochRelay) (time : UInt32) (record : EpochRecord)
    (later : List EpochRecord) : Prop where
  records : ∃ older, relay.epochs = older ++ record :: later
  reached : record.timestamp ≤ time
  early : ∀ other ∈ later, time < other.timestamp

/-- Whether a time is before every record. -/
def Predates (relay : EpochRelay) (time : UInt32) : Prop :=
  ∀ record ∈ relay.epochs, time < record.timestamp

/-- A search from the front: a list holds nothing of a time or earlier, or a last
record that is. -/
theorem exists_last_reached (records : List EpochRecord) (time : UInt32) :
    (∀ record ∈ records, time < record.timestamp) ∨
      ∃ older record later, records = older ++ record :: later ∧ record.timestamp ≤ time ∧
        ∀ other ∈ later, time < other.timestamp := by
  induction records with
  | nil => exact .inl nofun
  | cons head tail ih =>
      rcases ih with allEarly | ⟨older, record, later, split, reached, early⟩
      · rcases UInt32.lt_or_le time head.timestamp with before | reached
        · exact .inl (List.forall_mem_cons.mpr ⟨before, allEarly⟩)
        · exact .inr ⟨[], head, tail, rfl, reached, allEarly⟩
      · exact .inr ⟨head :: older, record, later, by rw [split, List.cons_append], reached, early⟩

theorem predates_or_fallsIn (relay : EpochRelay) (time : UInt32) :
    relay.Predates time ∨ ∃ record later, relay.FallsIn time record later := by
  rcases exists_last_reached relay.epochs time with
    before | ⟨older, record, later, records, reached, early⟩
  · exact .inl before
  · exact .inr ⟨record, later, ⟨older, records⟩, reached, early⟩

/-- The difficulties for chains that start in the epoch of a record, if that is one of
the last two. -/
inductive Opens (record : EpochRecord) : List EpochRecord → EpochDifficulties → Prop where
  | current : Opens record [] ⟨record.difficulty, record.difficulty⟩
  | previous (current : EpochRecord) :
      Opens record [current] ⟨record.difficulty, current.difficulty⟩

theorem selects_iff :
    relay.Selects time epochs ↔
      ∃ record later, relay.FallsIn time record later ∧ Opens record later epochs := by
  constructor
  · intro selects
    cases selects with
    | @current older current records reached =>
        exact ⟨current, [], ⟨⟨older, records⟩, reached, nofun⟩, .current⟩
    | @previous oldest previous current records early reached =>
        refine ⟨previous, [current], ⟨⟨oldest, records⟩, reached, ?_⟩, .previous current⟩
        exact List.forall_mem_singleton.mpr early
  · rintro ⟨record, later, ⟨⟨older, records⟩, reached, early⟩, opens⟩
    cases opens with
    | current => exact .current records reached
    | previous current => exact .previous records (early current List.mem_cons_self) reached

/-- Whether a time falls in an epoch before the last two. -/
def IsOld (relay : EpochRelay) (time : UInt32) : Prop :=
  ∃ record later, relay.FallsIn time record later ∧ 2 ≤ later.length

/-- A time is before every record, opens one of the last two epochs or falls in an
older one. -/
theorem predates_or_selects_or_old (relay : EpochRelay) (time : UInt32) :
    relay.Predates time ∨ (∃ epochs, relay.Selects time epochs) ∨
      relay.IsOld time := by
  rcases relay.predates_or_fallsIn time with before | ⟨record, later, falls⟩
  · exact .inl before
  · right
    match later, falls with
    | [], falls => exact .inl ⟨_, selects_iff.mpr ⟨record, [], falls, .current⟩⟩
    | [current], falls =>
        exact .inl ⟨_, selects_iff.mpr ⟨record, [current], falls, .previous current⟩⟩
    | previous :: current :: others, falls =>
        exact .inr ⟨record, _, falls, by simp only [List.length_cons]; omega⟩

/-! ## The three looks -/

/-- The first record, found from the end. -/
theorem head?_of_reverse {current previous : EpochRecord} {oldest : List EpochRecord}
    (backwards : relay.epochs.reverse = current :: previous :: oldest) :
    relay.epochs.head? = some (oldest.getLastD previous) := by
  rw [← List.getLast?_reverse, backwards, List.getLast?_cons_cons, List.getLast?_cons,
    List.getLastD_eq_getLast?]

theorem Predates.difficultiesAt (before : relay.Predates time) {genesis : EpochRecord}
    (isFirst : relay.epochs.head? = some genesis) :
    relay.difficultiesAt time =
      .error (RelayStateError.epochBeforeGenesis (Height.down genesis.epoch 1)) := by
  have first_before := before genesis (List.mem_of_head? isFirst)
  unfold EpochRelay.difficultiesAt
  split
  next none => simp [List.reverse_eq_nil_iff.mp none] at isFirst
  next current older backwards =>
    have member (other : EpochRecord) (listed : other ∈ current :: older) :
        time < other.timestamp :=
      before other (List.mem_reverse.mp (backwards ▸ listed))
    rw [if_neg (UInt32.not_le.mpr (member current List.mem_cons_self))]
    split
    next =>
      obtain rfl : current = genesis := by
        simpa [epochs_of_reverse backwards] using isFirst
      rfl
    next previous oldest =>
      obtain rfl := Option.some.inj ((head?_of_reverse backwards).symm.trans isFirst)
      have previous_before := member previous (by simp)
      simp only [if_neg (UInt32.not_le.mpr previous_before), if_pos first_before]

theorem Lawful.first_le (lawful : relay.Lawful) {genesis : EpochRecord}
    (isFirst : relay.epochs.head? = some genesis) (listed : record ∈ relay.epochs) :
    genesis.timestamp ≤ record.timestamp := by
  obtain ⟨others, records⟩ := List.head?_eq_some_iff.mp isFirst
  have increasing := lawful.timestamps_increase
  rw [records] at increasing listed
  rcases List.mem_cons.mp listed with rfl | behind
  · exact UInt32.le_refl _
  · exact UInt32.le_of_lt (List.rel_of_pairwise_cons increasing behind)

/-- A time that falls in an older epoch is not before the first record, since the
records are in the order of their times. -/
theorem Lawful.difficultiesAt_of_old (lawful : relay.Lawful)
    (falls : relay.FallsIn time record later) (old : 2 ≤ later.length) :
    relay.difficultiesAt time = .error RelayStateError.chainTooOld := by
  obtain ⟨⟨older, records⟩, reached, early⟩ := falls
  match behind : later.reverse with
  | [] | [_] =>
      have := congrArg List.length behind
      simp only [List.length_reverse, List.length_nil, List.length_singleton] at this
      omega
  | current :: previous :: others =>
      have backwards : relay.epochs.reverse =
          current :: previous :: (others ++ record :: older.reverse) := by
        simp [records, behind]
      have listed : record ∈ relay.epochs := by simp [records]
      have genesis_reached :=
        UInt32.le_trans (lawful.first_le (head?_of_reverse backwards) listed) reached
      have current_early := early current (List.mem_reverse.mp (by simp [behind]))
      have previous_early := early previous (List.mem_reverse.mp (by simp [behind]))
      simp only [difficultiesAt, backwards, if_neg (UInt32.not_le.mpr current_early),
        if_neg (UInt32.not_le.mpr previous_early), if_neg (UInt32.not_lt.mpr genesis_reached)]

theorem difficultiesAt_eq_error_iff (lawful : relay.Lawful) {genesis : EpochRecord}
    (isFirst : relay.epochs.head? = some genesis) {error : Error} :
    relay.difficultiesAt time = .error error ↔
      relay.Predates time ∧
          error = RelayStateError.epochBeforeGenesis (Height.down genesis.epoch 1) ∨
        relay.IsOld time ∧ error = RelayStateError.chainTooOld := by
  constructor
  · intro refused
    rcases relay.predates_or_selects_or_old time with before | ⟨epochs, selects⟩ | old
    · rw [before.difficultiesAt isFirst] at refused
      exact .inl ⟨before, (Except.error.inj refused).symm⟩
    · rw [difficultiesAt_eq_ok_iff.mpr selects] at refused
      cases refused
    · obtain ⟨record, later, falls, many⟩ := old
      rw [lawful.difficultiesAt_of_old falls many] at refused
      exact .inr ⟨⟨record, later, falls, many⟩, (Except.error.inj refused).symm⟩
  · rintro (⟨before, rfl⟩ | ⟨⟨record, later, falls, many⟩, rfl⟩)
    · exact before.difficultiesAt isFirst
    · exact lawful.difficultiesAt_of_old falls many

/-! ## Chains -/

/-- Whether bytes are a chain of headers that is neither too short nor too long. -/
structure Offers (relay : EpochRelay) (bytes : Bytes) (first : Header) (rest : List Header) :
    Prop where
  decoded : Header.decodeChain bytes = .ok (first :: rest)
  enough : 3 ≤ (first :: rest).length
  within : (first :: rest).length ≤ 2 * relay.proofLength

/-- What is left to check of a chain of a fitting length. -/
theorem Offers.validateChain_eq (offers : relay.Offers bytes first rest)
    (ready : relay.epochs ≠ []) :
    relay.validateChain bytes = do
      let epochs ← relay.difficultiesAt first.time
      let validated ← ValidatedChain.ofHeaders relay.constants epochs (first :: rest)
      return (validated.firstHash, validated.count) := by
  obtain ⟨decoded, enough, within⟩ := offers
  have last := latest_eq_ok_iff.mpr (List.getLast?_eq_some_getLast ready)
  have notFew : ¬(first :: rest).length < minChainLength := Nat.not_lt.mpr enough
  have notMany : ¬2 * relay.proofLength < (first :: rest).length := Nat.not_lt.mpr within
  unfold validateChain
  rw [last, decoded]
  change (if _ then _ else if _ then _ else _) = _
  rw [if_neg notFew, if_neg notMany]
  rfl

/-- To a chain of a fitting length a relay objects only on account of the time that it
starts at; whatever else is wrong with it is a fault of the chain. -/
theorem Offers.validateChain_eq_relayState_iff (offers : relay.Offers bytes first rest)
    (ready : relay.epochs ≠ []) {cause : RelayStateError} :
    relay.validateChain bytes = .error cause ↔
      relay.difficultiesAt first.time = .error cause := by
  rw [offers.validateChain_eq ready]
  constructor
  · intro refused
    rcases Checks.bind_eq_error_iff.mp refused with untimely | ⟨epochs, _, refused⟩
    · exact untimely
    · rcases Checks.bind_eq_error_iff.mp refused with faulty | ⟨_, _, ⟨⟩⟩
      obtain ⟨_, ⟨⟩⟩ | ⟨_, _, _, ⟨⟩⟩ := ValidatedChain.ofHeaders_eq_error_iff.mp faulty
  · intro untimely
    exact Checks.bind_eq_error_iff.mpr (.inl untimely)

theorem validateChain_eq_ok_iff_of_record {hash : Hash} {count : Nat} :
    relay.validateChain bytes = .ok (hash, count) ↔
      ∃ first rest record later epochs validated, relay.Offers bytes first rest ∧
        relay.FallsIn first.time record later ∧ Opens record later epochs ∧
        ValidatedChain.ofHeaders relay.constants epochs (first :: rest) = .ok validated ∧
        hash = first.hash ∧ count = (first :: rest).length := by
  rw [validateChain_eq_ok_iff]
  constructor
  · rintro ⟨first, rest, epochs, validated, decoded, enough, within, selects, valid, rfl, rfl⟩
    obtain ⟨record, later, falls, opens⟩ := selects_iff.mp selects
    obtain ⟨_, _, _, rfl⟩ := ValidatedChain.ofHeaders_eq_ok_iff.mp valid
    exact ⟨first, rest, record, later, epochs, _, ⟨decoded, enough, within⟩, falls, opens, valid,
      rfl, rfl⟩
  · rintro ⟨first, rest, record, later, epochs, validated, ⟨decoded, enough, within⟩, falls,
      opens, valid, rfl, rfl⟩
    obtain ⟨_, _, _, rfl⟩ := ValidatedChain.ofHeaders_eq_ok_iff.mp valid
    exact ⟨first, rest, epochs, _, decoded, enough, within,
      selects_iff.mpr ⟨record, later, falls, opens⟩, valid, rfl, rfl⟩

/-- A ready relay, whatever led to it, judges a chain by the epoch that the time of its
first header falls in.  If that is the last epoch, the chain must be valid for its
difficulty alone; if it is the one before, for both.  A chain of a fitting length that
starts before all records is refused as before genesis, and one that starts in an older
epoch as too old. -/
theorem chains_are_judged_by_first_epoch {start : EpochRelay} (initial : start.IsInitial)
    (calls : List Call) (ran : start.run calls = relay) (ready : relay.isReady = true)
    (bytes : Bytes) :
    (∀ hash count, relay.validateChain bytes = .ok (hash, count) ↔
        ∃ first rest record later epochs validated, relay.Offers bytes first rest ∧
          relay.FallsIn first.time record later ∧ Opens record later epochs ∧
          ValidatedChain.ofHeaders relay.constants epochs (first :: rest) = .ok validated ∧
          hash = first.hash ∧ count = (first :: rest).length) ∧
      ∀ first rest, relay.Offers bytes first rest →
        ∃ genesis, relay.genesisEpoch? = some genesis ∧
          (∀ epoch, relay.validateChain bytes =
              .error (RelayStateError.epochBeforeGenesis epoch) ↔
            relay.Predates first.time ∧ epoch = Height.down genesis 1) ∧
          (relay.validateChain bytes = .error RelayStateError.chainTooOld ↔
            relay.IsOld first.time) := by
  refine ⟨fun _ _ => validateChain_eq_ok_iff_of_record, ?_⟩
  intro first rest offers
  have lawful : relay.Lawful := ran ▸ lawful_run initial calls
  have ready := isReady_iff.mp ready
  obtain ⟨genesis, others, records⟩ := List.exists_cons_of_ne_nil ready
  have isFirst : relay.epochs.head? = some genesis := by rw [records, List.head?_cons]
  refine ⟨genesis.epoch, by simp [genesisEpoch?, isFirst], ?_, ?_⟩
  · intro epoch
    rw [offers.validateChain_eq_relayState_iff ready, difficultiesAt_eq_error_iff lawful isFirst]
    simp
  · rw [offers.validateChain_eq_relayState_iff ready, difficultiesAt_eq_error_iff lawful isFirst]
    simp

/-- Genesis, a retarget to half the target and one back to it, and room for four headers
in a chain. -/
def threeEpochCalls : List Call :=
  [.genesis "governance" easyHeader.encode 2016 1, .retarget "anyone" usedChain,
    .retarget "anyone" (Header.encodeChain [harderHeader, easedHeader]),
    .setProofLength "governance" 2]

/-- A test relay that knows three epochs, which begin at the times one, two and three. -/
def threeEpochRelay : EpochRelay :=
  testRelay.run threeEpochCalls

/-- Three times the first header of the test relay, at some time. -/
def repeatedHeaders (time : UInt32) : List Header :=
  List.replicate 3 { easyHeader with time := time }

theorem offers_repeatedHeaders (time : UInt32) (length : relay.proofLength = 2) :
    relay.Offers (Header.encodeChain (repeatedHeaders time)) { easyHeader with time := time }
      (List.replicate 2 { easyHeader with time := time }) where
  decoded := Header.decodeChain_encodeChain _
  enough := by simp
  within := by simp [length]

/-- A chain of the second epoch that goes over to the third passes.  Headers of the time
of the first epoch are too old, and those before it are before genesis. -/
theorem threeEpochRelay_judges_chains :
    (threeEpochRelay.epochs.map fun record => (record.epoch, record.timestamp)) =
        [(1, 1), (2, 2), (3, 3)] ∧
      (∃ first rest record later epochs validated,
        threeEpochRelay.Offers
          (Header.encodeChain [harderHeader, easedHeader, .easy easedHeader.hash 2]) first rest ∧
        threeEpochRelay.FallsIn first.time record later ∧ Opens record later epochs ∧
        ValidatedChain.ofHeaders threeEpochRelay.constants epochs (first :: rest) =
          .ok validated ∧
        harderHeader.hash = first.hash ∧ 3 = (first :: rest).length) ∧
      threeEpochRelay.validateChain (Header.encodeChain (repeatedHeaders 1)) =
        .error RelayStateError.chainTooOld ∧
      threeEpochRelay.validateChain (Header.encodeChain (repeatedHeaders 0)) =
        .error (RelayStateError.epochBeforeGenesis 0) := by
  have facts :
      (threeEpochRelay.epochs.map fun record => (record.epoch, record.timestamp)) =
          [(1, 1), (2, 2), (3, 3)] ∧
        threeEpochRelay.proofLength = 2 ∧
        threeEpochRelay.validateChain
          (Header.encodeChain [harderHeader, easedHeader, .easy easedHeader.hash 2]) =
          .ok (harderHeader.hash, 3) := by
    decide +kernel
  obtain ⟨listed, length, validates⟩ := facts
  have initial : testRelay.IsInitial := .new _ _
  obtain ⟨one, others, records, isOne, listed'⟩ := List.map_eq_cons_iff.mp listed
  obtain ⟨two, others, rfl, isTwo, listed'⟩ := List.map_eq_cons_iff.mp listed'
  obtain ⟨three, others, rfl, isThree, listed'⟩ := List.map_eq_cons_iff.mp listed'
  obtain rfl := List.map_eq_nil_iff.mp listed'
  simp only [Prod.mk.injEq] at isOne isTwo isThree
  have ready : threeEpochRelay.isReady = true := isReady_iff.mpr (by simp [records])
  have ran : testRelay.run threeEpochCalls = threeEpochRelay := rfl
  have judged (bytes : Bytes) :=
    chains_are_judged_by_first_epoch initial threeEpochCalls ran ready bytes
  refine ⟨listed, ((judged _).1 _ _).mp validates, ?_, ?_⟩
  · obtain ⟨_, _, _, tooOld⟩ := (judged _).2 _ _ (offers_repeatedHeaders 1 length)
    refine tooOld.mpr ⟨one, [two, three], ⟨⟨[], records⟩, ?_, ?_⟩, le_rfl⟩
    · simp [isOne]
    · simp [isTwo, isThree]
  · obtain ⟨genesis, known, before, _⟩ := (judged _).2 _ _ (offers_repeatedHeaders 0 length)
    obtain rfl : one.epoch = genesis := by simpa [genesisEpoch?, records] using known
    refine (before 0).mpr ⟨?_, by rw [isOne.1]; rfl⟩
    simp [Predates, records, isOne, isTwo, isThree]

end HeaderRelay.EpochRelay
