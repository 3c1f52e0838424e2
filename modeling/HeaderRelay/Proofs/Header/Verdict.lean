import HeaderRelay.Proofs.Header.Faults

/-!
# The verdict on a chain

The judgement of a chain in full: which chains pass, what is told of those, and for
which error the others are refused.  Everything is said of the headers by their
places and in numbers, so that nothing is left of the walk along the chain.
-/

namespace HeaderRelay

theorem Header.linked_iff {headers : List Header} :
    Linked headers ↔ ∀ {index lower upper}, headers[index]? = some lower →
      headers[index + 1]? = some upper → upper.previous = Hash.double lower.encode := by
  rw [Linked, List.isChain_iff_getElem]
  constructor
  · intro linked index lower upper atLower atUpper
    obtain ⟨_, rfl⟩ := List.getElem?_eq_some_iff.mp atLower
    obtain ⟨inside, rfl⟩ := List.getElem?_eq_some_iff.mp atUpper
    exact linked index inside
  · intro linked index inside
    exact linked (List.getElem?_eq_getElem (Nat.lt_of_succ_lt inside))
      (List.getElem?_eq_getElem inside)

/-- Difficulties pass if there is a number of headers with the previous one, behind
which all have the current one. -/
theorem EpochDifficulties.splits_map_iff {epochs : EpochDifficulties}
    {constants : Network.Constants} {headers : List Header} :
    epochs.Splits (headers.map (Header.difficulty constants)) ↔
      ∃ count, (∀ header ∈ headers.take count, header.difficulty constants = epochs.previous) ∧
        ∀ header ∈ headers.drop count, header.difficulty constants = epochs.current := by
  constructor
  · rintro ⟨before, after, split, old, new⟩
    have taken := congrArg (List.take before.length) split
    have dropped := congrArg (List.drop before.length) split
    rw [← List.map_take, List.take_left] at taken
    rw [← List.map_drop, List.drop_left] at dropped
    rw [← taken, List.forall_mem_map] at old
    rw [← dropped, List.forall_mem_map] at new
    exact ⟨before.length, old, new⟩
  · rintro ⟨count, old, new⟩
    refine ⟨(headers.take count).map (Header.difficulty constants),
      (headers.drop count).map (Header.difficulty constants), ?_, ?_, ?_⟩
    · rw [← List.map_append, List.take_append_drop]
    · rwa [List.forall_mem_map]
    · rwa [List.forall_mem_map]

theorem Difficulty.toNat_sum (difficulties : List Difficulty) :
    difficulties.sum.toNat = (difficulties.map BitVec.toNat).sum % 2 ^ 256 := by
  induction difficulties with
  | nil => rfl
  | cons difficulty rest ih =>
      rw [List.sum_cons, BitVec.toNat_add, ih, Nat.add_mod_mod, List.map_cons, List.sum_cons]

namespace ValidatedChain

variable {constants : Network.Constants} {epochs : EpochDifficulties} {headers : List Header}
  {validated : ValidatedChain}

/-- What is asked of a chain. -/
structure IsAcceptable (constants : Network.Constants) (epochs : EpochDifficulties)
    (headers : List Header) : Prop where
  nonempty : headers ≠ []
  continuous : ∀ {index lower upper}, headers[index]? = some lower →
    headers[index + 1]? = some upper → upper.previous = Hash.double lower.encode
  works : ∀ header ∈ headers, header.MeetsTarget
  /-- The headers change from the previous to the current difficulty at most once,
  unless nothing is asked of difficulties. -/
  ordered : (epochs.previous = 1 ∧ epochs.current = 1) ∨
    ∃ count, (∀ header ∈ headers.take count, header.difficulty constants = epochs.previous) ∧
      ∀ header ∈ headers.drop count, header.difficulty constants = epochs.current

/-- What is told of a chain. -/
structure Describes (validated : ValidatedChain) (constants : Network.Constants)
    (headers : List Header) : Prop where
  firstHash : headers.head?.map Header.hash = some validated.firstHash
  lastHash : headers.getLast?.map Header.hash = some validated.lastHash
  count : validated.count = headers.length
  accumulated : validated.accumulated.toNat =
    (headers.map fun header => (header.difficulty constants).toNat).sum % 2 ^ 256

theorem isAcceptable_cons_iff {first : Header} {rest : List Header} :
    IsAcceptable constants epochs (first :: rest) ↔
      Header.Linked (first :: rest) ∧
        (∀ header ∈ first :: rest, header.hasValidWork = true) ∧
        epochs.Admits constants (first :: rest) := by
  rw [EpochDifficulties.Admits, EpochDifficulties.areMinimal_iff, EpochDifficulties.splits_map_iff]
  simp only [Header.linked_iff, Header.hasValidWork_iff]
  constructor
  · intro acceptable
    exact ⟨acceptable.continuous, acceptable.works, acceptable.ordered⟩
  · rintro ⟨continuous, works, ordered⟩
    exact ⟨List.cons_ne_nil _ _, continuous, works, ordered⟩

theorem exists_ofHeaders_eq_ok_iff :
    (∃ validated, ofHeaders constants epochs headers = .ok validated) ↔
      IsAcceptable constants epochs headers := by
  cases headers with
  | nil =>
      constructor
      · rintro ⟨_, ⟨⟩⟩
      · intro acceptable
        exact absurd rfl acceptable.nonempty
  | cons first rest =>
      rw [isAcceptable_cons_iff]
      simp only [ofHeaders_eq_ok_iff, exists_and_left, exists_eq', and_true]

theorem describes_of_ofHeaders (valid : ofHeaders constants epochs headers = .ok validated) :
    validated.Describes constants headers := by
  cases headers with
  | nil => cases valid
  | cons first rest =>
      obtain ⟨_, _, _, rfl⟩ := ofHeaders_eq_ok_iff.mp valid
      refine ⟨rfl, ?_, rfl, ?_⟩
      · rw [List.getLast?_cons, ← List.getLastD_eq_getLast?]
        rfl
      · rw [summary, Difficulty.toNat_sum, List.map_map]
        rfl

/-- A chain passes exactly when it is not empty, is linked, has valid work throughout and
changes its difficulty once at most, from the previous to the current one.  Of a chain
that passes the ends, the length and the sum of the difficulties are told.  Any other
is refused, for being empty or for its first fault. -/
theorem chains_are_judged_exactly (constants : Network.Constants) (epochs : EpochDifficulties)
    (headers : List Header) :
    ((∃ validated, ofHeaders constants epochs headers = .ok validated) ↔
        IsAcceptable constants epochs headers) ∧
      (∀ validated, ofHeaders constants epochs headers = .ok validated →
        validated.Describes constants headers) ∧
      ∀ error : Error, ofHeaders constants epochs headers = .error error ↔
        headers = [] ∧ error = MalformedInput.headerCount 1 0 ∨
          ∃ index cause, IsFirstFault constants epochs headers index cause ∧
            error = .consensus cause :=
  ⟨exists_ofHeaders_eq_ok_iff, fun _ => describes_of_ofHeaders, fun _ => ofHeaders_eq_error_iff⟩

/-- A header of difficulty one and one of difficulty two on top of it. -/
def testTransition : List Header :=
  let first := Header.easy .zero 0
  [first, ⟨1, first.hash, .zero, 2, 0x203FFFFF, 11⟩]

/-- The change of difficulty passes.  A header of difficulty one on top that does not
continue the chain breaks more rules than one, and is refused for the first. -/
theorem testTransition_is_judged :
    IsAcceptable Network.regtest.constants ⟨1, 2⟩ testTransition ∧
      (∃ validated : ValidatedChain, validated.Describes Network.regtest.constants testTransition ∧
        validated.accumulated = 3) ∧
      FaultAt Network.regtest.constants ⟨1, 2⟩ (testTransition ++ [.easy .zero 0]) 2
        (.outOfOrderTransition 2) ∧
      ∃ index, IsFirstFault Network.regtest.constants ⟨1, 2⟩ (testTransition ++ [.easy .zero 0])
        index (.discontinuousChain 2) := by
  obtain ⟨accepted_iff, describes, _⟩ :=
    chains_are_judged_exactly Network.regtest.constants ⟨1, 2⟩ testTransition
  obtain ⟨_, _, refused_iff⟩ := chains_are_judged_exactly Network.regtest.constants ⟨1, 2⟩
    (testTransition ++ [.easy .zero 0])
  have judged : (ofHeaders Network.regtest.constants ⟨1, 2⟩ testTransition).map accumulated =
      .ok 3 := by
    decide +kernel
  have refused : ofHeaders Network.regtest.constants ⟨1, 2⟩
      (testTransition ++ [.easy .zero 0]) = .error (ConsensusError.discontinuousChain 2) := by
    decide +kernel
  obtain ⟨validated, valid, accumulated⟩ := Checks.map_eq_ok_iff.mp judged
  refine ⟨accepted_iff.mp ⟨validated, valid⟩, ⟨validated, describes validated valid, accumulated⟩,
    ⟨.easy .zero 0, rfl, ?_⟩, ?_⟩
  · exact .returned (by decide) (List.mem_cons_of_mem _ List.mem_cons_self) (by decide) (by decide)
  · obtain ⟨empty, _⟩ | ⟨index, cause, isFirst, same⟩ := (refused_iff _).mp refused
    · cases empty
    · cases same
      exact ⟨index, isFirst⟩

end ValidatedChain

end HeaderRelay
