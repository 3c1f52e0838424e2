import HeaderRelay.Proofs.Header.Chain

/-!
# For which fault a chain is refused

A chain that is not valid may have many faults, and one header may have several.
The refusal names one of them: it is about the lowest header that has any, and of
its faults about the one whose rule comes first.  The rules come in the order
continuity, work, known difficulty, order of the epochs.

What a header must satisfy depends on the headers below it and on nothing else, so
faults are defined without a walk.
-/

namespace HeaderRelay

/-- Whether the hash of a header, as a number, is at most its own target, which must
not be zero. -/
def Header.MeetsTarget (header : Header) : Prop :=
  header.target ≠ 0 ∧ header.hash.bytes.toNatLE ≤ header.target.toNat

theorem Header.hasValidWork_iff {header : Header} :
    header.hasValidWork = true ↔ header.MeetsTarget := by
  rw [hasValidWork, Target.isMetBy, Bool.and_eq_true, decide_eq_true_eq, decide_eq_true_eq]
  rfl

theorem EpochDifficulties.areMinimal_iff {epochs : EpochDifficulties} :
    epochs.areMinimal = true ↔ epochs.previous = 1 ∧ epochs.current = 1 := by
  simp only [areMinimal, Bool.and_eq_true, decide_eq_true_eq]

/-- The place of a rule for chains in the order in which a header is held against
them. -/
def ConsensusError.precedence : ConsensusError → Nat
  | discontinuousChain _ => 0
  | insufficientWork _ => 1
  | wrongEpochDifficulty .. => 2
  | outOfOrderTransition _ => 3
  | _ => 4

/-- Whether an error is about the difficulties of a chain, whose headers may each be
linked and have valid work. -/
def Error.blamesDifficulty : Error → Bool
  | .consensus (.wrongEpochDifficulty _ _) => true
  | .consensus (.outOfOrderTransition _) => true
  | _ => false

namespace ValidatedChain

/-- What is wrong with a header on top of others. -/
inductive Fault (constants : Network.Constants) (epochs : EpochDifficulties)
    (below : List Header) (header : Header) : ConsensusError → Prop where
  /-- It does not commit to the header directly below. -/
  | discontinuous {lower : Header} (neighbour : below.getLast? = some lower)
      (apart : header.previous ≠ Hash.double lower.encode) :
      Fault constants epochs below header (.discontinuousChain below.length)
  /-- Its hash does not meet its own target. -/
  | insufficient (unmet : ¬header.MeetsTarget) :
      Fault constants epochs below header (.insufficientWork below.length)
  /-- Its difficulty is that of neither epoch. -/
  | unknown (held : ¬(epochs.previous = 1 ∧ epochs.current = 1))
      (notPrevious : header.difficulty constants ≠ epochs.previous)
      (notCurrent : header.difficulty constants ≠ epochs.current) :
      Fault constants epochs below header
        (.wrongEpochDifficulty below.length (header.difficulty constants))
  /-- Its difficulty is not the current one, which a header below has reached. -/
  | returned {earlier : Header} (held : ¬(epochs.previous = 1 ∧ epochs.current = 1))
      (member : earlier ∈ below) (reached : earlier.difficulty constants = epochs.current)
      (notCurrent : header.difficulty constants ≠ epochs.current) :
      Fault constants epochs below header (.outOfOrderTransition below.length)

variable {constants : Network.Constants} {epochs : EpochDifficulties}
  {below headers : List Header} {first header : Header} {cause other : ConsensusError}
  {index : Nat}

/-- A header has at most one fault of each kind. -/
theorem Fault.eq_of_precedence (fault : Fault constants epochs below header cause)
    (otherFault : Fault constants epochs below header other)
    (same : cause.precedence = other.precedence) : cause = other := by
  cases fault <;> cases otherFault <;> first | rfl | cases same

/-- Whether an error is about the first rule that a header breaks. -/
structure IsForemost (constants : Network.Constants) (epochs : EpochDifficulties)
    (below : List Header) (header : Header) (cause : ConsensusError) : Prop where
  fault : Fault constants epochs below header cause
  foremost : ∀ other, Fault constants epochs below header other →
    cause.precedence ≤ other.precedence

namespace Progress

variable {progress next : Progress}

/-- What the judgement of some headers must remember for the judgement of the next. -/
structure Remembers (constants : Network.Constants) (epochs : EpochDifficulties)
    (below : List Header) (header : Header) (progress : Progress) : Prop where
  count : progress.count = below.length
  lastHash : header.previous ≠ progress.lastHash ↔
    ∃ lower, below.getLast? = some lower ∧ header.previous ≠ Hash.double lower.encode
  seenCurrent : ¬(epochs.previous = 1 ∧ epochs.current = 1) →
    (progress.seenCurrent = true ↔
      ∃ earlier ∈ below, earlier.difficulty constants = epochs.current)

theorem seenCurrent_foldl_advance (headers : List Header) :
    (headers.foldl (advance constants epochs) progress).seenCurrent =
      (progress.seenCurrent || !epochs.areMinimal &&
        headers.any fun header => decide (header.difficulty constants = epochs.current)) := by
  induction headers generalizing progress with
  | nil => simp
  | cons header rest ih =>
      rw [List.foldl_cons, ih, List.any_cons]
      simp only [advance]
      rw [Bool.or_assoc, ← Bool.and_or_distrib_left]

/-- Headers that pass are remembered as far as the one after them is concerned. -/
theorem remembers_of_passed
    (passed : below.foldlM (Progress.next constants epochs) (.start first) = .ok progress)
    (starts : (below ++ [header]).head? = some first) :
    Remembers constants epochs below header progress := by
  obtain ⟨_, _, _, _, rfl⟩ := foldlM_next_eq_ok_iff.mp passed
  refine ⟨?_, ?_, ?_⟩
  · rw [count_foldl_advance, start, Nat.zero_add]
  · cases below with
    | nil =>
        cases starts
        simp [start]
    | cons lowest rest =>
        rw [lastHash_foldl_advance, List.getLast?_cons, ← List.getLastD_eq_getLast?]
        simp [Header.hash]
  · intro held
    have held : epochs.areMinimal = false := by
      rwa [← Bool.not_eq_true, EpochDifficulties.areMinimal_iff]
    rw [seenCurrent_foldl_advance, start, held]
    simp

/-- A header that does not pass is refused for the first rule that it breaks. -/
theorem isForemost_of_next_eq_error (remembers : Remembers constants epochs below header progress)
    (refused : Progress.next constants epochs progress header = .error cause) :
    IsForemost constants epochs below header cause := by
  obtain ⟨count, lastHash, seenCurrent⟩ := remembers
  have work_eq : header.target.isMetBy header.hash = header.hasValidWork := rfl
  have difficulty_eq :
      header.target.difficulty constants.reference = header.difficulty constants := rfl
  simp only [Progress.next, work_eq, difficulty_eq, count] at refused
  split at refused
  next apart =>
    cases refused
    obtain ⟨lower, neighbour, apart⟩ := lastHash.mp apart
    exact ⟨.discontinuous neighbour apart, fun _ _ => Nat.zero_le _⟩
  next joined =>
    have noGap {lower : Header} (neighbour : below.getLast? = some lower) :
        header.previous = Hash.double lower.encode :=
      not_not.mp fun apart => joined (lastHash.mpr ⟨lower, neighbour, apart⟩)
    split at refused
    next unmet =>
      cases refused
      rw [Bool.not_eq_true', ← Bool.not_eq_true, Header.hasValidWork_iff] at unmet
      refine ⟨.insufficient unmet, ?_⟩
      intro other fault
      cases fault with
      | discontinuous neighbour apart => exact absurd (noGap neighbour) apart
      | insufficient | unknown | returned => simp [ConsensusError.precedence]
    next met =>
      rw [Bool.not_eq_true', ← Bool.not_eq_true, not_not, Header.hasValidWork_iff] at met
      split at refused
      next => cases refused
      next held =>
        rw [EpochDifficulties.areMinimal_iff] at held
        split at refused
        next unknown =>
          cases refused
          refine ⟨.unknown held unknown.1 unknown.2, ?_⟩
          intro other fault
          cases fault with
          | discontinuous neighbour apart => exact absurd (noGap neighbour) apart
          | insufficient unmet => exact absurd met unmet
          | unknown | returned => simp [ConsensusError.precedence]
        next known =>
          split at refused
          next returned =>
            cases refused
            obtain ⟨earlier, member, reached⟩ := (seenCurrent held).mp returned.1
            refine ⟨.returned held member reached returned.2, ?_⟩
            intro other fault
            cases fault with
            | discontinuous neighbour apart => exact absurd (noGap neighbour) apart
            | insufficient unmet => exact absurd met unmet
            | unknown _ notPrevious notCurrent => exact absurd ⟨notPrevious, notCurrent⟩ known
            | returned => exact Nat.le_refl _
          next => cases refused

/-- A header that passes has no fault. -/
theorem not_fault_of_next_eq_ok (remembers : Remembers constants epochs below header progress)
    (passed : Progress.next constants epochs progress header = .ok next) :
    ¬Fault constants epochs below header cause := by
  obtain ⟨_, lastHash, seenCurrent⟩ := remembers
  obtain ⟨joined, work, admitted, _⟩ := next_eq_ok_iff.mp passed
  rw [EpochDifficulties.areMinimal_iff] at admitted
  intro fault
  cases fault with
  | discontinuous neighbour apart => exact lastHash.mpr ⟨_, neighbour, apart⟩ joined
  | insufficient unmet => exact unmet (Header.hasValidWork_iff.mp work)
  | unknown held notPrevious notCurrent =>
      obtain ⟨known, _⟩ := admitted.resolve_left held
      exact known.elim notPrevious notCurrent
  | returned held member reached notCurrent =>
      obtain ⟨_, ordered⟩ := admitted.resolve_left held
      exact notCurrent (ordered ((seenCurrent held).mpr ⟨_, member, reached⟩))

end Progress

/-! ## Chains -/

/-- Whether the header at an index has a fault. -/
def FaultAt (constants : Network.Constants) (epochs : EpochDifficulties) (headers : List Header)
    (index : Nat) (cause : ConsensusError) : Prop :=
  ∃ header, headers[index]? = some header ∧
    Fault constants epochs (headers.take index) header cause

/-- Whether an error is about the first rule that the lowest faulty header breaks. -/
structure IsFirstFault (constants : Network.Constants) (epochs : EpochDifficulties)
    (headers : List Header) (index : Nat) (cause : ConsensusError) : Prop where
  fault : FaultAt constants epochs headers index cause
  foremost : ∀ other, FaultAt constants epochs headers index other →
    cause.precedence ≤ other.precedence
  lowest : ∀ earlier < index, ∀ other, ¬FaultAt constants epochs headers earlier other

theorem IsFirstFault.unique {otherIndex : Nat}
    (isFirst : IsFirstFault constants epochs headers index cause)
    (otherIsFirst : IsFirstFault constants epochs headers otherIndex other) : cause = other := by
  rcases Nat.lt_trichotomy index otherIndex with below | rfl | above
  · exact absurd isFirst.fault (otherIsFirst.lowest index below cause)
  · obtain ⟨header, stands, fault⟩ := isFirst.fault
    obtain ⟨_, same, otherFault⟩ := otherIsFirst.fault
    cases stands.symm.trans same
    exact fault.eq_of_precedence otherFault (Nat.le_antisymm
      (isFirst.foremost other otherIsFirst.fault) (otherIsFirst.foremost cause isFirst.fault))
  · exact absurd otherIsFirst.fault (isFirst.lowest otherIndex above other)

theorem not_faultAt_of_passed {progress : Progress} (starts : headers.head? = some first)
    (passed : headers.foldlM (Progress.next constants epochs) (.start first) = .ok progress) :
    ¬FaultAt constants epochs headers index cause := by
  rintro ⟨header, stands, fault⟩
  obtain ⟨below, above, rfl, rfl⟩ := Header.exists_append_of_getElem? stands
  rw [List.take_left] at fault
  simp only [List.foldlM_append, List.foldlM_cons, Checks.bind_eq_ok_iff] at passed
  obtain ⟨_, walked, _, judged, _⟩ := passed
  refine Progress.not_fault_of_next_eq_ok (Progress.remembers_of_passed walked ?_) judged fault
  rw [← starts]
  cases below <;> rfl

/-- Headers that do not pass are refused for their first fault. -/
theorem isFirstFault_of_refused (starts : headers.head? = some first)
    (refused : headers.foldlM (Progress.next constants epochs) (.start first) = .error cause) :
    ∃ index, IsFirstFault constants epochs headers index cause := by
  obtain ⟨below, header, above, reached, rfl, walked, judged⟩ :=
    Checks.foldlM_eq_error_iff.mp refused
  have remembers : Progress.Remembers constants epochs below header reached := by
    apply Progress.remembers_of_passed walked
    rw [← starts]
    cases below <;> rfl
  obtain ⟨fault, foremost⟩ := Progress.isForemost_of_next_eq_error remembers judged
  have stands : (below ++ header :: above)[below.length]? = some header := by simp
  have taken : (below ++ header :: above).take below.length = below := List.take_left
  refine ⟨below.length, ⟨header, stands, by rwa [taken]⟩, ?_, ?_⟩
  · rintro other ⟨_, same, otherFault⟩
    cases stands.symm.trans same
    rw [taken] at otherFault
    exact foremost other otherFault
  · rintro earlier inside other ⟨lower, lowerStands, otherFault⟩
    -- The headers below have passed, so none of them has a fault.
    rw [List.getElem?_append_left inside] at lowerStands
    rw [List.take_append_of_le_length (Nat.le_of_lt inside)] at otherFault
    refine not_faultAt_of_passed ?_ walked ⟨lower, lowerStands, otherFault⟩
    rw [← starts]
    cases below with
    | nil => cases lowerStands
    | cons => rfl

theorem foldlM_next_eq_error_iff (starts : headers.head? = some first) :
    headers.foldlM (Progress.next constants epochs) (.start first) = .error cause ↔
      ∃ index, IsFirstFault constants epochs headers index cause := by
  constructor
  · exact isFirstFault_of_refused starts
  · rintro ⟨index, isFirst⟩
    cases judged : headers.foldlM (Progress.next constants epochs) (.start first) with
    | ok progress => exact absurd isFirst.fault (not_faultAt_of_passed starts judged)
    | error other =>
        obtain ⟨_, otherIsFirst⟩ := isFirstFault_of_refused starts judged
        rw [otherIsFirst.unique isFirst]

/-- A chain is refused because it is empty or for its first fault. -/
theorem ofHeaders_eq_error_iff {error : Error} :
    ofHeaders constants epochs headers = .error error ↔
      headers = [] ∧ error = MalformedInput.headerCount 1 0 ∨
        ∃ index cause, IsFirstFault constants epochs headers index cause ∧
          error = .consensus cause := by
  cases headers with
  | nil =>
      simp only [ofHeaders, Except.error.injEq, true_and]
      constructor
      · intro same
        exact .inl same.symm
      · rintro (rfl | ⟨index, cause, ⟨⟨header, stands, _⟩, _, _⟩, _⟩)
        · rfl
        · cases stands
  | cons first rest =>
      have refused (cause : ConsensusError) :
          (first :: rest).foldlM (Progress.next constants epochs) (.start first) = .error cause ↔
            ∃ index, IsFirstFault constants epochs (first :: rest) index cause :=
        foldlM_next_eq_error_iff List.head?_cons
      simp only [ofHeaders, reduceCtorEq, false_and, false_or]
      split
      next progress passed =>
        simp only [reduceCtorEq, false_iff]
        rintro ⟨index, cause, isFirst, _⟩
        cases passed.symm.trans ((refused cause).mpr ⟨index, isFirst⟩)
      next cause judged =>
        constructor
        · rintro ⟨⟩
          obtain ⟨index, isFirst⟩ := (refused cause).mp judged
          exact ⟨index, cause, isFirst, rfl⟩
        · rintro ⟨index, other, isFirst, rfl⟩
          have same := judged.symm.trans ((refused other).mpr ⟨index, isFirst⟩)
          cases same
          rfl

/-! ## Difficulties that pass -/

/-- Headers whose difficulties pass have other faults only. -/
theorem FaultAt.blamesDifficulty_of_admits (faultAt : FaultAt constants epochs headers index cause)
    (admits : epochs.Admits constants headers) : Error.blamesDifficulty cause = false := by
  rw [EpochDifficulties.Admits, EpochDifficulties.areMinimal_iff] at admits
  obtain ⟨header, stands, fault⟩ := faultAt
  have listed : (headers.map (Header.difficulty constants))[index]? =
      some (header.difficulty constants) := by
    rw [List.getElem?_map, stands, Option.map_some]
  cases fault with
  | discontinuous | insufficient => rfl
  | unknown held notPrevious notCurrent =>
      rcases (admits.resolve_left held).before listed with current | ⟨previous, _⟩
      · exact absurd current notCurrent
      · exact absurd previous notPrevious
  | @returned earlier held member reached notCurrent =>
      obtain ⟨position, inside, rfl⟩ := List.mem_take_iff_getElem.mp member
      obtain ⟨below, inside⟩ := Nat.lt_min.mp inside
      have reachedAt : (headers.map (Header.difficulty constants))[position]? =
          some epochs.current := by
        rw [List.getElem?_map, List.getElem?_eq_getElem inside, Option.map_some, reached]
      have above : header.difficulty constants ∈
          (headers.map (Header.difficulty constants)).drop position := by
        apply List.mem_of_getElem? (i := index - position)
        rw [List.getElem?_drop, Nat.add_sub_cancel' (Nat.le_of_lt below), listed]
      exact absurd ((admits.resolve_left held).after reachedAt _ above) notCurrent

/-- Headers whose difficulties pass are not refused for them. -/
theorem blamesDifficulty_of_admits {error : Error} (admits : epochs.Admits constants headers)
    (refused : ofHeaders constants epochs headers = .error error) :
    error.blamesDifficulty = false := by
  obtain ⟨_, rfl⟩ | ⟨index, cause, isFirst, rfl⟩ := ofHeaders_eq_error_iff.mp refused
  · rfl
  · exact isFirst.fault.blamesDifficulty_of_admits admits

end ValidatedChain

end HeaderRelay
