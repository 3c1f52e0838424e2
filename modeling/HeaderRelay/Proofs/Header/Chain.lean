import HeaderRelay.Header.Chain
import HeaderRelay.Proofs.Checks
import Mathlib.Data.List.Chain

/-!
# Which chains are valid

The judgement of a chain walks along it and remembers the last hash, whether the
current epoch was reached and the sum of the difficulties.  This module says
without a walk what it accepts: the headers are linked, each has valid work, and
their difficulties are those of the previous epoch first and those of the
current epoch after that.
-/

namespace HeaderRelay

namespace Header

/-- A list is cut in two by the header at a position. -/
theorem exists_append_of_getElem? {headers : List Header} {header : Header} {position : Nat}
    (found : headers[position]? = some header) :
    ∃ before after, headers = before ++ header :: after ∧ before.length = position := by
  obtain ⟨below, rfl⟩ := List.getElem?_eq_some_iff.mp found
  refine ⟨headers.take position, headers.drop (position + 1), ?_, ?_⟩
  · rw [← List.drop_eq_getElem_cons below, List.take_append_drop]
  · exact List.length_take_of_le (Nat.le_of_lt below)

/-- Each header commits to the hash of the one before it. -/
def Linked (headers : List Header) : Prop :=
  headers.IsChain fun lower upper => upper.previous = lower.hash

@[simp] theorem linked_nil : Linked [] := .nil

theorem linked_cons {header : Header} {rest : List Header} :
    Linked (header :: rest) ↔
      (∀ upper ∈ rest.head?, upper.previous = header.hash) ∧ Linked rest :=
  List.isChain_cons

/-- A header with the easiest target of the test network. -/
def easy (previous : Hash) (nonce : UInt32) : Header :=
  ⟨1, previous, .zero, 1, 0x207FFFFF, nonce⟩

end Header

namespace EpochDifficulties

/-- Some difficulties are those of the previous epoch up to a point and those of
the current epoch from there on. -/
def Splits (epochs : EpochDifficulties) (difficulties : List Difficulty) : Prop :=
  ∃ before after, difficulties = before ++ after ∧
    (∀ difficulty ∈ before, difficulty = epochs.previous) ∧
    ∀ difficulty ∈ after, difficulty = epochs.current

/-- Only difficulties of the previous epoch come before one that is not of the
current epoch. -/
theorem Splits.before {epochs : EpochDifficulties} {difficulties : List Difficulty}
    (splits : epochs.Splits difficulties) {position : Nat} {difficulty : Difficulty}
    (listed : difficulties[position]? = some difficulty) :
    difficulty = epochs.current ∨
      difficulty = epochs.previous ∧
        ∀ earlier ∈ difficulties.take position, earlier = epochs.previous := by
  obtain ⟨before, after, rfl, old, new⟩ := splits
  rcases Nat.lt_or_ge position before.length with inside | beyond
  · right
    rw [List.getElem?_append_left inside] at listed
    refine ⟨old _ (List.mem_of_getElem? listed), ?_⟩
    intro earlier member
    rw [List.take_append_of_le_length (Nat.le_of_lt inside)] at member
    exact old _ (List.mem_of_mem_take member)
  · left
    rw [List.getElem?_append_right beyond] at listed
    exact new _ (List.mem_of_getElem? listed)

/-- Only difficulties of the current epoch come after one. -/
theorem Splits.after {epochs : EpochDifficulties} {difficulties : List Difficulty}
    (splits : epochs.Splits difficulties) {position : Nat}
    (reached : difficulties[position]? = some epochs.current) :
    ∀ later ∈ difficulties.drop position, later = epochs.current := by
  obtain ⟨before, after, rfl, old, new⟩ := splits
  intro later member
  rw [List.drop_append, List.mem_append] at member
  rcases member with early | late
  · -- The one that was reached is old too, so the epochs agree.
    have inside := List.length_pos_of_mem early
    rw [List.length_drop, Nat.sub_pos_iff_lt] at inside
    rw [List.getElem?_append_left inside] at reached
    exact (old later (List.mem_of_mem_drop early)).trans
      (old _ (List.mem_of_getElem? reached)).symm
  · exact new later (List.mem_of_mem_drop late)

/-- What the difficulties of the headers still to come must be: all those of the
current epoch once it was reached. -/
def Remaining (epochs : EpochDifficulties) (seenCurrent : Bool)
    (difficulties : List Difficulty) : Prop :=
  if seenCurrent then ∀ difficulty ∈ difficulties, difficulty = epochs.current
  else epochs.Splits difficulties

@[simp] theorem remaining_nil (epochs : EpochDifficulties) (seenCurrent : Bool) :
    epochs.Remaining seenCurrent [] := by
  cases seenCurrent
  · exact ⟨[], [], rfl, by simp, by simp⟩
  · simp [Remaining]

/-- A split is found one difficulty at a time. -/
theorem splits_cons {epochs : EpochDifficulties} {difficulty : Difficulty}
    {rest : List Difficulty} :
    epochs.Splits (difficulty :: rest) ↔
      (difficulty = epochs.previous ∨ difficulty = epochs.current) ∧
        epochs.Remaining (decide (difficulty = epochs.current)) rest := by
  by_cases current : difficulty = epochs.current
  · simp only [current, decide_true, Remaining, if_true, or_true, true_and]
    constructor
    · intro splits
      rcases splits with ⟨before, after, split, old, new⟩
      cases before with
      | nil =>
          obtain rfl : epochs.current :: rest = after := split
          exact fun item member => new item (List.mem_cons_of_mem _ member)
      | cons first before =>
          -- The first difficulty belongs to both epochs, so they agree.
          obtain ⟨rfl, rfl⟩ := List.cons.inj split
          have same := old epochs.current (by simp)
          intro item member
          rcases List.mem_append.mp member with member | member
          · rw [same]
            exact old item (List.mem_cons_of_mem _ member)
          · exact new item member
    · intro all
      exact ⟨[], epochs.current :: rest, rfl, by simp, by simpa using all⟩
  · simp only [current, decide_false, Remaining, Bool.false_eq_true, if_false, or_false]
    constructor
    · intro splits
      rcases splits with ⟨before, after, split, old, new⟩
      cases before with
      | nil =>
          obtain rfl : difficulty :: rest = after := split
          exact absurd (new difficulty (by simp)) current
      | cons first before =>
          obtain ⟨rfl, rfl⟩ := List.cons.inj split
          exact ⟨old difficulty (by simp), before, after, rfl,
            fun item member => old item (List.mem_cons_of_mem _ member), new⟩
    · intro conditions
      rcases conditions with ⟨first, before, after, rfl, old, new⟩
      exact ⟨difficulty :: before, after, rfl, by simpa [first] using old, new⟩

theorem remaining_cons {epochs : EpochDifficulties} {seenCurrent : Bool}
    {difficulty : Difficulty} {rest : List Difficulty} :
    epochs.Remaining seenCurrent (difficulty :: rest) ↔
      (difficulty = epochs.previous ∨ difficulty = epochs.current) ∧
        (seenCurrent → difficulty = epochs.current) ∧
        epochs.Remaining (seenCurrent || decide (difficulty = epochs.current)) rest := by
  cases seenCurrent with
  | false =>
      have split : epochs.Splits (difficulty :: rest) ↔ _ := splits_cons
      simpa [Remaining] using split
  | true =>
      simp only [Remaining, if_true, List.forall_mem_cons, true_imp_iff, Bool.true_or]
      constructor
      · intro conditions
        rcases conditions with ⟨first, others⟩
        exact ⟨.inr first, first, others⟩
      · intro remaining
        rcases remaining with ⟨_, first, others⟩
        exact ⟨first, others⟩

/-- Whether the difficulties of some headers pass: any do if both epochs have
difficulty one. -/
def Admits (constants : Network.Constants) (epochs : EpochDifficulties)
    (headers : List Header) : Prop :=
  epochs.areMinimal = true ∨ epochs.Splits (headers.map (Header.difficulty constants))

/-- Headers that all have the previous difficulty pass with any current one. -/
theorem Admits.of_previous {constants : Network.Constants} {previous current : Difficulty}
    {headers : List Header} (old : ∀ header ∈ headers, header.difficulty constants = previous) :
    Admits constants ⟨previous, current⟩ headers :=
  .inr ⟨headers.map (Header.difficulty constants), [], (List.append_nil _).symm,
    List.forall_mem_map.mpr old, by simp⟩

/-- Headers that pass with the current difficulty alone pass with any previous one,
unless the current one switches the rules off. -/
theorem Admits.of_current {constants : Network.Constants} {previous current : Difficulty}
    {headers : List Header} (notOne : current ≠ 1)
    (admits : Admits constants ⟨current, current⟩ headers) :
    Admits constants ⟨previous, current⟩ headers := by
  right
  obtain ⟨before, after, split, old, new⟩ :=
    admits.resolve_left (by simpa [areMinimal] using notOne)
  exact ⟨[], before ++ after, split, by simp, List.forall_mem_append.mpr ⟨old, new⟩⟩

end EpochDifficulties

namespace ValidatedChain

variable {constants : Network.Constants} {epochs : EpochDifficulties}

namespace Progress

/-- What one more header leaves behind if it passes. -/
def advance (constants : Network.Constants) (epochs : EpochDifficulties)
    (progress : Progress) (header : Header) : Progress where
  count := progress.count + 1
  lastHash := header.hash
  seenCurrent :=
    progress.seenCurrent ||
      !epochs.areMinimal && decide (header.difficulty constants = epochs.current)
  accumulated := progress.accumulated + header.difficulty constants

/-- What is asked of one more header. -/
theorem next_eq_ok_iff {progress result : Progress} {header : Header} :
    next constants epochs progress header = .ok result ↔
      header.previous = progress.lastHash ∧ header.hasValidWork = true ∧
        (epochs.areMinimal = true ∨
          (header.difficulty constants = epochs.previous ∨
            header.difficulty constants = epochs.current) ∧
          (progress.seenCurrent → header.difficulty constants = epochs.current)) ∧
        progress.advance constants epochs header = result := by
  have work_eq : header.target.isMetBy header.hash = header.hasValidWork := rfl
  have difficulty_eq :
      header.target.difficulty constants.reference = header.difficulty constants := rfl
  simp only [next, advance, work_eq, difficulty_eq]
  by_cases linked : header.previous = progress.lastHash
  case neg => simp [linked]
  by_cases work : header.hasValidWork = true
  case neg => simp [linked, work]
  by_cases minimal : epochs.areMinimal = true
  case pos => simp [linked, work, minimal]
  by_cases current : header.difficulty constants = epochs.current
  case pos => simp [linked, work, minimal, current]
  by_cases previous : header.difficulty constants = epochs.previous
  case neg => simp [linked, work, minimal, current, previous]
  cases seen : progress.seenCurrent <;>
    simp [linked, work, minimal, previous, previous ▸ current]

theorem foldlM_next_eq_ok_iff {progress result : Progress} {headers : List Header} :
    headers.foldlM (next constants epochs) progress = .ok result ↔
      (∀ first ∈ headers.head?, first.previous = progress.lastHash) ∧
        Header.Linked headers ∧ (∀ header ∈ headers, header.hasValidWork = true) ∧
        (epochs.areMinimal = true ∨
          epochs.Remaining progress.seenCurrent (headers.map (Header.difficulty constants))) ∧
        headers.foldl (advance constants epochs) progress = result := by
  induction headers generalizing progress with
  | nil => simp
  | cons header rest ih =>
      rw [List.foldlM_cons, Checks.bind_eq_ok_iff]
      simp only [next_eq_ok_iff, ih, List.head?_cons, Option.mem_some_iff, forall_eq',
        Header.linked_cons, List.forall_mem_cons, List.map_cons,
        EpochDifficulties.remaining_cons, List.foldl_cons]
      constructor
      · intro succeeded
        rcases succeeded with ⟨_, ⟨joined, work, admitted, rfl⟩, linked, chained, works, remaining,
          folded⟩
        refine ⟨joined, ⟨linked, chained⟩, ⟨work, works⟩, ?_, folded⟩
        by_cases minimal : epochs.areMinimal = true
        · exact .inl minimal
        · right
          obtain ⟨known, ordered⟩ := admitted.resolve_left minimal
          exact ⟨known, ordered, by simpa [advance, minimal] using remaining⟩
      · intro conditions
        rcases conditions with ⟨joined, ⟨linked, chained⟩, ⟨work, works⟩, admitted, folded⟩
        refine ⟨_, ⟨joined, work, ?_, rfl⟩, linked, chained, works, ?_, folded⟩
        · exact admitted.imp_right fun ⟨known, ordered, _⟩ => ⟨known, ordered⟩
        · by_cases minimal : epochs.areMinimal = true
          · exact .inl minimal
          · right
            simpa [advance, minimal] using (admitted.resolve_left minimal).2.2

@[simp] theorem count_foldl_advance (progress : Progress) (headers : List Header) :
    (headers.foldl (advance constants epochs) progress).count =
      progress.count + headers.length := by
  induction headers generalizing progress with
  | nil => simp
  | cons header rest ih =>
      rw [List.foldl_cons, ih, List.length_cons]
      simp only [advance]
      omega

@[simp] theorem lastHash_foldl_advance (progress : Progress) (header : Header)
    (rest : List Header) :
    ((header :: rest).foldl (advance constants epochs) progress).lastHash =
      (rest.getLastD header).hash := by
  induction rest generalizing progress header with
  | nil => simp [advance]
  | cons next rest ih =>
      rw [List.foldl_cons, ih, List.getLastD_cons]

@[simp] theorem accumulated_foldl_advance (progress : Progress) (headers : List Header) :
    (headers.foldl (advance constants epochs) progress).accumulated =
      progress.accumulated + (headers.map (Header.difficulty constants)).sum := by
  induction headers generalizing progress with
  | nil => simp
  | cons header rest ih =>
      rw [List.foldl_cons, ih, List.map_cons, List.sum_cons]
      simp only [advance]
      rw [BitVec.add_assoc]

end Progress

/-- What a valid chain is known by. -/
def summary (constants : Network.Constants) (first : Header) (rest : List Header) :
    ValidatedChain where
  firstHash := first.hash
  lastHash := (rest.getLastD first).hash
  count := rest.length + 1
  accumulated := ((first :: rest).map (Header.difficulty constants)).sum

/-- A chain is valid exactly when it is linked, has valid work throughout and has
difficulties that pass. -/
theorem ofHeaders_eq_ok_iff {first : Header} {rest : List Header}
    {validated : ValidatedChain} :
    ofHeaders constants epochs (first :: rest) = .ok validated ↔
      Header.Linked (first :: rest) ∧
        (∀ header ∈ first :: rest, header.hasValidWork = true) ∧
        epochs.Admits constants (first :: rest) ∧ summary constants first rest = validated := by
  have passes (progress : Progress) :
      (first :: rest).foldlM (Progress.next constants epochs) (.start first) = .ok progress ↔ _ :=
    Progress.foldlM_next_eq_ok_iff
  simp only [List.head?_cons, Option.mem_some_iff, forall_eq', Progress.start, true_and,
    EpochDifficulties.Remaining, Bool.false_eq_true, if_false] at passes
  have summarized : summary constants first rest =
      let last := (first :: rest).foldl (Progress.advance constants epochs) (.start first)
      ⟨first.hash, last.lastHash, last.count, last.accumulated⟩ := by
    simp only [Progress.lastHash_foldl_advance, Progress.count_foldl_advance,
      Progress.accumulated_foldl_advance]
    simp [summary, Progress.start]
  rw [summarized]
  simp only [ofHeaders, Progress.start]
  split
  next progress passed =>
    obtain ⟨linked, works, admitted, rfl⟩ := (passes progress).mp passed
    simp only [Except.ok.injEq]
    exact ⟨fun told => ⟨linked, works, admitted, told⟩, fun accepted => accepted.2.2.2⟩
  next cause failed =>
    refine ⟨nofun, fun ⟨linked, works, admitted, _⟩ => ?_⟩
    have passed := (passes _).mpr ⟨linked, works, admitted, rfl⟩
    exact nomatch failed.symm.trans passed

end ValidatedChain

end HeaderRelay
