import HeaderRelay.Header

/-!
# Header chains

A chain is judged by the two difficulties that a relay accepts at the moment.
Of every header, from the first to the last:

1. it commits to the hash of the header before it;
2. its hash meets its own target;
3. its difficulty is that of the previous or of the current epoch;
4. once a header had the difficulty of the current epoch, so do all after it.

The last two rules are off when both difficulties are one, the least that a
test network uses.
-/

namespace HeaderRelay

/-- The difficulties of two successive epochs. -/
structure EpochDifficulties where
  previous : Difficulty
  current : Difficulty
  deriving DecidableEq

namespace EpochDifficulties

/-- Whether both epochs have difficulty one. -/
def areMinimal (epochs : EpochDifficulties) : Bool :=
  epochs.previous = 1 && epochs.current = 1

end EpochDifficulties

/-- What is known of a chain that was found valid. -/
structure ValidatedChain where
  firstHash : Hash
  lastHash : Hash
  count : Nat
  /-- Sum of the difficulties of all headers. -/
  accumulated : Difficulty
  deriving DecidableEq

namespace ValidatedChain

/-- What the headers judged so far leave behind for the next one. -/
structure Progress where
  count : Nat
  lastHash : Hash
  seenCurrent : Bool
  accumulated : Difficulty
  deriving DecidableEq

namespace Progress

/-- Before the first header, which is held against its own parent. -/
def start (first : Header) : Progress :=
  ⟨0, first.previous, false, 0⟩

/-- Judges one more header. -/
def next (constants : Network.Constants) (epochs : EpochDifficulties)
    (progress : Progress) (header : Header) : Except ConsensusError Progress :=
  let index := progress.count
  let hash := header.hash
  let target := header.target
  let difficulty := target.difficulty constants.reference
  let isCurrent := difficulty = epochs.current
  if header.previous ≠ progress.lastHash then .error (.discontinuousChain index)
  else if !target.isMetBy hash then .error (.insufficientWork index)
  else if epochs.areMinimal then
    .ok ⟨index + 1, hash, progress.seenCurrent, progress.accumulated + difficulty⟩
  else if difficulty ≠ epochs.previous ∧ ¬isCurrent then
    .error (.wrongEpochDifficulty index difficulty)
  else if progress.seenCurrent ∧ ¬isCurrent then .error (.outOfOrderTransition index)
  else
    .ok ⟨index + 1, hash, progress.seenCurrent || isCurrent,
      progress.accumulated + difficulty⟩

end Progress

/-- Judges a chain of at least one header. -/
def ofHeaders (constants : Network.Constants) (epochs : EpochDifficulties) :
    List Header → Except Error ValidatedChain
  | [] => .error (MalformedInput.headerCount 1 0)
  | first :: rest =>
      match (first :: rest).foldlM (Progress.next constants epochs) (.start first) with
      | .ok progress =>
          .ok ⟨first.hash, progress.lastHash, progress.count, progress.accumulated⟩
      | .error cause => .error cause

end ValidatedChain

end HeaderRelay
