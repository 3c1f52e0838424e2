import HeaderRelay.Proof.Verification
import HeaderRelay.WindowRelay.Ring

/-!
# Window relay

Remembers the most recent blocks of the longest chain it has seen, in a ring.
The chain grows by batches: a recorded block followed by six new headers.  A
batch that starts below the tip replaces everything above its first block,
which is how a reorganization is taken in; a batch must lead above the tip.

Targets are tracked through the first block of each epoch.  A header carries
the target of its epoch's first block.  The first block of an epoch that the
relay has not entered yet may declare another target, within a factor of four;
the one of the current epoch may be replaced by another block with the same
target.
-/

namespace HeaderRelay

/-- The first block of an epoch. -/
structure EpochStart where
  height : Height
  header : Header
  deriving DecidableEq

/-- What a window knows of its chain, apart from the recorded blocks. -/
structure TrackedChain where
  genesisHeight : Height
  tip : Height
  epochStart : EpochStart
  previousEpochStart : Option EpochStart := none
  deriving DecidableEq

structure WindowRelay where
  constants : Network.Constants
  governance : String
  ring : Ring
  /-- The chain, once genesis has happened. -/
  chain : Option TrackedChain := none

namespace WindowRelay

/-- The number of headers of a batch: a recorded block and six new ones. -/
def batchSize : Nat :=
  7

/-- The number of headers that `validate` takes. -/
def validationSize : Nat :=
  6

/-- A relay before genesis. The ring must have room for a batch. -/
def create (capacity : Nat) (constants : Network.Constants) (governance : String) :
    Except Error WindowRelay :=
  if small : capacity < batchSize then .error (ConfigError.windowTooSmall capacity)
  else
    .ok {
      constants := constants
      governance := governance
      ring := .empty capacity (Nat.lt_of_lt_of_le (by decide) (Nat.le_of_not_lt small))
    }

/-- A relay before genesis, with the configured capacity, network and
governance. -/
def ofConfig (window : WindowConfig) (relay : RelayConfig) : Except Error WindowRelay :=
  create window.capacity relay.network.constants relay.governance

/-- The number of blocks that are remembered. -/
def capacity (relay : WindowRelay) : Nat :=
  relay.ring.capacity

/-- The chain of a relay after genesis. -/
def tracked (relay : WindowRelay) : Except Error TrackedChain :=
  match relay.chain with
  | some chain => .ok chain
  | none => .error RelayStateError.notInitialized

/-- Starts the chain with its tip and the first header of the tip's epoch. Both
are trusted, but they must agree: on the compact target, and entirely if the
tip is the first block of its epoch. -/
def genesis (relay : WindowRelay) (caller : String) (epochStart tip : Bytes)
    (height : Height) : Except Error WindowRelay := do
  if caller ≠ relay.governance then
    throw (AuthorizationError.notGovernance caller : Error)
  if relay.chain.isSome then throw (RelayStateError.alreadyInitialized : Error)
  let epochStart ← (Header.decode epochStart).mapError Error.malformed
  let tip ← (Header.decode tip).mapError Error.malformed
  let startHeight := Epoch.startOf height
  if (height = startHeight ∧ tip ≠ epochStart) ∨ tip.bits ≠ epochStart.bits then
    throw (RelayStateError.invalidGenesisHeight height : Error)
  return { relay with
    ring := relay.ring.record height tip.hash
    chain := some {
      genesisHeight := height
      tip := height
      epochStart := ⟨startHeight, epochStart⟩
    }
  }

/-- The tracked epoch start whose target counts at a height. Only the last two
epochs are tracked. -/
def startFor (chain : TrackedChain) (height : Height) : Except Error EpochStart :=
  if chain.epochStart.height ≤ height then .ok chain.epochStart
  else
    match chain.previousEpochStart with
    | some previous =>
        if previous.height ≤ height then .ok previous
        else .error RelayStateError.chainTooOld
    | none => .error RelayStateError.chainTooOld

/-- Whether a header may open an epoch: with the target of the current epoch's
start if it stands at the same height, else with a target within a factor of
four of the one before. -/
def mayOpenEpoch (current base : EpochStart) (height : Height) (header : Header) : Bool :=
  if height = current.height then header.target = current.header.target
  else base.header.target.mayBecome header.target

/-- Checks the targets of headers at successive heights from `first` on.

`base` is the epoch start in force at `first` and `crossed` the last epoch start
met since; tells the last one met in the end. The header at `first` itself opens
no epoch. -/
def followTargets (current base : EpochStart) (first : Height) :
    (offset : Nat) → (crossed : Option EpochStart) → List Header →
      Except Error (Option EpochStart)
  | _, crossed, [] => .ok crossed
  | offset, crossed, header :: rest =>
      let inForce := crossed.getD base
      match first.up? offset with
      | none => .error (RelayStateError.invalidAncestorHeight first)
      | some height =>
          if 0 < offset && Epoch.startsAt height then
            if mayOpenEpoch current inForce height header then
              followTargets current base first (offset + 1) (some ⟨height, header⟩) rest
            else .error (ConsensusError.wrongTarget height)
          else if header.target = inForce.header.target then
            followTargets current base first (offset + 1) crossed rest
          else .error (ConsensusError.wrongTarget height)

/-- Checks the targets and the chain of headers at successive heights from
`first` on; tells the epoch start they lead into, if any. -/
def checkHeaders (constants : Network.Constants) (chain : TrackedChain) (first : Height)
    (headers : List Header) : Except Error (Option EpochStart) := do
  let base ← startFor chain first
  let crossed ← followTargets chain.epochStart base first 0 none headers
  let _ ← ValidatedChain.ofHeaders constants
    ⟨base.header.difficulty constants, (crossed.getD base).header.difficulty constants⟩
    headers
  return crossed

/-- The tracked chain after it was extended to `tip`, possibly into an epoch
that starts at `crossed`. -/
def extendTo (chain : TrackedChain) (tip : Height) (crossed : Option EpochStart) :
    TrackedChain :=
  match crossed with
  | none => { chain with tip := tip }
  | some start =>
      { chain with
        tip := tip
        epochStart := start
        previousEpochStart :=
          if chain.epochStart.height < start.height then some chain.epochStart
          else chain.previousEpochStart
      }

/-- Extends the chain by six headers. The first of the seven given headers is
the recorded block at `ancestor`. -/
def addHeaders (relay : WindowRelay) (ancestor : Height) (headers : Bytes) :
    Except Error WindowRelay := do
  let chain ← relay.tracked
  let headers ← (Header.decodeChain headers).mapError Error.malformed
  match headers with
  | [] => throw (MalformedInput.headerCount batchSize 0 : Error)
  | first :: added =>
      if (first :: added).length ≠ batchSize then
        throw (MalformedInput.headerCount batchSize (first :: added).length : Error)
      match relay.ring.recorded? ancestor with
      | none => throw (RelayStateError.ancestorNotRecorded ancestor : Error)
      | some recorded =>
          if first.hash ≠ recorded then
            throw (RelayStateError.otherAncestorRecorded ancestor recorded : Error)
          match ancestor.up? (batchSize - 1) with
          | none => throw (RelayStateError.invalidAncestorHeight ancestor : Error)
          | some tip =>
              if tip ≤ chain.tip then
                throw (RelayStateError.invalidAncestorHeight ancestor : Error)
              let crossed ← checkHeaders relay.constants chain ancestor (first :: added)
              return { relay with
                ring := relay.ring.recordAll (ancestor + 1) (added.map Header.hash)
                chain := some (extendTo chain tip crossed)
              }

/-- Whether six headers form a valid chain whose fourth is the block recorded at
`height`.

A fourth header that is not recorded is no error; a chain that is not valid
is. -/
def validate (relay : WindowRelay) (height : Height) (headers : Bytes) :
    Except Error Bool := do
  let chain ← relay.tracked
  let headers ← (Header.decodeChain headers).mapError Error.malformed
  match headers with
  | [_, _, _, anchor, _, _] =>
      match height.down? 3, relay.ring.recorded? height with
      | some first, some recorded =>
          if recorded ≠ anchor.hash then return false
          let _ ← checkHeaders relay.constants chain first headers
          return true
      | _, _ => return false
  | _ => throw (MalformedInput.headerCount validationSize headers.length : Error)

/-- The height of the tip. -/
def height (relay : WindowRelay) : Except Error Height :=
  relay.tracked.map TrackedChain.tip

/-- The height of the first block of the current epoch. -/
def epochStart (relay : WindowRelay) : Except Error Height :=
  relay.tracked.map fun chain => chain.epochStart.height

/-- The oldest and the newest height that are still recorded. -/
def range (relay : WindowRelay) : Except Error (Height × Height) :=
  relay.tracked.map fun chain =>
    (max chain.genesisHeight (chain.tip.down (relay.capacity - 1)), chain.tip)

/-- Whether a hash is recorded at a height. -/
def isRecorded (relay : WindowRelay) (height : Height) (hash : Hash) : Bool :=
  relay.ring.recorded? height = some hash

/-- The difficulties that proofs are held against. In the first epoch the
current one counts as the previous one too. -/
def epochDifficulties (relay : WindowRelay) : Except Error EpochDifficulties :=
  relay.tracked.map fun chain =>
    ⟨(chain.previousEpochStart.getD chain.epochStart).header.difficulty relay.constants,
      chain.epochStart.header.difficulty relay.constants⟩

/-- The height of the first of some headers, found through the first recorded
hash among its parent and the headers themselves. -/
def place? (relay : WindowRelay) (first : Header) (rest : List Header) : Option Height :=
  (first.previous :: (first :: rest).map Header.hash).zipIdx.findSome?
    fun (hash, position) => do
      let height ← relay.ring.heightOf? hash
      let above ← height.up? 1
      above.down? position

/-- Checks that a header is the recorded block at its height. -/
def checkRecorded (relay : WindowRelay) (height : Height) (header : Header) :
    Except Error Unit :=
  match relay.ring.recorded? height with
  | none => .error (RelayStateError.ancestorNotRecorded height)
  | some recorded =>
      if header.hash = recorded then .ok ()
      else .error (RelayStateError.otherAncestorRecorded height recorded)

/-- Checks that headers continue the recorded chain: they connect to it, and
those up to the tip are the recorded blocks. -/
def checkAnchored (relay : WindowRelay) (headers : List Header) : Except Error Unit := do
  let chain ← relay.tracked
  match headers with
  | [] => return ()
  | first :: rest =>
      match relay.place? first rest with
      | none => throw (RelayStateError.ancestorNotRecorded chain.tip : Error)
      | some start =>
          let upToTip := (first :: rest).take (chain.tip.toNat + 1 - start.toNat)
          (upToTip.zipIdx start.toNat).forM fun (header, height) =>
            relay.checkRecorded (UInt32.ofNat height) header

/-- The relay as an anchor, which knows difficulties and blocks. -/
def anchor (relay : WindowRelay) : Anchor where
  constants := relay.constants
  epochs := relay.epochDifficulties
  checkHeaders := relay.checkAnchored

end WindowRelay

end HeaderRelay
