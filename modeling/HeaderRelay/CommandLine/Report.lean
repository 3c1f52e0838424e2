import HeaderRelay.CommandLine.Arguments
import HeaderRelay.EpochRelay
import HeaderRelay.Hex.Input
import HeaderRelay.Proof.Encoding

/-!
# Reports

What each command finds out.  Hashes are read as they are sent and shown as
people read them.
-/

namespace HeaderRelay

inductive Report where
  | header (header : Header) (constants : Network.Constants)
  /-- A transaction is included by a branch of this depth. -/
  | inclusion (depth : Nat)
  | chain (validated : ValidatedChain)
  /-- A proof holds for an epoch relay with these difficulties. -/
  | verification (validated : ValidatedChain) (txid : Hash) (epochs : EpochDifficulties)
  deriving DecidableEq

/-- The bytes of each file that can be read. -/
abbrev Files :=
  String → Option Bytes

namespace Report

/-- Eight lower case hex digits behind a marker. -/
def bitsText (bits : UInt32) : String :=
  "0x" ++ Hex.encode (Bytes.ofNatBE 4 bits.toNat)

/-- What is told of a chain. -/
def chainMembers (validated : ValidatedChain) : List (String × Json) :=
  [("accumulated_difficulty", .ofText validated.accumulated.format),
    ("first_hash", .ofText validated.firstHash.display),
    ("headers", .ofNat validated.count),
    ("last_hash", .ofText validated.lastHash.display)]

def toJson : Report → Json
  | header subject constants =>
      .ofMembers [
        ("bits", .ofText (bitsText subject.bits)),
        ("difficulty", .ofText (subject.difficulty constants).format),
        ("hash", .ofText subject.hash.display),
        ("merkle_root", .ofText subject.merkleRoot.display),
        ("prev_block_hash", .ofText subject.previous.display),
        ("target", .ofText ("0x" ++ hexDigits subject.target)),
        ("time", .ofNat subject.time.toNat),
        ("valid_work", .bool subject.hasValidWork),
        ("version", .integer subject.version.toInt)]
  | inclusion depth => .ofMembers [("depth", .ofNat depth), ("included", .bool true)]
  | chain validated => .ofMembers (chainMembers validated)
  | verification validated txid epochs =>
      .ofMembers (chainMembers validated ++ [
        ("current_epoch_difficulty", .ofText epochs.current.format),
        ("previous_epoch_difficulty", .ofText epochs.previous.format),
        ("tx_hash", .ofText txid.display)])

end Report

/-- Reads the proof in a file. -/
def Files.proof (files : Files) (path : String) : Except ConfigError Proof :=
  match (files path).bind Bytes.toString? with
  | none => .error (.unreadableFile path)
  | some text =>
      match Proof.parseJson? text with
      | some proof => .ok proof
      | none => .error (.invalidProofFile path)

namespace Command

/-- Reads bytes that were given by hand. -/
def readBytes (text : String) : Except Error Bytes :=
  (Bytes.ofInput text).mapError Error.malformed

/-- Reads a hash that was given by hand. -/
def readHash (text : String) : Except Error Hash :=
  (Hash.ofInput text).mapError Error.malformed

/-- The relay that starts at a header and goes through retargets. -/
def bootstrap (config : RelayConfig) (genesis : String) (height : Height)
    (proofLength : Nat) (submitter : String) (retargets : List String) :
    Except Error EpochRelay := do
  let start := EpochRelay.ofConfig config
  let relay ← start.genesis config.governance (← readBytes genesis) height proofLength
  retargets.foldlM
    (fun relay headers => do return (← relay.retarget submitter (← readBytes headers)).1)
    relay

/-- Carries out a command. -/
def run (files : Files) (config : Config) (command : Command) : Except Error Report := do
  let constants := config.relay.network.constants
  match command with
  | header text =>
      let header ← (Header.decode (← readBytes text)).mapError Error.malformed
      return .header header constants
  | merkle txid root branch index =>
      let siblings ← (Proof.decodeBranch (← readBytes branch)).mapError Error.malformed
      let txid ← readHash txid
      let root ← readHash root
      (Merkle.verify txid root siblings index).mapError Error.consensus
      return .inclusion siblings.length
  | chain headers previous current =>
      let headers ← (Header.decodeChain (← readBytes headers)).mapError Error.malformed
      let epochs : EpochDifficulties :=
        ⟨BitVec.ofNat 256 previous.toNat, BitVec.ofNat 256 current.toNat⟩
      return .chain (← ValidatedChain.ofHeaders constants epochs headers)
  | verify genesis height proofLength retargets submitter path =>
      let proof ← (files.proof path).mapError Error.config
      let relay ← bootstrap config.relay genesis height
        (proofLength.getD config.relay.proofLength)
        (submitter.getD config.relay.governance) retargets
      let validated ← proof.verify relay.anchor config.verifier
      return .verification validated proof.txid
        ⟨relay.previousDifficulty, relay.currentDifficulty⟩

end Command

end HeaderRelay
