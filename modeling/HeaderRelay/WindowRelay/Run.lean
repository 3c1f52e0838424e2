import HeaderRelay.WindowRelay

/-!
# Runs of a window relay

Everything that can be asked of a window relay is a call with an answer.  A run
is a list of calls; the relay that a run leads to depends on nothing else.
-/

namespace HeaderRelay.WindowRelay

/-- A call, with the identity of the caller where it matters. -/
inductive Call where
  | genesis (caller : String) (epochStart tip : Bytes) (height : Height)
  | addHeaders (ancestor : Height) (headers : Bytes)
  | validate (height : Height) (headers : Bytes)
  | verifyProof (config : VerifierConfig) (proof : Proof)
  | checkAnchored (headers : Bytes)
  | isRecorded (height : Height) (hash : Hash)
  | areRecorded (height : Height) (headers : Bytes)
  | height
  | epochStart
  | range
  | epochDifficulties
  | capacity
  deriving DecidableEq

/-- What a call that succeeds tells. -/
inductive Answer where
  | done
  | flag (value : Bool)
  | flags (values : List Bool)
  | number (value : Nat)
  | range (oldest newest : Height)
  | difficulties (epochs : EpochDifficulties)
  | chain (validated : ValidatedChain)
  deriving DecidableEq

/-- A change: the relay stays as it is if the operation fails. -/
def change (relay : WindowRelay) (result : Except Error WindowRelay) :
    WindowRelay × Except Error Answer :=
  match result with
  | .ok changed => (changed, .ok .done)
  | .error error => (relay, .error error)

/-- Which of some headers are recorded at successive heights. -/
def areRecorded (relay : WindowRelay) (height : Height) (headers : List Header) : List Bool :=
  headers.zipIdx.map fun (header, offset) =>
    relay.isRecorded (height + UInt32.ofNat offset) header.hash

/-- The relay after a call, and the answer. -/
def step (relay : WindowRelay) : Call → WindowRelay × Except Error Answer
  | .genesis caller epochStart tip height =>
      relay.change (relay.genesis caller epochStart tip height)
  | .addHeaders ancestor headers => relay.change (relay.addHeaders ancestor headers)
  | .validate height headers => (relay, (relay.validate height headers).map .flag)
  | .verifyProof config proof => (relay, (proof.verify relay.anchor config).map .chain)
  | .checkAnchored headers =>
      (relay, do
        let headers ← (Header.decodeChain headers).mapError Error.malformed
        relay.checkAnchored headers
        return .done)
  | .isRecorded height hash => (relay, .ok (.flag (relay.isRecorded height hash)))
  | .areRecorded height headers =>
      (relay, do
        let headers ← (Header.decodeChain headers).mapError Error.malformed
        return .flags (relay.areRecorded height headers))
  | .height => (relay, relay.height.map fun height => .number height.toNat)
  | .epochStart => (relay, relay.epochStart.map fun height => .number height.toNat)
  | .range => (relay, relay.range.map fun (oldest, newest) => .range oldest newest)
  | .epochDifficulties => (relay, relay.epochDifficulties.map .difficulties)
  | .capacity => (relay, .ok (.number relay.capacity))

/-- The relay after each call of a list, with the answers. -/
def trace (relay : WindowRelay) : List Call → List (WindowRelay × Except Error Answer)
  | [] => []
  | call :: rest =>
      let result := relay.step call
      result :: trace result.1 rest

/-- The relay after all calls of a list. -/
def run (relay : WindowRelay) (calls : List Call) : WindowRelay :=
  calls.foldl (fun relay call => (relay.step call).1) relay

theorem run_append (relay : WindowRelay) (first second : List Call) :
    relay.run (first ++ second) = (relay.run first).run second := by
  simp [run]

end HeaderRelay.WindowRelay
