import HeaderRelay.Hash

/-!
# Transactions

Transactions as nodes exchange them.  The id of a transaction does not depend on
its witnesses: it is the hash of the form without them.
-/

namespace HeaderRelay

namespace Transaction

/-- What a transaction spends, and with what right. -/
structure Input where
  /-- The transaction whose output is spent. -/
  previous : Hash
  /-- The position of that output. -/
  position : UInt32
  script : Bytes
  sequence : UInt32
  witness : List Bytes := []
  deriving DecidableEq

/-- What a transaction pays, and to whom. -/
structure Output where
  value : UInt64
  script : Bytes
  deriving DecidableEq

end Transaction

structure Transaction where
  version : Int32
  inputs : List Transaction.Input
  outputs : List Transaction.Output
  lockTime : UInt32
  deriving DecidableEq

namespace Transaction

/-- A count in one byte, or in two, four or eight behind a byte that says so. -/
def encodeCount (count : Nat) : Bytes :=
  if count < 0xFD then [UInt8.ofNat count]
  else if count < UInt16.size then 0xFD :: Bytes.ofNatLE 2 count
  else if count < UInt32.size then 0xFE :: Bytes.ofNatLE 4 count
  else 0xFF :: Bytes.ofNatLE 8 count

/-- A byte string behind its length. -/
def encodeBytes (bytes : Bytes) : Bytes :=
  encodeCount bytes.length ++ bytes

/-- Items behind their number. -/
def encodeAll {α : Type} (encode : α → Bytes) (items : List α) : Bytes :=
  encodeCount items.length ++ items.flatMap encode

namespace Input

/-- The bytes of an input apart from its witness. -/
def encode (input : Input) : Bytes :=
  input.previous.bytes ++ Bytes.ofWord input.position ++ encodeBytes input.script ++
    Bytes.ofWord input.sequence

/-- The bytes of the witness. -/
def encodeWitness (input : Input) : Bytes :=
  encodeAll encodeBytes input.witness

end Input

/-- The bytes of an output. -/
def Output.encode (output : Output) : Bytes :=
  Bytes.ofNatLE 8 output.value.toNat ++ encodeBytes output.script

/-- The inputs and outputs. -/
def encodeTransfers (transaction : Transaction) : Bytes :=
  encodeAll Input.encode transaction.inputs ++ encodeAll Output.encode transaction.outputs

/-- The form without witnesses. -/
def encodeStripped (transaction : Transaction) : Bytes :=
  Bytes.ofWord transaction.version.toUInt32 ++ transaction.encodeTransfers ++
    Bytes.ofWord transaction.lockTime

/-- Whether the form with witnesses is used. It also stands for transactions
without inputs, since their count of zero would be taken for its marker. -/
def isMarked (transaction : Transaction) : Bool :=
  transaction.inputs.isEmpty || transaction.inputs.any fun input => !input.witness.isEmpty

/-- The bytes of a transaction: with a marker and the witnesses where needed. -/
def encode (transaction : Transaction) : Bytes :=
  if transaction.isMarked then
    Bytes.ofWord transaction.version.toUInt32 ++ [0x00, 0x01] ++
      transaction.encodeTransfers ++ transaction.inputs.flatMap Input.encodeWitness ++
      Bytes.ofWord transaction.lockTime
  else transaction.encodeStripped

/-- The transaction id. -/
def id (transaction : Transaction) : Hash :=
  Hash.double transaction.encodeStripped

end Transaction

end HeaderRelay
