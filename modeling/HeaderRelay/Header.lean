import HeaderRelay.Error
import HeaderRelay.Network

/-!
# Block headers

The 80-byte header: version, hash of the block before, Merkle root, time,
compact target and nonce, each number with its lowest byte first.  A chain is
written as its headers one after the other, without separators or a count.
-/

namespace HeaderRelay

structure Header where
  version : Int32
  /-- Hash of the block before. -/
  previous : Hash
  merkleRoot : Hash
  time : UInt32
  /-- The target in compact form. -/
  bits : UInt32
  nonce : UInt32
  deriving DecidableEq

namespace Header

/-- The number of bytes of a header. -/
def size : Nat :=
  80

/-- The bytes of a header. -/
def encode (header : Header) : Bytes :=
  Bytes.ofWord header.version.toUInt32 ++ header.previous.bytes ++
    header.merkleRoot.bytes ++ Bytes.ofWord header.time ++
    Bytes.ofWord header.bits ++ Bytes.ofWord header.nonce

@[simp] theorem length_encode (header : Header) : header.encode.length = size := by
  simp [encode, size]

/-- Reads a header from exactly 80 bytes. -/
def decode (bytes : Bytes) : Except MalformedInput Header :=
  if length : bytes.length = size then
    .ok {
      version := (Bytes.toWord (Bytes.field bytes 0 4)).toInt32
      previous :=
        ⟨Bytes.field bytes 4 32, Bytes.length_field (by rw [length]; decide)⟩
      merkleRoot :=
        ⟨Bytes.field bytes 36 32, Bytes.length_field (by rw [length]; decide)⟩
      time := Bytes.toWord (Bytes.field bytes 68 4)
      bits := Bytes.toWord (Bytes.field bytes 72 4)
      nonce := Bytes.toWord (Bytes.field bytes 76 4)
    }
  else .error (.headerLength bytes.length)

/-- The bytes of a chain. -/
def encodeChain (headers : List Header) : Bytes :=
  headers.flatMap encode

/-- Reads a chain of any number of headers, none included. -/
def decodeChain (bytes : Bytes) : Except MalformedInput (List Header) :=
  if bytes.length % size = 0 then
    (Bytes.records size (bytes.length / size) bytes).mapM decode
  else .error (.chainLength bytes.length)

/-- The block hash. -/
def hash (header : Header) : Hash :=
  Hash.double header.encode

/-- The target that the header declares. -/
def target (header : Header) : Target :=
  Target.ofBits header.bits

/-- The difficulty that the header declares. -/
def difficulty (constants : Network.Constants) (header : Header) : Difficulty :=
  header.target.difficulty constants.reference

/-- Whether the block hash meets the declared target. -/
def hasValidWork (header : Header) : Bool :=
  header.target.isMetBy header.hash

end Header

end HeaderRelay
