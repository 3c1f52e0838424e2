import HeaderRelay.Borsh
import HeaderRelay.Header
import HeaderRelay.Json.Format

/-!
# Headers in JSON and Borsh

In JSON a header is a record of numbers, with hashes as arrays of 32 bytes.  In
Borsh it is its fields in order.
-/

namespace HeaderRelay.Header

/-- The keys of a header in JSON. -/
def jsonKeys : List String :=
  ["version", "prev_block_hash", "merkle_root", "time", "bits", "nonce"]

/-- A hash as an array of bytes. -/
def hashToJson (hash : Hash) : Json :=
  .array (hash.bytes.map fun byte => .ofNat byte.toNat)

/-- The hash that an array of bytes is. -/
def hashOfJson? (format : Json.Format) (json : Json) : Option Hash := do
  let items ← format.items 32 json
  Hash.ofBytes? (← items.mapM format.byte)

/-- The version that a number is. -/
def versionOfJson? (format : Json.Format) (json : Json) : Option Int32 :=
  (format.integer (-0x80000000) 0x7FFFFFFF json).map Int32.ofInt

def toJson (header : Header) : Json :=
  .ofMembers [
    ("version", .integer header.version.toInt),
    ("prev_block_hash", hashToJson header.previous),
    ("merkle_root", hashToJson header.merkleRoot),
    ("time", .ofNat header.time.toNat),
    ("bits", .ofNat header.bits.toNat),
    ("nonce", .ofNat header.nonce.toNat)]

def ofJson? (format : Json.Format) (json : Json) : Option Header := do
  match ← format.fields jsonKeys json with
  | [version, previous, merkleRoot, time, bits, nonce] =>
      return {
        version := ← versionOfJson? format version
        previous := ← hashOfJson? format previous
        merkleRoot := ← hashOfJson? format merkleRoot
        time := ← format.word time
        bits := ← format.word bits
        nonce := ← format.word nonce
      }
  | _ => none

/-- Reads a header written in some JSON. -/
def parseJsonWith? (format : Json.Format) (text : String) : Option Header :=
  (format.read text).bind (ofJson? format)

/-- Reads a header written in JSON. -/
def parseJson? (text : String) : Option Header :=
  parseJsonWith? .standard text

/-- The fields of a header one after the other. -/
def toBorshWith (format : Borsh.Format) (header : Header) : Bytes :=
  format.signed.write header.version ++ format.hash.write header.previous ++
    format.hash.write header.merkleRoot ++ format.word.write header.time ++
    format.word.write header.bits ++ format.word.write header.nonce

/-- The Borsh form. -/
def toBorsh (header : Header) : Bytes :=
  header.toBorshWith .standard

/-- Reads the fields of a header one after the other. -/
def ofBorshWith (format : Borsh.Format) (bytes : Bytes) : Except Borsh.DecodeError Header := do
  let (version, rest) ← format.signed.read bytes
  let (previous, rest) ← format.hash.read rest
  let (merkleRoot, rest) ← format.hash.read rest
  let (time, rest) ← format.word.read rest
  let (bits, rest) ← format.word.read rest
  let (nonce, rest) ← format.word.read rest
  format.finish rest
  return ⟨version, previous, merkleRoot, time, bits, nonce⟩

/-- Reads the Borsh form. -/
def ofBorsh (bytes : Bytes) : Except Borsh.DecodeError Header :=
  ofBorshWith .standard bytes

end HeaderRelay.Header
