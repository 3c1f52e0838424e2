import HeaderRelay.Borsh
import HeaderRelay.Json.Format
import HeaderRelay.Proof

/-!
# Proofs in JSON and Borsh

In JSON a proof is a record with its byte strings in hex.  In Borsh its branch
and its headers stand behind their lengths.
-/

namespace HeaderRelay.Proof

/-- The keys of a proof in JSON. -/
def jsonKeys : List String :=
  ["tx_hash", "merkle_proof", "tx_index_in_block", "bitcoin_headers"]

/-- The byte string that a hex string is. -/
def bytesOfJson? (format : Json.Format) (hex : Hex.Format) (json : Json) : Option Bytes :=
  (format.text json).bind fun text => (hex.decode text).toOption

/-- The record of a proof with its byte strings in some hex. -/
def toJsonWith (hex : Hex.Format) (proof : Proof) : Json :=
  .ofMembers [
    ("tx_hash", .ofText (hex.encode proof.txid.bytes)),
    ("merkle_proof", .ofText (hex.encode proof.branch)),
    ("tx_index_in_block", .ofNat proof.index.toNat),
    ("bitcoin_headers", .ofText (hex.encode proof.headers))]

def toJson (proof : Proof) : Json :=
  proof.toJsonWith .standard

def ofJson? (format : Json.Format) (hex : Hex.Format) (json : Json) : Option Proof := do
  match ← format.fields jsonKeys json with
  | [txid, branch, index, headers] =>
      return {
        txid := ← (bytesOfJson? format hex txid).bind Hash.ofBytes?
        branch := ← bytesOfJson? format hex branch
        index := ← format.word index
        headers := ← bytesOfJson? format hex headers
      }
  | _ => none

/-- Reads a proof written in some JSON and some hex. -/
def parseJsonWith? (format : Json.Format) (hex : Hex.Format) (text : String) : Option Proof :=
  (format.read text).bind (ofJson? format hex)

/-- Reads a proof written in JSON. -/
def parseJson? (text : String) : Option Proof :=
  parseJsonWith? .standard .standard text

/-- The fields of a proof one after the other. -/
def toBorshWith (format : Borsh.Format) (proof : Proof) : Bytes :=
  format.hash.write proof.txid ++ format.string.write proof.branch ++
    format.word.write proof.index ++ format.string.write proof.headers

/-- The Borsh form. -/
def toBorsh (proof : Proof) : Bytes :=
  proof.toBorshWith .standard

/-- Reads the fields of a proof one after the other. -/
def ofBorshWith (format : Borsh.Format) (bytes : Bytes) : Except Borsh.DecodeError Proof := do
  let (txid, rest) ← format.hash.read bytes
  let (branch, rest) ← format.string.read rest
  let (index, rest) ← format.word.read rest
  let (headers, rest) ← format.string.read rest
  format.finish rest
  return ⟨txid, branch, index, headers⟩

/-- Reads the Borsh form. -/
def ofBorsh (bytes : Bytes) : Except Borsh.DecodeError Proof :=
  ofBorshWith .standard bytes

end HeaderRelay.Proof
