import HeaderRelay.Hash

/-!
# Borsh

The binary record format Borsh, as far as proofs and headers need it: words with
the lowest byte first, hashes as they are, and byte strings behind their length.
A record is its fields one after the other and must fill its byte string exactly.
-/

namespace HeaderRelay.Borsh

/-- Why a byte string is no record. -/
inductive DecodeError where
  | tooShort
  | tooLong
  deriving DecidableEq

namespace DecodeError

def message : DecodeError → String
  | tooShort => "Unexpected length of input"
  | tooLong => "Not all bytes read"

end DecodeError

/-- Splits `count` bytes off. -/
def take (count : Nat) (bytes : Bytes) : Except DecodeError (Bytes × Bytes) :=
  if count ≤ bytes.length then .ok (bytes.take count, bytes.drop count)
  else .error .tooShort

/-- How the values of one type are written as a field of a record, and how such a
field is split off the front of a byte string. -/
structure Field (Value : Type) where
  write : Value → Bytes
  read : Bytes → Except DecodeError (Value × Bytes)

/-- A word, the lowest byte first. -/
def word : Field UInt32 where
  write := Bytes.ofWord
  read bytes := do
    let (content, rest) ← take 4 bytes
    return (Bytes.toWord content, rest)

/-- A number in two's complement, as the word of the same bits. -/
def signed : Field Int32 where
  write number := word.write number.toUInt32
  read bytes := do
    let (bits, rest) ← word.read bytes
    return (bits.toInt32, rest)

/-- A hash as it is. -/
def hash : Field Hash where
  write := Hash.bytes
  read bytes :=
    if enough : 32 ≤ bytes.length then
      .ok (⟨bytes.take 32, List.length_take_of_le enough⟩, bytes.drop 32)
    else .error .tooShort

/-- A byte string behind its length. -/
def string : Field Bytes where
  write bytes := word.write (UInt32.ofNat bytes.length) ++ bytes
  read bytes := do
    let (length, rest) ← word.read bytes
    take length.toNat rest

/-- Accepts only that nothing is left. -/
def finish (rest : Bytes) : Except DecodeError Unit :=
  if rest = [] then .ok () else .error .tooLong

/-- A way to write the fields of records and to read them. -/
structure Format where
  word : Field UInt32
  signed : Field Int32
  hash : Field Hash
  string : Field Bytes
  finish : Bytes → Except DecodeError Unit

/-- The fields of this module. -/
def Format.standard : Format where
  word := Borsh.word
  signed := Borsh.signed
  hash := Borsh.hash
  string := Borsh.string
  finish := Borsh.finish

end HeaderRelay.Borsh
