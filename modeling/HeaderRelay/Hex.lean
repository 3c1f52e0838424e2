import HeaderRelay.Bytes
import HeaderRelay.Text.Blank
import HeaderRelay.Text.Quotation

/-!
# Hex

Byte strings written with two hex digits per byte.  Writing uses lower case;
reading accepts either case and works on the UTF-8 bytes of a text, so that
positions in errors are byte offsets.
-/

namespace HeaderRelay.Hex

/-- Why a text is no hex string. -/
inductive DecodeError where
  | oddLength
  | invalidDigit (byte : UInt8) (position : Nat)
  deriving DecidableEq

namespace DecodeError

/-- A stray byte is shown as the character of the same number. -/
def message : DecodeError → String
  | oddLength => "Odd number of digits"
  | invalidDigit byte position =>
      "Invalid character " ++ Text.quotedChar (Char.ofNat byte.toNat) ++
        " at position " ++ toString position

end DecodeError

/-- The lower case digit of a number below sixteen. -/
def digit (value : Nat) : Char :=
  Nat.digitChar value

/-- The value of a hex digit of either case. -/
def digitValue? (byte : UInt8) : Option Nat :=
  if 0x30 ≤ byte && byte ≤ 0x39 then some (byte.toNat - 0x30)
  else if 0x41 ≤ byte && byte ≤ 0x46 then some (byte.toNat - 0x41 + 10)
  else if 0x61 ≤ byte && byte ≤ 0x66 then some (byte.toNat - 0x61 + 10)
  else none

/-- The digits of a byte string. -/
def encodeChars : Bytes → List Char
  | [] => []
  | byte :: rest =>
      digit (byte.toNat / 16) :: digit (byte.toNat % 16) :: encodeChars rest

/-- A byte string in lower case hex. -/
def encode (bytes : Bytes) : String :=
  String.ofList (encodeChars bytes)

/-- The value of the digit at a position. -/
def digitAt (byte : UInt8) (position : Nat) : Except DecodeError Nat :=
  match digitValue? byte with
  | some value => .ok value
  | none => .error (.invalidDigit byte position)

/-- Reads pairs of digits from left to right and stops at the first byte that
is no digit. -/
def decodePairs (position : Nat) : Bytes → Except DecodeError Bytes
  | high :: low :: rest => do
      let highValue ← digitAt high position
      let lowValue ← digitAt low (position + 1)
      let decoded ← decodePairs (position + 2) rest
      return UInt8.ofNat (16 * highValue + lowValue) :: decoded
  | [_] => .error .oddLength
  | [] => .ok []

/-- Reads the digits of a byte string. An odd length is reported before any
stray byte. -/
def decodeBytes (digits : Bytes) : Except DecodeError Bytes :=
  if digits.length % 2 = 1 then .error .oddLength else decodePairs 0 digits

/-- Reads a text that consists of hex digits alone. -/
def decode (text : String) : Except DecodeError Bytes :=
  decodeBytes (.ofString text)

/-- Removes one leading `0x`. -/
def dropMarker : List Char → List Char
  | '0' :: 'x' :: rest => rest
  | characters => characters

/-- The digits of a text written by hand: blanks around it and then one `0x`
do not count. -/
def bareDigits (text : String) : String :=
  String.ofList (dropMarker (Text.trim text.toList))

/-- A way to write byte strings in hex and to read them. -/
structure Format where
  encode : Bytes → String
  decode : String → Except DecodeError Bytes

/-- The hex of this module. -/
def Format.standard : Format where
  encode := Hex.encode
  decode := Hex.decode

end HeaderRelay.Hex
