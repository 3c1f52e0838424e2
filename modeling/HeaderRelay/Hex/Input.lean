import HeaderRelay.Error

/-!
# Hex written by hand

Bytes and hashes that people paste.  Failures are malformed input.
-/

namespace HeaderRelay

/-- Reads bytes written by hand in some hex. -/
def Bytes.ofInputWith (hex : Hex.Format) (text : String) : Except MalformedInput Bytes :=
  (hex.decode (Hex.bareDigits text)).mapError .hexDigits

/-- Reads bytes written by hand. -/
def Bytes.ofInput (text : String) : Except MalformedInput Bytes :=
  Bytes.ofInputWith .standard text

/-- Reads a hash written by hand in some hex, its first byte first. -/
def Hash.ofInputWith (hex : Hex.Format) (text : String) : Except MalformedInput Hash := do
  let bytes ← Bytes.ofInputWith hex text
  match Hash.ofBytes? bytes with
  | some hash => return hash
  | none => throw (.hashLength bytes.length)

/-- Reads a hash written by hand, its first byte first. -/
def Hash.ofInput (text : String) : Except MalformedInput Hash :=
  Hash.ofInputWith .standard text

end HeaderRelay
