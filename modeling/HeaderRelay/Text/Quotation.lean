import HeaderRelay.Bytes
import HeaderRelay.Text.Unprintable

/-!
# Quotations

How a character and a byte string are shown inside a message: in quotes, with
escapes for the enclosing quotes, for control characters and for everything
else that cannot be printed.
-/

namespace HeaderRelay.Text

/-- The digits of a number in the given base, at least one. -/
def digits (base number : Nat) : String :=
  String.ofList (Nat.toDigits base number)

/-- A character as a quotation shows it, apart from the quotes. -/
def escaped (character : Char) : String :=
  match character with
  | '\x00' => "\\0"
  | '\t' => "\\t"
  | '\n' => "\\n"
  | '\r' => "\\r"
  | '\\' => "\\\\"
  | _ =>
      if isUnprintable character then
        "\\u\x7b" ++ digits 16 character.toNat ++ "\x7d"
      else character.toString

/-- A single character in single quotes. -/
def quotedChar (character : Char) : String :=
  "'" ++ (if character = '\x27' then "\\'" else escaped character) ++ "'"

/-- A character of a quoted byte string, where a double quote would end the
quotation. -/
def escapedInBytes (character : Char) : String :=
  if character = '"' then "\\\"" else escaped character

/-- Two upper case hex digits. -/
def upperHexByte (byte : UInt8) : String :=
  String.ofList ((Nat.toDigits 16 (256 + byte.toNat)).tail.map Char.toUpper)

/-- The character at the start of a byte string and the number of its bytes, at
most four; `none` if no character starts there. -/
def leadingChar? (bytes : Bytes) : Option (Char × Nat) :=
  [1, 2, 3, 4].findSome? fun length =>
    match (Bytes.toString? (bytes.take length)).map String.toList with
    | some [character] => some (character, length)
    | _ => none

/-- The contents of a quotation of at most `count` characters and stray bytes. -/
def quotedPieces : (count : Nat) → Bytes → String
  | 0, _ => ""
  | _, [] => ""
  | count + 1, byte :: rest =>
      match leadingChar? (byte :: rest) with
      | some (character, length) =>
          escapedInBytes character ++ quotedPieces count ((byte :: rest).drop length)
      | none => "\\x" ++ upperHexByte byte ++ quotedPieces count rest

/-- A byte string in double quotes. Bytes that belong to no character are
shown by their number. -/
def quotedBytes (bytes : Bytes) : String :=
  "\"" ++ quotedPieces bytes.length bytes ++ "\""

end HeaderRelay.Text
