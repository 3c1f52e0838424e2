import HeaderRelay.Json.Printer

/-!
# JSON formats

What it takes to keep records in JSON: values become text and text becomes values, and
a value is taken for a number, a text, an array or a record.
-/

namespace HeaderRelay.Json

/-- A way to write values and to read them. -/
structure Format where
  /-- The value in one line. -/
  write : Json → String
  /-- The value that a text stands for, with the members of an object as they stand. -/
  read : String → Option Json
  /-- The fields of a record, in the order of the given keys. -/
  fields : List String → Json → Option (List Json)
  /-- The items of an array of the given length. -/
  items : Nat → Json → Option (List Json)
  /-- The number between two bounds that a value is. -/
  integer : (lower upper : Int) → Json → Option Int
  /-- The text that a value is. -/
  text : Json → Option String

namespace Format

/-- The word that a value is. -/
def word (format : Format) (json : Json) : Option UInt32 :=
  (format.integer 0 0xFFFFFFFF json).map fun number => UInt32.ofNat number.toNat

/-- The byte that a value is. -/
def byte (format : Format) (json : Json) : Option UInt8 :=
  (format.integer 0 0xFF json).map fun number => UInt8.ofNat number.toNat

/-- The JSON of this library. -/
def standard : Format where
  write := compact
  read := parse?
  fields := fields?
  items := items?
  integer := integer?
  text := text?

end Format

end HeaderRelay.Json
