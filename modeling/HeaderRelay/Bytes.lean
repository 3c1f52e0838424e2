/-!
# Byte strings

The wire formats of this library are built from three things: words of a fixed
width with the lowest byte first, fields cut out of a longer string, and
records of one width written one after the other.
-/

namespace HeaderRelay

/-- A byte string, first byte first. -/
abbrev Bytes := List UInt8

namespace Bytes

/-- The `width` lowest bytes of `value`, the lowest first. -/
def ofNatLE : (width value : Nat) → Bytes
  | 0, _ => []
  | width + 1, value => UInt8.ofNat value :: ofNatLE width (value / 256)

/-- The number whose bytes are given, the lowest first. -/
def toNatLE : Bytes → Nat
  | [] => 0
  | byte :: rest => byte.toNat + 256 * toNatLE rest

/-- The `width` lowest bytes of `value`, the highest first. -/
def ofNatBE (width value : Nat) : Bytes :=
  (ofNatLE width value).reverse

@[simp] theorem length_ofNatLE (width value : Nat) :
    (ofNatLE width value).length = width := by
  induction width generalizing value with
  | zero => rfl
  | succ width ih => simp [ofNatLE, ih]

@[simp] theorem length_ofNatBE (width value : Nat) :
    (ofNatBE width value).length = width := by
  simp [ofNatBE]

/-- The four bytes of a word, the lowest first. -/
def ofWord (word : UInt32) : Bytes :=
  ofNatLE 4 word.toNat

/-- The word whose bytes are given, the lowest first. -/
def toWord (bytes : Bytes) : UInt32 :=
  UInt32.ofNat bytes.toNatLE

@[simp] theorem length_ofWord (word : UInt32) : (ofWord word).length = 4 := by
  simp [ofWord]

/-- The `length` bytes that start at `offset`. -/
def field (bytes : Bytes) (offset length : Nat) : Bytes :=
  (bytes.drop offset).take length

theorem length_field {bytes : Bytes} {offset length : Nat}
    (inside : offset + length ≤ bytes.length) :
    (bytes.field offset length).length = length := by
  simp [field]
  omega

/-- The first `count` records of `width` bytes each. -/
def records (width : Nat) : (count : Nat) → Bytes → List Bytes
  | 0, _ => []
  | count + 1, bytes =>
      bytes.take width :: records width count (bytes.drop width)

/-- The text written in UTF-8. -/
def ofString (text : String) : Bytes :=
  text.toUTF8.toList

/-- The text that a UTF-8 string holds, `none` if it is no UTF-8. -/
def toString? (bytes : Bytes) : Option String :=
  String.fromUTF8? ⟨bytes.toArray⟩

end Bytes

end HeaderRelay
