import HeaderRelay.Hex
import Mathlib.Algebra.Ring.Nat
import Mathlib.Tactic.Common

/-!
# Reading hex of either case

A text that is the written form of a byte string, but for the case of its digits, is
read as that byte string.  The reader works on the UTF-8 bytes of the text; hex digits
have one byte each, so it meets one digit after the other.
-/

namespace HeaderRelay

/-! ## Bytes of a text -/

theorem Bytes.toList_loop (bytes : ByteArray) (position : Nat) (before : List UInt8) :
    ByteArray.toList.loop bytes position before =
      before.reverse ++ bytes.data.toList.drop position := by
  fun_induction ByteArray.toList.loop bytes position before with
  | case1 position before inside ih =>
      have listed : position < bytes.data.toList.length := inside
      have byte : bytes.get! position = bytes.data.toList[position] := by
        rw [Array.getElem_toList]
        exact getElem!_pos bytes.data position inside
      rw [ih, List.reverse_cons, List.append_assoc, List.singleton_append, byte,
        ← List.drop_eq_getElem_cons listed]
  | case2 position before outside =>
      have beyond : bytes.data.toList.length ≤ position := Nat.le_of_not_lt outside
      rw [List.drop_of_length_le beyond, List.append_nil]

theorem Bytes.ofString_eq (text : String) :
    ofString text = text.toList.flatMap String.utf8EncodeChar := by
  have written : text.toByteArray = (text.toList.flatMap String.utf8EncodeChar).toByteArray := by
    conv_lhs => rw [← String.ofList_toList (s := text)]
    rw [String.toByteArray_ofList, List.utf8Encode]
  rw [ofString, String.toUTF8_eq_toByteArray, ByteArray.toList, toList_loop, List.reverse_nil,
    List.nil_append, List.drop_zero, written, List.toList_data_toByteArray]

namespace Hex

variable {value : Nat} {character : Char} {characters : List Char} {bytes : Bytes}
  {text : String}

/-- Whether a text is a byte string in hex, whatever the case of the digits. -/
def Spells (text : String) (bytes : Bytes) : Prop :=
  text.toList.map Char.toLower = encodeChars bytes

instance : Decidable (Spells text bytes) :=
  inferInstanceAs (Decidable (_ = _))

/-! ## Digits -/

/-- The digits of both cases, looked up one after the other. -/
theorem digitValue?_of_toLower : ∀ code < 128, ∀ value < 16,
    (Char.ofNat code).toLower = digit value →
      String.utf8EncodeChar (Char.ofNat code) = [UInt8.ofNat code] ∧
        digitValue? (UInt8.ofNat code) = some value := by
  decide +kernel

theorem toNat_digit_lt : ∀ value < 16, (digit value).toNat < 128 := by
  decide

theorem toNat_lt_of_toLower (small : value < 16) (same : character.toLower = digit value) :
    character.toNat < 128 := by
  unfold Char.toLower at same
  split at same
  next capital =>
    have below : character.toNat ≤ 'Z'.toNat := UInt32.le_iff_toNat_le.mp capital.2
    exact Nat.lt_of_le_of_lt below (by decide)
  next => exact same ▸ toNat_digit_lt value small

/-- A character that is a digit but for its case has one byte, of the value of the digit. -/
theorem digitAt_of_toLower (small : value < 16) (same : character.toLower = digit value)
    (position : Nat) :
    ∃ byte, String.utf8EncodeChar character = [byte] ∧ digitAt byte position = .ok value := by
  have bounded := toNat_lt_of_toLower small same
  rw [← Char.ofNat_toNat character] at same ⊢
  obtain ⟨written, read⟩ := digitValue?_of_toLower character.toNat bounded value small same
  exact ⟨_, written, by rw [digitAt, read]⟩

theorem toLower_digit : ∀ value < 16, (digit value).toLower = digit value := by
  decide

/-! ## Byte strings -/

theorem decodePairs_of_map_toLower (spells : characters.map Char.toLower = encodeChars bytes)
    (position : Nat) :
    (characters.flatMap String.utf8EncodeChar).length = 2 * bytes.length ∧
      decodePairs position (characters.flatMap String.utf8EncodeChar) = .ok bytes := by
  induction bytes generalizing characters position with
  | nil =>
      obtain rfl := List.map_eq_nil_iff.mp spells
      exact ⟨rfl, rfl⟩
  | cons byte rest ih =>
      obtain ⟨high, others, rfl, isHigh, spells⟩ := List.map_eq_cons_iff.mp spells
      obtain ⟨low, more, rfl, isLow, spells⟩ := List.map_eq_cons_iff.mp spells
      have small := byte.toNat_lt
      obtain ⟨highByte, written, highAt⟩ := digitAt_of_toLower (by omega) isHigh position
      obtain ⟨lowByte, written', lowAt⟩ := digitAt_of_toLower (by omega) isLow (position + 1)
      obtain ⟨length, decoded⟩ := ih spells (position + 2)
      have whole : UInt8.ofNat (16 * (byte.toNat / 16) + byte.toNat % 16) = byte := by
        rw [Nat.div_add_mod, UInt8.ofNat_toNat]
      rw [List.flatMap_cons, List.flatMap_cons, written, written', List.singleton_append,
        List.singleton_append]
      constructor
      · rw [List.length_cons, List.length_cons, length, List.length_cons]
        omega
      · rw [decodePairs, highAt, lowAt, decoded]
        exact congrArg (fun byte => Except.ok (byte :: rest)) whole

/-- Hex of either case is read. -/
theorem decode_of_spells (spells : Spells text bytes) : decode text = .ok bytes := by
  obtain ⟨length, decoded⟩ := decodePairs_of_map_toLower spells 0
  rw [decode, Bytes.ofString_eq, decodeBytes, length, if_neg (by omega), decoded]

/-- What is written is in lower case. -/
theorem spells_encode (bytes : Bytes) : Spells (encode bytes) bytes := by
  rw [Spells, encode, String.toList_ofList]
  induction bytes with
  | nil => rfl
  | cons byte rest ih =>
      have small := byte.toNat_lt
      rw [encodeChars, List.map_cons, List.map_cons, ih, toLower_digit _ (by omega),
        toLower_digit _ (by omega)]

end Hex

end HeaderRelay
