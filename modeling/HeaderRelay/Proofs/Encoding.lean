import HeaderRelay.Proof
import Mathlib.Algebra.Ring.Nat
import Mathlib.Tactic.Common

/-!
# Reading back what was written

Headers, chains of headers and branches are written as fields of fixed widths one
after the other.  Reading a string that was written so finds every field in its
place and gives back what was written.
-/

namespace HeaderRelay

/-! ## Words and fields -/

namespace Bytes

variable {bytes before written after : Bytes} {offset width : Nat}

theorem toNatLE_ofNatLE (width value : Nat) :
    (ofNatLE width value).toNatLE = value % 256 ^ width := by
  induction width generalizing value with
  | zero => exact (Nat.mod_one value).symm
  | succ width ih =>
      rw [ofNatLE, toNatLE, ih, Nat.pow_succ', Nat.mod_mul]
      rfl

@[simp] theorem toWord_ofWord (word : UInt32) : toWord (ofWord word) = word := by
  have inRange : word.toNat % 256 ^ 4 = word.toNat := Nat.mod_eq_of_lt word.toNat_lt
  rw [toWord, ofWord, toNatLE_ofNatLE, inRange, UInt32.ofNat_toNat]

/-- A field is found behind what stands before it. -/
theorem field_of_append (split : bytes = before ++ (written ++ after))
    (place : before.length = offset) (length : written.length = width) :
    bytes.field offset width = written := by
  rw [split, field, ← place, List.drop_left, ← length, List.take_left]

variable {Item : Type} {write : Item → Bytes}

theorem length_flatMap (widths : ∀ item, (write item).length = width) (items : List Item) :
    (items.flatMap write).length = width * items.length := by
  induction items with
  | nil => rfl
  | cons item rest ih =>
      rw [List.flatMap_cons, List.length_append, widths item, ih, List.length_cons,
        Nat.mul_succ, Nat.add_comm]

/-- Records of one width are found one after the other. -/
theorem records_flatMap (widths : ∀ item, (write item).length = width) (items : List Item) :
    records width items.length (items.flatMap write) = items.map write := by
  induction items with
  | nil => rfl
  | cons item rest ih =>
      rw [List.flatMap_cons, List.length_cons, records, ← widths item, List.take_left,
        List.drop_left, widths item, ih, List.map_cons]

end Bytes

/-! ## Headers -/

namespace Header

@[simp] theorem decode_encode (header : Header) : decode header.encode = .ok header := by
  obtain ⟨version, previous, merkleRoot, time, bits, nonce⟩ := header
  generalize whole : encode ⟨version, previous, merkleRoot, time, bits, nonce⟩ = bytes
  have length : bytes.length = size := by rw [← whole, length_encode]
  have fields : bytes = Bytes.ofWord version.toUInt32 ++ (previous.bytes ++ (merkleRoot.bytes ++
      (Bytes.ofWord time ++ (Bytes.ofWord bits ++ (Bytes.ofWord nonce ++ []))))) := by
    simp only [← whole, encode, List.append_assoc, List.append_nil]
  have versionField : bytes.field 0 4 = Bytes.ofWord version.toUInt32 :=
    Bytes.field_of_append (show bytes = [] ++ _ from fields) rfl (by simp)
  have previousField : bytes.field 4 32 = previous.bytes :=
    Bytes.field_of_append fields (by simp) (by simp)
  have merkleRootField : bytes.field 36 32 = merkleRoot.bytes := by
    rw [← List.append_assoc] at fields
    exact Bytes.field_of_append fields (by simp) (by simp)
  have timeField : bytes.field 68 4 = Bytes.ofWord time := by
    rw [← List.append_assoc, ← List.append_assoc] at fields
    exact Bytes.field_of_append fields (by simp) (by simp)
  have bitsField : bytes.field 72 4 = Bytes.ofWord bits := by
    rw [← List.append_assoc, ← List.append_assoc, ← List.append_assoc] at fields
    exact Bytes.field_of_append fields (by simp) (by simp)
  have nonceField : bytes.field 76 4 = Bytes.ofWord nonce := by
    rw [← List.append_assoc, ← List.append_assoc, ← List.append_assoc, ← List.append_assoc]
      at fields
    exact Bytes.field_of_append fields (by simp) (by simp)
  simp only [decode, length, dif_pos, versionField, previousField, merkleRootField, timeField,
    bitsField, nonceField, Bytes.toWord_ofWord]
  simp

@[simp] theorem length_encodeChain (headers : List Header) :
    (encodeChain headers).length = size * headers.length :=
  Bytes.length_flatMap length_encode headers

theorem mapM_decode_encode (headers : List Header) :
    (headers.map encode).mapM decode = .ok headers := by
  induction headers with
  | nil => rfl
  | cons header rest ih =>
      rw [List.map_cons, List.mapM_cons, decode_encode, ih]
      rfl

@[simp] theorem decodeChain_encodeChain (headers : List Header) :
    decodeChain (encodeChain headers) = .ok headers := by
  have positive : 0 < size := by decide
  rw [decodeChain, length_encodeChain, if_pos (Nat.mul_mod_right _ _),
    Nat.mul_div_cancel_left _ positive, encodeChain, Bytes.records_flatMap length_encode]
  exact mapM_decode_encode headers

end Header

/-! ## Branches -/

namespace Proof

theorem length_encodeBranch (siblings : List Hash) :
    (encodeBranch siblings).length = 32 * siblings.length :=
  Bytes.length_flatMap Hash.length_bytes siblings

theorem hashes_encodeBranch {bytes : Bytes} {siblings : List Hash}
    (length : bytes.length = 32 * siblings.length) (written : bytes = encodeBranch siblings) :
    hashes siblings.length bytes length = siblings := by
  induction siblings generalizing bytes with
  | nil => rfl
  | cons sibling rest ih =>
      rw [encodeBranch, List.flatMap_cons, ← encodeBranch] at written
      have first : bytes.take 32 = sibling.bytes := by
        rw [written, ← sibling.length_bytes, List.take_left]
      have others : bytes.drop 32 = encodeBranch rest := by
        rw [written, ← sibling.length_bytes, List.drop_left]
      simp only [List.length_cons, hashes]
      rw [ih _ others]
      congr 1
      exact Hash.ext first

@[simp] theorem decodeBranch_encodeBranch (siblings : List Hash) :
    decodeBranch (encodeBranch siblings) = .ok siblings := by
  have length := length_encodeBranch siblings
  rw [decodeBranch, dif_pos (by rw [length]; exact Nat.mul_mod_right _ _)]
  congr 1
  have count : (encodeBranch siblings).length / 32 = siblings.length := by
    rw [length, Nat.mul_div_cancel_left _ (by decide)]
  simp only [count]
  exact hashes_encodeBranch length rfl

end Proof

end HeaderRelay
