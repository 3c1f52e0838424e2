import HeaderRelay.Header.Node
import HeaderRelay.Proofs.Checks
import HeaderRelay.Proofs.Encoding

/-!
# Writing back what was read

Every byte string of the right length is the written form of one header, chain or
branch, and of no other: what is read is written back byte for byte.  With the
lemmas that what is written can be read, reading and writing are inverse to each
other, and the length alone decides whether a string can be read.
-/

namespace HeaderRelay

/-! ## Words, fields and records -/

namespace Bytes

variable {bytes : Bytes} {offset first second width count : Nat}

theorem ofNatLE_toNatLE (bytes : Bytes) : ofNatLE bytes.length bytes.toNatLE = bytes := by
  induction bytes with
  | nil => rfl
  | cons byte rest ih =>
      have small : byte.toNat < 256 := byte.toNat_lt
      have lowest : UInt8.ofNat (byte.toNat + 256 * toNatLE rest) = byte := by
        rw [← UInt8.toNat_inj, UInt8.toNat_ofNat']
        omega
      have others : (byte.toNat + 256 * toNatLE rest) / 256 = toNatLE rest := by
        omega
      rw [List.length_cons, toNatLE, ofNatLE, lowest, others, ih]

theorem toNatLE_lt (bytes : Bytes) : bytes.toNatLE < 256 ^ bytes.length := by
  induction bytes with
  | nil => exact Nat.one_pos
  | cons byte rest ih =>
      have small : byte.toNat < 256 := byte.toNat_lt
      rw [toNatLE, List.length_cons, Nat.pow_succ]
      omega

theorem ofWord_toWord (four : bytes.length = 4) : ofWord (toWord bytes) = bytes := by
  have inRange : bytes.toNatLE < UInt32.size := by
    have bounded := bytes.toNatLE_lt
    rwa [four] at bounded
  rw [ofWord, toWord, UInt32.toNat_ofNat_of_lt' inRange, ← four, ofNatLE_toNatLE]

/-- Two fields that touch make up one. -/
theorem field_append_field :
    bytes.field offset first ++ bytes.field (offset + first) second =
      bytes.field offset (first + second) := by
  rw [field, field, field, ← List.drop_drop, ← List.take_add]

theorem flatten_records (whole : bytes.length = width * count) :
    (records width count bytes).flatten = bytes := by
  induction count generalizing bytes with
  | zero => exact (List.length_eq_zero_iff.mp whole).symm
  | succ count ih =>
      have remaining : (bytes.drop width).length = width * count := by
        rw [List.length_drop, whole, Nat.mul_succ, Nat.add_sub_cancel]
      rw [records, List.flatten_cons, ih remaining, List.take_append_drop]

theorem length_of_mem_records (whole : bytes.length = width * count) {record : Bytes}
    (member : record ∈ records width count bytes) : record.length = width := by
  induction count generalizing bytes with
  | zero => cases member
  | succ count ih =>
      have enough : width ≤ bytes.length := by
        rw [whole]
        exact Nat.le_mul_of_pos_right width count.succ_pos
      have remaining : (bytes.drop width).length = width * count := by
        rw [List.length_drop, whole, Nat.mul_succ, Nat.add_sub_cancel]
      rcases List.mem_cons.mp member with rfl | later
      · rw [List.length_take, Nat.min_eq_left enough]
      · exact ih remaining later

end Bytes

/-! ## Headers -/

namespace Header

variable {bytes : Bytes} {header : Header} {headers : List Header}

theorem encode_of_decode (decoded : decode bytes = .ok header) : header.encode = bytes := by
  unfold decode at decoded
  split at decoded
  next length =>
    cases decoded
    have word {offset : Nat} (inside : offset + 4 ≤ size) :
        Bytes.ofWord (Bytes.toWord (bytes.field offset 4)) = bytes.field offset 4 :=
      Bytes.ofWord_toWord (Bytes.length_field (by rw [length]; exact inside))
    have whole : bytes.field 0 80 = bytes := by
      rw [Bytes.field, List.drop_zero]
      exact List.take_of_length_le (Nat.le_of_eq length)
    simp only [encode, UInt32.toUInt32_toInt32, word (show 0 + 4 ≤ size by decide),
      word (show 68 + 4 ≤ size by decide), word (show 72 + 4 ≤ size by decide),
      word (show 76 + 4 ≤ size by decide)]
    rw [Bytes.field_append_field, Bytes.field_append_field, Bytes.field_append_field,
      Bytes.field_append_field, Bytes.field_append_field]
    exact whole
  next => cases decoded

theorem decode_eq_ok_iff : decode bytes = .ok header ↔ header.encode = bytes := by
  constructor
  · exact encode_of_decode
  · rintro rfl
    exact decode_encode header

theorem exists_encode_eq_iff : (∃ header, encode header = bytes) ↔ bytes.length = size := by
  constructor
  · rintro ⟨header, rfl⟩
    exact length_encode header
  · intro length
    have decoded : decode bytes = .ok _ := dif_pos length
    exact ⟨_, encode_of_decode decoded⟩

/-- Records of the size of a header are the written forms of some headers. -/
theorem exists_map_encode_eq {records : List Bytes}
    (sizes : ∀ record ∈ records, record.length = size) :
    ∃ headers : List Header, headers.map encode = records := by
  induction records with
  | nil => exact ⟨[], rfl⟩
  | cons record rest ih =>
      rw [List.forall_mem_cons] at sizes
      obtain ⟨header, rfl⟩ := exists_encode_eq_iff.mpr sizes.1
      obtain ⟨headers, rfl⟩ := ih sizes.2
      exact ⟨header :: headers, rfl⟩

theorem exists_encodeChain_eq_iff :
    (∃ headers, encodeChain headers = bytes) ↔ size ∣ bytes.length := by
  constructor
  · rintro ⟨headers, rfl⟩
    exact ⟨headers.length, length_encodeChain headers⟩
  · rintro ⟨count, whole⟩
    obtain ⟨headers, written⟩ :=
      exists_map_encode_eq fun _ => Bytes.length_of_mem_records whole
    exact ⟨headers, by rw [encodeChain, List.flatMap_def, written, Bytes.flatten_records whole]⟩

theorem decodeChain_eq_ok_iff :
    decodeChain bytes = .ok headers ↔ encodeChain headers = bytes := by
  constructor
  · intro decoded
    have whole : size ∣ bytes.length := by
      unfold decodeChain at decoded
      split at decoded
      next whole => exact Nat.dvd_of_mod_eq_zero whole
      next => cases decoded
    obtain ⟨written, rfl⟩ := exists_encodeChain_eq_iff.mpr whole
    rw [decodeChain_encodeChain] at decoded
    cases decoded
    rfl
  · rintro rfl
    exact decodeChain_encodeChain headers

end Header

/-! ## Branches -/

namespace Proof

variable {bytes : Bytes} {siblings : List Hash}

theorem encodeBranch_hashes {count : Nat} (whole : bytes.length = 32 * count) :
    encodeBranch (hashes count bytes whole) = bytes := by
  induction count generalizing bytes with
  | zero => exact (List.length_eq_zero_iff.mp whole).symm
  | succ count ih =>
      rw [hashes, encodeBranch, List.flatMap_cons, ← encodeBranch, ih, List.take_append_drop]

theorem decodeBranch_eq_ok_iff :
    decodeBranch bytes = .ok siblings ↔ encodeBranch siblings = bytes := by
  constructor
  · intro decoded
    unfold decodeBranch at decoded
    split at decoded
    next whole =>
      cases decoded
      exact encodeBranch_hashes _
    next => cases decoded
  · rintro rfl
    exact decodeBranch_encodeBranch siblings

theorem exists_encodeBranch_eq_iff :
    (∃ siblings, encodeBranch siblings = bytes) ↔ 32 ∣ bytes.length := by
  constructor
  · rintro ⟨siblings, rfl⟩
    exact ⟨siblings.length, length_encodeBranch siblings⟩
  · rintro ⟨count, whole⟩
    exact ⟨hashes count bytes whole, encodeBranch_hashes whole⟩

end Proof

/-! ## Headers of nodes -/

/-- A header loses nothing in the types of a node. -/
theorem Header.ofNode_toNodeOf (types : NodeTypes) (header : Header) :
    ofNode (header.toNodeOf types) = header := by
  simp only [ofNode, toNodeOf, Wrapping.unwrap_wrap]

/-! ## Formats -/

/-- Whether a reader and a writer are inverse to each other and the reader accepts
just the strings that fit. -/
structure IsExact {Item Failure : Type} (write : Item → Bytes)
    (read : Bytes → Except Failure Item) (fits : Bytes → Prop) : Prop where
  accepts : ∀ bytes, (∃ item, read bytes = .ok item) ↔ fits bytes
  write_read : ∀ bytes item, read bytes = .ok item → write item = bytes
  read_write : ∀ item, read (write item) = .ok item

theorem IsExact.of_iff {Item Failure : Type} {write : Item → Bytes}
    {read : Bytes → Except Failure Item} {fits : Bytes → Prop}
    (read_eq_ok_iff : ∀ {bytes item}, read bytes = .ok item ↔ write item = bytes)
    (exists_write_eq_iff : ∀ {bytes}, (∃ item, write item = bytes) ↔ fits bytes) :
    IsExact write read fits where
  accepts := by
    intro bytes
    simp only [read_eq_ok_iff, exists_write_eq_iff]
  write_read := fun _ _ => read_eq_ok_iff.mp
  read_write := fun _ => read_eq_ok_iff.mpr rfl

/-- Headers, chains and branches are read exactly from the strings of whole records,
written back as they were read and read back as they were written. Chains and
branches are written piece by piece, and a header loses nothing in a node's types. -/
theorem wire_formats_are_exact :
    IsExact Header.encode Header.decode (fun bytes => bytes.length = 80) ∧
      IsExact Header.encodeChain Header.decodeChain (fun bytes => 80 ∣ bytes.length) ∧
      IsExact Proof.encodeBranch Proof.decodeBranch (fun bytes => 32 ∣ bytes.length) ∧
      (∀ lower upper, Header.encodeChain (lower ++ upper) =
        Header.encodeChain lower ++ Header.encodeChain upper) ∧
      (∀ lower upper, Proof.encodeBranch (lower ++ upper) =
        Proof.encodeBranch lower ++ Proof.encodeBranch upper) ∧
      ∀ (types : NodeTypes) (header : Header), Header.ofNode (header.toNodeOf types) = header :=
  ⟨.of_iff Header.decode_eq_ok_iff Header.exists_encode_eq_iff,
    .of_iff Header.decodeChain_eq_ok_iff Header.exists_encodeChain_eq_iff,
    .of_iff Proof.decodeBranch_eq_ok_iff Proof.exists_encodeBranch_eq_iff,
    fun _ _ => List.flatMap_append, fun _ _ => List.flatMap_append, Header.ofNode_toNodeOf⟩

/-- A header with a negative version, whose other fields have no byte in common. -/
def sampleHeader : Header where
  version := -2
  previous := ⟨(List.range 32).map UInt8.ofNat, by simp⟩
  merkleRoot := ⟨(List.range' 32 32).map UInt8.ofNat, by simp⟩
  time := 0x43424140
  bits := 0x47464544
  nonce := 0x4B4A4948

/-- Its bytes count up behind the version, and the bytes and the types of a node
that holds plain values keep every field. -/
theorem sampleHeader_is_kept :
    sampleHeader.encode = [0xFE, 0xFF, 0xFF, 0xFF] ++ (List.range 76).map UInt8.ofNat ∧
      Header.decode sampleHeader.encode = .ok sampleHeader ∧
      Header.decodeChain (Header.encodeChain [sampleHeader, sampleHeader]) =
        .ok [sampleHeader, sampleHeader] ∧
      Header.ofNode (sampleHeader.toNodeOf .bare) = sampleHeader := by
  obtain ⟨headers, chains, _, _, _, nodes⟩ := wire_formats_are_exact
  exact ⟨by decide +kernel, headers.read_write _, chains.read_write _, nodes _ _⟩

end HeaderRelay
