import HeaderRelay.Borsh
import HeaderRelay.Proofs.Encoding.Exactness

/-!
# Fields of Borsh records

What writes and reads fields comes from elsewhere.  Of it is known that each kind of field
has one layout, and that a field is split off a byte string just if the string begins with
its layout.  A record of such fields is therefore read from its written form alone.
-/

namespace HeaderRelay.Borsh

variable {bytes rest content : Bytes} {count : Nat}

/-! ## What is known of a format -/

/-- Whether the values that fit are written in a layout, and just what is written so is
split off. -/
structure Field.Keeps {Value : Type} (field : Field Value) (fits : Value → Prop)
    (layout : Value → Bytes) : Prop where
  write_eq : ∀ value, fits value → field.write value = layout value
  read_eq_ok_iff : ∀ bytes value rest,
    field.read bytes = .ok (value, rest) ↔ fits value ∧ bytes = layout value ++ rest

/-- What Borsh is documented to do with the fields of proofs and headers. -/
structure Format.IsLawful (format : Format) : Prop where
  /-- The lowest byte of a word comes first. -/
  word : format.word.Keeps (fun _ => True) Bytes.ofWord
  /-- A number with a sign is in two's complement. -/
  signed : format.signed.Keeps (fun _ => True) fun number => Bytes.ofWord number.toUInt32
  /-- Bytes of a fixed number have no length in front. -/
  hash : format.hash.Keeps (fun _ => True) Hash.bytes
  /-- A byte string stands behind its length, which has to fit into a word. -/
  string : format.string.Keeps (fun bytes => bytes.length < 2 ^ 32) fun bytes =>
    Bytes.ofWord (UInt32.ofNat bytes.length) ++ bytes
  /-- A record has to fill its byte string. -/
  finish_eq_ok_iff : ∀ rest, format.finish rest = .ok () ↔ rest = []

/-! ## The standard fields -/

theorem take_eq_ok_iff :
    take count bytes = .ok (content, rest) ↔ content.length = count ∧ bytes = content ++ rest := by
  unfold take
  split
  next enough =>
    constructor
    · intro split
      cases split
      exact ⟨List.length_take_of_le enough, (List.take_append_drop count bytes).symm⟩
    · rintro ⟨rfl, rfl⟩
      rw [List.take_left, List.drop_left]
  next short =>
    refine iff_of_false (by rintro ⟨⟩) ?_
    rintro ⟨rfl, rfl⟩
    exact short (by rw [List.length_append]; omega)

theorem keeps_word : word.Keeps (fun _ => True) Bytes.ofWord where
  write_eq _ _ := rfl
  read_eq_ok_iff bytes value rest := by
    simp only [word, Checks.bind_eq_ok_iff, Checks.pure_eq_ok_iff, Prod.exists, Prod.mk.injEq,
      take_eq_ok_iff, true_and]
    constructor
    · rintro ⟨content, after, ⟨four, rfl⟩, rfl, rfl⟩
      rw [Bytes.ofWord_toWord four]
    · rintro rfl
      exact ⟨_, rest, ⟨Bytes.length_ofWord value, rfl⟩, Bytes.toWord_ofWord value, rfl⟩

/-- The bits of a number are those of a word. -/
theorem keeps_signed :
    signed.Keeps (fun _ => True) fun number => Bytes.ofWord number.toUInt32 where
  write_eq _ _ := rfl
  read_eq_ok_iff bytes value rest := by
    simp only [signed, Checks.bind_eq_ok_iff, Checks.pure_eq_ok_iff, Prod.exists, Prod.mk.injEq,
      keeps_word.read_eq_ok_iff, true_and]
    constructor
    · rintro ⟨bits, after, rfl, rfl, rfl⟩
      rw [UInt32.toUInt32_toInt32]
    · rintro rfl
      exact ⟨_, rest, rfl, Int32.toInt32_toUInt32 value, rfl⟩

theorem keeps_hash : hash.Keeps (fun _ => True) Hash.bytes where
  write_eq _ _ := rfl
  read_eq_ok_iff bytes value rest := by
    rw [true_and]
    dsimp only [hash]
    split
    next enough =>
      constructor
      · intro split
        cases split
        exact (List.take_append_drop 32 bytes).symm
      · rintro rfl
        have first : (value.bytes ++ rest).take 32 = value.bytes :=
          List.take_left' value.length_bytes
        have others : (value.bytes ++ rest).drop 32 = rest :=
          List.drop_left' value.length_bytes
        simp only [first, others]
    next short =>
      refine iff_of_false (by rintro ⟨⟩) ?_
      rintro rfl
      exact short (by rw [List.length_append, value.length_bytes]; omega)

/-- A length that does not fit into a word is not one that is read. -/
theorem keeps_string : string.Keeps (fun bytes => bytes.length < 2 ^ 32) fun bytes =>
    Bytes.ofWord (UInt32.ofNat bytes.length) ++ bytes where
  write_eq _ _ := rfl
  read_eq_ok_iff bytes value rest := by
    simp only [string, Checks.bind_eq_ok_iff, Prod.exists, keeps_word.read_eq_ok_iff,
      take_eq_ok_iff, true_and]
    constructor
    · rintro ⟨length, after, rfl, counted, rfl⟩
      have same : UInt32.ofNat value.length = length := by
        rw [counted, UInt32.ofNat_toNat]
      exact ⟨counted ▸ length.toNat_lt, by rw [same, List.append_assoc]⟩
    · rintro ⟨short, rfl⟩
      refine ⟨UInt32.ofNat value.length, value ++ rest, ?_, ?_, rfl⟩
      · rw [List.append_assoc]
      · rw [UInt32.toNat_ofNat_of_lt' short]

theorem finish_eq_ok_iff : finish rest = .ok () ↔ rest = [] := by
  unfold finish
  split
  next nothing => exact iff_of_true rfl nothing
  next more => exact iff_of_false (by rintro ⟨⟩) more

theorem Format.isLawful_standard : Format.standard.IsLawful where
  word := keeps_word
  signed := keeps_signed
  hash := keeps_hash
  string := keeps_string
  finish_eq_ok_iff _ := Borsh.finish_eq_ok_iff

end HeaderRelay.Borsh
