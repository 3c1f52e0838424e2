import HeaderRelay.Proofs.Checks
import HeaderRelay.Proofs.Hex
import Mathlib.Data.List.Induction

/-!
# Texts that are no hex

Every text spells a byte string or has a fault.  An odd number of bytes is a fault whatever
the bytes are; else the fault is the first byte that is no digit, told with its position.
What reads hex comes from elsewhere; that it reads digits of either case and tells these two
faults is all that is known of it, and settles what becomes of any text.

Positions count UTF-8 bytes.  A character beyond ASCII has several of them, and the
first one is no digit, so a text all of whose bytes are digits consists of digits.
-/

namespace HeaderRelay.Hex

variable {byte : UInt8} {character : Char} {characters : List Char} {bytes : Bytes}
  {text : String} {cause : DecodeError}

/-! ## Digits among bytes -/

/-- Whether a byte is a hex digit of either case. -/
def IsDigit (byte : UInt8) : Prop :=
  Char.ofNat byte.toNat ∈ "0123456789abcdefABCDEF".toList

instance : DecidablePred IsDigit := fun _ =>
  inferInstanceAs (Decidable (_ ∈ _))

theorem isSome_digitValue?_ofNat : ∀ code < 256,
    (digitValue? (UInt8.ofNat code)).isSome = true ↔ IsDigit (UInt8.ofNat code) := by
  decide +kernel

theorem isSome_digitValue?_iff : (digitValue? byte).isSome = true ↔ IsDigit byte := by
  have same := isSome_digitValue?_ofNat byte.toNat byte.toNat_lt
  rwa [UInt8.ofNat_toNat] at same

theorem digitAt_of_isDigit (isDigit : IsDigit byte) (position : Nat) :
    ∃ value, digitAt byte position = .ok value := by
  obtain ⟨value, found⟩ := Option.isSome_iff_exists.mp (isSome_digitValue?_iff.mpr isDigit)
  exact ⟨value, by rw [digitAt, found]⟩

theorem digitAt_of_not_isDigit (stray : ¬IsDigit byte) (position : Nat) :
    digitAt byte position = .error (.invalidDigit byte position) := by
  have missing : digitValue? byte = none := by
    rwa [← isSome_digitValue?_iff, Option.not_isSome_iff_eq_none] at stray
  rw [digitAt, missing]

/-! ## Digits among characters -/

theorem exists_value_of_isDigit : ∀ code < 128, IsDigit (UInt8.ofNat code) →
    ∃ value < 16, (Char.ofNat code).toLower = digit value := by
  decide +kernel

theorem not_isDigit_ofNat : ∀ code < 256, 128 ≤ code → ¬IsDigit (UInt8.ofNat code) := by
  decide +kernel

/-- The bytes of a character beyond ASCII begin with one that is no digit. -/
theorem exists_stray_of_le (beyond : 128 ≤ character.toNat) :
    ∃ lead more, String.utf8EncodeChar character = lead :: more ∧ ¬IsDigit lead := by
  have same : character.val.toNat = character.toNat := rfl
  unfold String.utf8EncodeChar
  dsimp only
  split
  next => omega
  next =>
    split
    next => exact ⟨_, _, rfl, not_isDigit_ofNat _ (by omega) (by omega)⟩
    next =>
      split
      next => exact ⟨_, _, rfl, not_isDigit_ofNat _ (by omega) (by omega)⟩
      next => exact ⟨_, _, rfl, not_isDigit_ofNat _ (by omega) (by omega)⟩

/-- A character whose bytes are digits is a digit, and has one byte. -/
theorem exists_value_of_utf8EncodeChar
    (digits : ∀ byte ∈ String.utf8EncodeChar character, IsDigit byte) :
    ∃ value < 16, character.toLower = digit value ∧
      (String.utf8EncodeChar character).length = 1 := by
  by_cases small : character.toNat < 128
  · have same : character.val.toNat = character.toNat := rfl
    have written : String.utf8EncodeChar character = [UInt8.ofNat character.toNat] := by
      rw [String.utf8EncodeChar]
      exact if_pos (by omega)
    rw [written, List.forall_mem_singleton] at digits
    obtain ⟨value, bounded, isDigit⟩ := exists_value_of_isDigit character.toNat small digits
    rw [Char.ofNat_toNat] at isDigit
    exact ⟨value, bounded, isDigit, by rw [written, List.length_singleton]⟩
  · obtain ⟨lead, more, written, stray⟩ := exists_stray_of_le (Nat.le_of_not_lt small)
    rw [written] at digits
    exact absurd (digits lead List.mem_cons_self) stray

theorem encodeChars_cons_ofNat {upper lower : Nat} (upperSmall : upper < 16)
    (lowerSmall : lower < 16) (bytes : Bytes) :
    encodeChars (UInt8.ofNat (16 * upper + lower) :: bytes) =
      digit upper :: digit lower :: encodeChars bytes := by
  have value : (UInt8.ofNat (16 * upper + lower)).toNat = 16 * upper + lower :=
    UInt8.toNat_ofNat_of_lt' (by simp only [UInt8.size]; omega)
  have high : (16 * upper + lower) / 16 = upper := by omega
  have low : (16 * upper + lower) % 16 = lower := by omega
  rw [encodeChars, value, high, low]

/-- An even number of digits spells a byte string. -/
theorem exists_map_toLower_eq
    (digits : ∀ byte ∈ characters.flatMap String.utf8EncodeChar, IsDigit byte)
    (even : (characters.flatMap String.utf8EncodeChar).length % 2 = 0) :
    ∃ bytes, characters.map Char.toLower = encodeChars bytes := by
  induction characters using List.twoStepInduction with
  | nil => exact ⟨[], rfl⟩
  | singleton character =>
      rw [List.flatMap_singleton] at digits even
      obtain ⟨_, _, _, single⟩ := exists_value_of_utf8EncodeChar digits
      omega
  | cons_cons high low rest ih _ =>
      simp only [List.flatMap_cons, List.forall_mem_append, List.length_append] at digits even
      obtain ⟨highDigits, lowDigits, digits⟩ := digits
      obtain ⟨upper, upperSmall, isUpper, highSingle⟩ :=
        exists_value_of_utf8EncodeChar highDigits
      obtain ⟨lower, lowerSmall, isLower, lowSingle⟩ := exists_value_of_utf8EncodeChar lowDigits
      obtain ⟨bytes, spells⟩ := ih digits (by omega)
      refine ⟨UInt8.ofNat (16 * upper + lower) :: bytes, ?_⟩
      rw [List.map_cons, List.map_cons, spells, isUpper, isLower,
        encodeChars_cons_ofNat upperSmall lowerSmall]

/-! ## Faults -/

/-- What is wrong with bytes that are to be an even number of digits. -/
inductive Fails (digits : Bytes) : DecodeError → Prop where
  | odd (odd : digits.length % 2 = 1) : Fails digits .oddLength
  /-- Only digits stand in front of the byte that is told. -/
  | stray {before after : Bytes} {byte : UInt8} (even : digits.length % 2 = 0)
      (split : digits = before ++ byte :: after) (earlier : ∀ other ∈ before, IsDigit other)
      (stray : ¬IsDigit byte) : Fails digits (.invalidDigit byte before.length)

/-- The reader goes over the digits in pairs and stops within the pair of the first byte
that is no digit. -/
theorem decodePairs_of_stray {before after : Bytes}
    (even : (before ++ byte :: after).length % 2 = 0)
    (earlier : ∀ other ∈ before, IsDigit other) (stray : ¬IsDigit byte) (position : Nat) :
    decodePairs position (before ++ byte :: after) =
      .error (.invalidDigit byte (position + before.length)) := by
  induction before using List.twoStepInduction generalizing position with
  | nil =>
      cases after with
      | nil => simp at even
      | cons low rest =>
          -- The pair begins with the stray byte, so the one behind it is not looked at.
          rw [List.nil_append, decodePairs, digitAt_of_not_isDigit stray]
          rfl
  | singleton high =>
      obtain ⟨value, found⟩ := digitAt_of_isDigit (earlier high List.mem_cons_self) position
      rw [List.singleton_append, decodePairs, found, digitAt_of_not_isDigit stray]
      rfl
  | cons_cons high low rest ih _ =>
      simp only [List.forall_mem_cons] at earlier
      obtain ⟨isHigh, isLow, earlier⟩ := earlier
      obtain ⟨highValue, highFound⟩ := digitAt_of_isDigit isHigh position
      obtain ⟨lowValue, lowFound⟩ := digitAt_of_isDigit isLow (position + 1)
      simp only [List.cons_append, List.length_cons, Nat.add_assoc, Nat.add_mod_right] at even
      have told := ih even earlier (position + 2)
      rw [List.cons_append, List.cons_append, decodePairs, highFound, lowFound, told,
        List.length_cons, List.length_cons, Nat.add_assoc, Nat.add_comm 2]
      rfl

theorem decode_of_odd (odd : (Bytes.ofString text).length % 2 = 1) :
    decode text = .error .oddLength := by
  rw [decode, decodeBytes, if_pos odd]

theorem decode_of_stray {before after : Bytes} (even : (Bytes.ofString text).length % 2 = 0)
    (split : Bytes.ofString text = before ++ byte :: after)
    (earlier : ∀ other ∈ before, IsDigit other) (stray : ¬IsDigit byte) :
    decode text = .error (.invalidDigit byte before.length) := by
  rw [decode, decodeBytes, if_neg (by omega), split]
  rw [split] at even
  simpa using decodePairs_of_stray even earlier stray 0

/-- A text without a fault spells a byte string. -/
theorem exists_spells_or_fails (text : String) :
    (∃ bytes, Spells text bytes) ∨ ∃ cause, Fails (.ofString text) cause := by
  rcases Nat.mod_two_eq_zero_or_one (Bytes.ofString text).length with even | odd
  · cases found : (Bytes.ofString text).find? fun byte => ¬IsDigit byte with
    | none =>
        rw [List.find?_eq_none] at found
        rw [Bytes.ofString_eq] at found even
        exact .inl (exists_map_toLower_eq (by simpa using found) even)
    | some byte =>
        obtain ⟨stray, before, after, split, earlier⟩ := List.find?_eq_some_iff_append.mp found
        exact .inr ⟨_, .stray even split (by simpa using earlier) (by simpa using stray)⟩
  · exact .inr ⟨_, .odd odd⟩

/-! ## What is known of a format -/

namespace Format

/-- What hex is documented to do. -/
structure IsLawful (format : Format) : Prop where
  /-- Two digits are written for each byte. -/
  spells_encode : ∀ bytes, Spells (format.encode bytes) bytes
  /-- Pairs of digits are read, and the case of a digit does not count. -/
  decode_of_spells : ∀ {text bytes}, Spells text bytes → format.decode text = .ok bytes
  /-- An odd number of bytes is told before anything else. -/
  decode_of_odd : ∀ {text}, (Bytes.ofString text).length % 2 = 1 →
    format.decode text = .error .oddLength
  /-- If the number is even, the first byte that is no digit is told with its offset. -/
  decode_of_stray : ∀ {text before byte after}, (Bytes.ofString text).length % 2 = 0 →
    Bytes.ofString text = before ++ byte :: after → (∀ other ∈ before, IsDigit other) →
      ¬IsDigit byte → format.decode text = .error (.invalidDigit byte before.length)

theorem isLawful_standard : standard.IsLawful where
  spells_encode := Hex.spells_encode
  decode_of_spells := Hex.decode_of_spells
  decode_of_odd := Hex.decode_of_odd
  decode_of_stray := Hex.decode_of_stray

namespace IsLawful

variable {format : Format}

theorem decode_of_fails (lawful : format.IsLawful) (fails : Fails (.ofString text) cause) :
    format.decode text = .error cause := by
  cases fails with
  | odd odd => exact lawful.decode_of_odd odd
  | stray even split earlier stray => exact lawful.decode_of_stray even split earlier stray

/-- What is read is what the text spells. -/
theorem decode_eq_ok_iff (lawful : format.IsLawful) :
    format.decode text = .ok bytes ↔ Spells text bytes := by
  refine ⟨fun read => ?_, lawful.decode_of_spells⟩
  rcases exists_spells_or_fails text with ⟨others, spells⟩ | ⟨cause, fails⟩
  · cases read.symm.trans (lawful.decode_of_spells spells)
    exact spells
  · cases read.symm.trans (lawful.decode_of_fails fails)

/-- What is told is what is wrong. -/
theorem decode_eq_error_iff (lawful : format.IsLawful) :
    format.decode text = .error cause ↔ Fails (.ofString text) cause := by
  refine ⟨fun told => ?_, lawful.decode_of_fails⟩
  rcases exists_spells_or_fails text with ⟨others, spells⟩ | ⟨other, fails⟩
  · cases told.symm.trans (lawful.decode_of_spells spells)
  · cases told.symm.trans (lawful.decode_of_fails fails)
    exact fails

end IsLawful

end Format

end HeaderRelay.Hex
