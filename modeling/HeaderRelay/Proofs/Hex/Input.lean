import HeaderRelay.Hex.Input
import HeaderRelay.Proofs.Hex.Faults
import HeaderRelay.Proofs.Text.Blank

/-!
# Which texts are hex written by hand

Of a text that people paste, the blanks at both ends do not count, and after them one
`0x` in front does not.  Both are taken off once and in this order: blanks behind the
marker count, and so does a second marker.  What is left is read as hex, and its bytes
are the ones that errors speak of.

Blanks are characters and not bytes.  No digit is blank, and no digit is the `x` of the
marker, so whatever is put around the digits comes off again.
-/

namespace HeaderRelay

namespace Hex

open Text (IsBlank TrimsTo)

variable {text rest digits : String} {character : Char} {characters : List Char} {bytes : Bytes}

/-! ## The marker -/

/-- The marker in front of hex. -/
def marker : List Char :=
  ['0', 'x']

theorem dropMarker_eq_iff {core : List Char} :
    dropMarker core = characters ↔
      core = marker ++ characters ∨ core = characters ∧ ¬marker <+: core := by
  unfold dropMarker
  split
  next => simp [marker]
  next other =>
    have bare : ¬marker <+: core := fun ⟨others, marked⟩ => other others marked.symm
    constructor
    · intro same
      exact .inr ⟨same, bare⟩
    · rintro (rfl | ⟨same, _⟩)
      · exact absurd (List.prefix_append _ _) bare
      · exact same

/-- Whether a text is what counts of another one: what is left after the blanks at both
ends, and then one marker in front, are taken off. -/
def Bares (text rest : String) : Prop :=
  ∃ core, TrimsTo text.toList core ∧
    (core = marker ++ rest.toList ∨ core = rest.toList ∧ ¬marker <+: core)

theorem bares_iff : Bares text rest ↔ rest = bareDigits text := by
  simp only [Bares, Text.trimsTo_iff, exists_eq_left', ← dropMarker_eq_iff]
  rw [bareDigits, ← String.toList_inj, String.toList_ofList, eq_comm]

/-! ## Digits and what may stand around them -/

theorem exists_digit_of_mem_encodeChars (member : character ∈ encodeChars bytes) :
    ∃ value < 16, character = digit value := by
  induction bytes with
  | nil => cases member
  | cons byte rest ih =>
      have small := byte.toNat_lt
      rw [encodeChars, List.mem_cons, List.mem_cons] at member
      rcases member with high | low | later
      · exact ⟨_, by omega, high⟩
      · exact ⟨_, by omega, low⟩
      · exact ih later

theorem plain_of_toLower : ∀ code < 128, ∀ value < 16,
    (Char.ofNat code).toLower = digit value →
      Text.isBlank (Char.ofNat code) = false ∧ Char.ofNat code ≠ 'x' := by
  decide +kernel

/-- No digit is blank, and none is the letter of the marker. -/
theorem Spells.plain (spells : Spells digits bytes) (member : character ∈ digits.toList) :
    Text.isBlank character = false ∧ character ≠ 'x' := by
  have written : character.toLower ∈ encodeChars bytes := by
    rw [← spells]
    exact List.mem_map_of_mem member
  obtain ⟨value, small, same⟩ := exists_digit_of_mem_encodeChars written
  have bounded := toNat_lt_of_toLower small same
  rw [← Char.ofNat_toNat character] at same ⊢
  exact plain_of_toLower _ bounded value small same

/-- Whether a text is a byte string in hex between blanks, with or without a marker. -/
def Decorates (text : String) (bytes : Bytes) : Prop :=
  ∃ before marking digits after : String,
    text = before ++ marking ++ digits ++ after ∧
      IsBlank before.toList ∧ IsBlank after.toList ∧ (marking = "" ∨ marking = "0x") ∧
        Spells digits bytes

theorem Spells.decorates (spells : Spells text bytes) : Decorates text bytes :=
  ⟨"", "", text, "", by simp, by simp [IsBlank], by simp [IsBlank], .inl rfl, spells⟩

theorem Decorates.exists_bares (decorates : Decorates text bytes) :
    ∃ digits, Bares text digits ∧ Spells digits bytes := by
  obtain ⟨before, marking, digits, after, rfl, blankBefore, blankAfter, marked, spells⟩ :=
    decorates
  have plainDigits : ∀ character ∈ digits.toList, Text.isBlank character = false :=
    fun _ member => (spells.plain member).1
  refine ⟨digits, ⟨marking.toList ++ digits.toList, ?_, ?_⟩, spells⟩
  · simp only [String.toList_append, List.append_assoc]
    rw [← List.append_assoc marking.toList, ← List.append_assoc before.toList]
    refine .of_plain blankBefore blankAfter (List.forall_mem_append.mpr ⟨?_, plainDigits⟩)
    rcases marked with rfl | rfl
    · nofun
    · exact List.forall_mem_cons.mpr ⟨rfl, List.forall_mem_singleton.mpr rfl⟩
  · rcases marked with rfl | rfl
    · -- Digits by themselves do not begin like a marker.
      refine .inr ⟨rfl, fun isMarker => ?_⟩
      have member : 'x' ∈ digits.toList := isMarker.subset (by decide)
      exact (spells.plain member).2 rfl
    · exact .inl rfl

theorem Bares.decorates (bares : Bares text rest) (spells : Spells rest bytes) :
    Decorates text bytes := by
  obtain ⟨core, ⟨⟨before, after, split, blankBefore, blankAfter⟩, _, _⟩, marked⟩ := bares
  have asText (marking : String) (isCore : core = marking.toList ++ rest.toList) :
      text = String.ofList before ++ marking ++ rest ++ String.ofList after := by
    rw [← String.toList_inj, split, isCore]
    simp
  rcases marked with isMarked | ⟨bare, _⟩
  · exact ⟨_, "0x", rest, _, asText "0x" isMarked, by simpa using blankBefore,
      by simpa using blankAfter, .inr rfl, spells⟩
  · exact ⟨_, "", rest, _, asText "" bare, by simpa using blankBefore,
      by simpa using blankAfter, .inl rfl, spells⟩

theorem decorates_iff : Decorates text bytes ↔ Spells (bareDigits text) bytes := by
  constructor
  · intro decorates
    obtain ⟨digits, bares, spells⟩ := decorates.exists_bares
    exact bares_iff.mp bares ▸ spells
  · intro spells
    exact Bares.decorates (bares_iff.mpr rfl) spells

end Hex

open Text (IsBlank)

/-! ## Bytes and hashes -/

variable {hex : Hex.Format} {text : String} {bytes : Bytes} {hash : Hash}
  {error : MalformedInput}

theorem Bytes.ofInputWith_eq_ok_iff (lawful : hex.IsLawful) :
    Bytes.ofInputWith hex text = .ok bytes ↔ Hex.Spells (Hex.bareDigits text) bytes := by
  rw [Bytes.ofInputWith, Checks.mapError_eq_ok_iff, lawful.decode_eq_ok_iff]

theorem Bytes.ofInputWith_eq_error_iff (lawful : hex.IsLawful) :
    Bytes.ofInputWith hex text = .error error ↔
      ∃ cause, Hex.Fails (.ofString (Hex.bareDigits text)) cause ∧ .hexDigits cause = error := by
  simp only [Bytes.ofInputWith, Checks.mapError_eq_error_iff, lawful.decode_eq_error_iff]

theorem Hash.ofInputWith_eq_ok_iff (lawful : hex.IsLawful) :
    Hash.ofInputWith hex text = .ok hash ↔ Hex.Spells (Hex.bareDigits text) hash.bytes := by
  rw [Hash.ofInputWith, Checks.bind_eq_ok_iff, ← Bytes.ofInputWith_eq_ok_iff lawful]
  constructor
  · rintro ⟨bytes, read, told⟩
    split at told
    next found =>
      cases told
      rw [read, Hash.ofBytes?_eq_some_iff.mp found]
    next => cases told
  · intro read
    exact ⟨hash.bytes, read, by rw [Hash.ofBytes?_bytes]; rfl⟩

theorem Hash.ofInputWith_of_length_ne (lawful : hex.IsLawful)
    (spells : Hex.Spells (Hex.bareDigits text) bytes) (other : bytes.length ≠ 32) :
    Hash.ofInputWith hex text = .error (.hashLength bytes.length) := by
  have read := (Bytes.ofInputWith_eq_ok_iff lawful).mpr spells
  have noHash : Hash.ofBytes? bytes = none := dif_neg other
  rw [Hash.ofInputWith, Checks.bind_eq_error_iff]
  exact .inr ⟨bytes, read, by rw [noHash, Checks.throw_eq_error_iff]⟩

/-- The message about a byte that is no digit shows the byte and its position. -/
theorem MalformedInput.message_invalidDigit (byte : UInt8) (position : Nat) :
    (hexDigits (.invalidDigit byte position)).message =
      "Invalid hex input: Invalid character " ++ Text.quotedChar (Char.ofNat byte.toNat) ++
        " at position " ++ toString position := by
  have joined : "Invalid hex input: " ++ "Invalid character " =
      "Invalid hex input: Invalid character " := by decide +kernel
  change "Invalid hex input: " ++ ("Invalid character " ++ _ ++ " at position " ++ _) = _
  rw [← joined]
  simp only [String.append_assoc]

/-- How a text written by hand is read, told by what counts of it. -/
structure Hex.ReadsAs (hex : Hex.Format) (text rest : String) : Prop where
  bare : ∀ other, Hex.Bares text other ↔ other = rest
  bytes : ∀ bytes, Bytes.ofInputWith hex text = .ok bytes ↔ Hex.Spells rest bytes
  error : ∀ error, Bytes.ofInputWith hex text = .error error ↔
    ∃ cause, Hex.Fails (.ofString rest) cause ∧ .hexDigits cause = error
  /-- A hash has 32 bytes. -/
  hash : ∀ hash, Hash.ofInputWith hex text = .ok hash ↔ Hex.Spells rest hash.bytes
  otherLength : ∀ bytes, Hex.Spells rest bytes → bytes.length ≠ 32 →
    Hash.ofInputWith hex text = .error (.hashLength bytes.length)

/-- Whatever writes and reads the digits lawfully, as the standard format does, exactly
those texts are read as a byte string which are that string in hex, of either case, between
blanks and with one marker or none.  Every other text is refused for an odd number of bytes
or, that number being even, for its first byte that is no digit, and the message says so.
A hash that is displayed is read in the reverse order. -/
theorem handwritten_hex_is_read_exactly :
    Hex.Format.standard.IsLawful ∧ ∀ hex : Hex.Format, hex.IsLawful →
      (∀ text, ∃ rest, Hex.ReadsAs hex text rest) ∧
      (∀ text bytes, Bytes.ofInputWith hex text = .ok bytes ↔ Hex.Decorates text bytes) ∧
      (∀ before marking after bytes, IsBlank before.toList → IsBlank after.toList →
        marking = "" ∨ marking = "0x" →
          Bytes.ofInputWith hex (before ++ marking ++ hex.encode bytes ++ after) = .ok bytes) ∧
      (MalformedInput.hexDigits .oddLength).message =
        "Invalid hex input: Odd number of digits" ∧
      (∀ byte position, (MalformedInput.hexDigits (.invalidDigit byte position)).message =
        "Invalid hex input: Invalid character " ++ Text.quotedChar (Char.ofNat byte.toNat) ++
          " at position " ++ toString position) ∧
      ∀ hash : Hash, Hash.ofInputWith hex (hash.displayWith hex) = .ok hash.reverse := by
  refine ⟨Hex.Format.isLawful_standard, ?_⟩
  intro hex lawful
  have grammar (text : String) (bytes : Bytes) :
      Bytes.ofInputWith hex text = .ok bytes ↔ Hex.Decorates text bytes :=
    (Bytes.ofInputWith_eq_ok_iff lawful).trans Hex.decorates_iff.symm
  refine ⟨?_, grammar, ?_, rfl, ?_, ?_⟩
  · intro text
    exact ⟨Hex.bareDigits text, fun _ => Hex.bares_iff,
      fun _ => Bytes.ofInputWith_eq_ok_iff lawful, fun _ => Bytes.ofInputWith_eq_error_iff lawful,
      fun _ => Hash.ofInputWith_eq_ok_iff lawful,
      fun _ => Hash.ofInputWith_of_length_ne lawful⟩
  · intro before marking after bytes blankBefore blankAfter marked
    exact (grammar _ bytes).mpr ⟨before, marking, _, after, rfl, blankBefore, blankAfter, marked,
      lawful.spells_encode bytes⟩
  · exact MalformedInput.message_invalidDigit
  · intro hash
    rw [Hash.ofInputWith_eq_ok_iff lawful, ← Hex.decorates_iff]
    exact (lawful.spells_encode hash.reverse.bytes).decorates

/-- A byte string in hex of both cases, behind a marker and between blanks of several
kinds. -/
def pastedText : String :=
  "\u3000\t0xaB0c\u2028\n"

/-- Blanks, a marker and digits of both cases are read.  Of two markers the second counts,
and its letter is no digit; a blank behind the marker makes the number of bytes odd. -/
theorem pastedText_is_read :
    Hex.Format.standard.IsLawful ∧
      Bytes.ofInput pastedText = .ok [0xAB, 0x0C] ∧
      Bytes.ofInput ("\u00A0" ++ "0x" ++ Hex.encode [0xAB, 0x0C] ++ "\r\n") =
        .ok [0xAB, 0x0C] ∧
      Bytes.ofInput "0x0xab0c" = .error (.hexDigits (.invalidDigit 0x78 1)) ∧
      Bytes.ofInput "0x ab0c" = .error (.hexDigits .oddLength) ∧
      Hash.ofInput Hash.zero.display = .ok Hash.zero.reverse := by
  obtain ⟨lawful, reading⟩ := handwritten_hex_is_read_exactly
  obtain ⟨reads, grammar, decorated, _, _, displayed⟩ := reading .standard lawful
  have pasted : Hex.Decorates pastedText [0xAB, 0x0C] :=
    ⟨"\u3000\t", "0x", "aB0c", "\u2028\n", by decide +kernel, by decide +kernel,
      by decide +kernel, .inr rfl, by decide +kernel⟩
  have encoded := decorated "\u00A0" "0x" "\r\n" [0xAB, 0x0C] (by decide +kernel)
    (by decide +kernel) (.inr rfl)
  have twice : Bytes.ofInput "0x0xab0c" = .error (.hexDigits (.invalidDigit 0x78 1)) := by
    obtain ⟨rest, readsAs⟩ := reads "0x0xab0c"
    obtain rfl := (readsAs.bare "0xab0c").mp (Hex.bares_iff.mpr (by decide +kernel))
    have split : Bytes.ofString "0xab0c" = [0x30] ++ 0x78 :: [0x61, 0x62, 0x30, 0x63] := by
      decide +kernel
    exact (readsAs.error _).mpr
      ⟨_, .stray (by decide +kernel) split (List.forall_mem_singleton.mpr (by decide))
        (by decide), rfl⟩
  have apart : Bytes.ofInput "0x ab0c" = .error (.hexDigits .oddLength) := by
    obtain ⟨rest, readsAs⟩ := reads "0x ab0c"
    obtain rfl := (readsAs.bare " ab0c").mp (Hex.bares_iff.mpr (by decide +kernel))
    exact (readsAs.error _).mpr ⟨_, .odd (by decide +kernel), rfl⟩
  exact ⟨lawful, (grammar _ _).mpr pasted, encoded, twice, apart, displayed _⟩

end HeaderRelay
