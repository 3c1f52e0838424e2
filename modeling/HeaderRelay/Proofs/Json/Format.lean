import HeaderRelay.Json.Format
import HeaderRelay.Proofs.Json.Records

/-!
# What is known of JSON formats

What writes and reads JSON comes from elsewhere.  The records of this library are flat: a
field is a text, a number or an array of numbers, and numbers have at most 64 bits.  Of a
format it is known how such records are written, which texts are read as them, and what
single values are taken for.  So from any text that has the members of a record, in
whatever order, its fields are read.
-/

namespace HeaderRelay.Json

variable {fields : List (String × Json)} {text : String}

/-! ## Flat records -/

/-- Whether a number fits into 64 bits, with a sign or without. -/
def FitsBits (number : Int) : Prop :=
  -0x8000000000000000 ≤ number ∧ number < 0x10000000000000000

/-- Whether a value is what a field may be. -/
inductive IsField : Json → Prop where
  | text (text : String) : IsField (.ofText text)
  | number {number : Int} (fits : FitsBits number) : IsField (.integer number)
  | numbers {numbers : List Int} (fits : ∀ number ∈ numbers, FitsBits number) :
      IsField (.array (numbers.map .integer))

theorem IsField.isPlain {json : Json} (field : json.IsField) : json.IsPlain := by
  cases field with
  | text text => exact isPlain_ofText text
  | number fits => exact isPlain_integer _
  | numbers fits =>
      exact isPlain_array (List.forall_mem_map.mpr fun number _ => isPlain_integer number)

theorem isField_word (word : UInt32) : (ofNat word.toNat).IsField := by
  have small := word.toNat_lt
  exact .number ⟨by omega, by omega⟩

/-- Whether the fields of a record are as they may be. -/
def AreFields (fields : List (String × Json)) : Prop :=
  ∀ field ∈ fields, field.2.IsField

/-- Whether a text is an object with the given members, in any order and with any
blanks between its tokens. -/
def SpelledBy (fields : List (String × Json)) (text : String) : Prop :=
  ∃ members, members.Perm fields ∧ Token.Spells (ofMembers members).tokens text.toList

namespace Format

/-! ## Lawful formats -/

/-- What JSON is documented to do with flat records. -/
structure IsLawful (format : Format) : Prop where
  /-- A record is written as its tokens, without blanks between them. -/
  write_eq : ∀ {members}, AreFields members →
    (format.write (ofMembers members)).toList = (ofMembers members).tokens.flatMap Token.lexeme
  /-- A text is read as the record that has its tokens, wherever blanks stand. -/
  read_of_spells : ∀ {members text}, AreFields members →
    Token.Spells (ofMembers members).tokens text.toList →
      format.read text = some (ofMembers members)
  /-- A record that has each field once is taken for its fields, in whatever order its
  members stand. -/
  fields_of_perm : ∀ {fields members : List (String × Json)}, (fields.map Prod.fst).Nodup →
    members.Perm fields →
      format.fields (fields.map Prod.fst) (ofMembers members) = some (fields.map Prod.snd)
  /-- An array is taken for its items if as many are asked for. -/
  items_array : ∀ items, format.items items.length (.array items) = some items
  /-- A number within the bounds is taken for itself. -/
  integer_integer : ∀ {lower number upper}, lower ≤ number → number ≤ upper →
    format.integer lower upper (.integer number) = some number
  /-- A string is taken for the text that it spells. -/
  text_ofText : ∀ text, format.text (.ofText text) = some text

theorem isLawful_standard : standard.IsLawful where
  write_eq _ := toList_compact _
  read_of_spells areFields spells :=
    parse?_of_spells (isPlain_ofMembers fun member listed => (areFields member listed).isPlain)
      spells
  fields_of_perm := fields?_of_perm
  items_array := items?_array
  integer_integer := integer?_integer
  text_ofText := text?_ofText

/-! ## Records -/

namespace IsLawful

variable {format : Format}

theorem spelledBy_write (lawful : format.IsLawful) (areFields : AreFields fields) :
    SpelledBy fields (format.write (ofMembers fields)) := by
  refine ⟨fields, .refl fields, ?_⟩
  rw [lawful.write_eq areFields]
  exact Token.spells_flatMap _

/-- From any text of a record its fields are read in their own order. -/
theorem fields_of_spelledBy (lawful : format.IsLawful) (spelled : SpelledBy fields text)
    (distinct : (fields.map Prod.fst).Nodup) (areFields : AreFields fields) :
    ∃ json, format.read text = some json ∧
      format.fields (fields.map Prod.fst) json = some (fields.map Prod.snd) := by
  obtain ⟨members, order, spells⟩ := spelled
  have areMembers : AreFields members :=
    fun member listed => areFields member (order.mem_iff.mp listed)
  exact ⟨_, lawful.read_of_spells areMembers spells, lawful.fields_of_perm distinct order⟩

theorem integer_ofNat (lawful : format.IsLawful) {number : Nat} {upper : Int}
    (within : number ≤ upper) : format.integer 0 upper (.ofNat number) = some (number : Int) :=
  lawful.integer_integer (Int.natCast_nonneg number) within

theorem word_ofNat (lawful : format.IsLawful) (word : UInt32) :
    format.word (.ofNat word.toNat) = some word := by
  have small := word.toNat_lt
  rw [Format.word, lawful.integer_ofNat (by omega), Option.map_some, Int.toNat_natCast,
    UInt32.ofNat_toNat]

theorem byte_ofNat (lawful : format.IsLawful) (byte : UInt8) :
    format.byte (.ofNat byte.toNat) = some byte := by
  have small := byte.toNat_lt
  rw [Format.byte, lawful.integer_ofNat (by omega), Option.map_some, Int.toNat_natCast,
    UInt8.ofNat_toNat]

end IsLawful

end Format

end HeaderRelay.Json
