import HeaderRelay.Header.Encoding
import HeaderRelay.Proof.Encoding
import HeaderRelay.Proofs.Borsh
import HeaderRelay.Proofs.Hex.Faults
import HeaderRelay.Proofs.Json.Format

/-!
# Proofs and headers in JSON and Borsh

Nothing of a proof or a header is lost in its JSON and its Borsh form, whatever writes
and reads JSON, hex and Borsh lawfully.  In JSON the order of the members, the blanks
between the tokens and the case of the digits do not count.  A Borsh form is the only one
of its proof, and that of a header is its 80 bytes.
-/

namespace HeaderRelay

variable {json : Json.Format} {hex : Hex.Format} {borsh : Borsh.Format}

/-! ## Proofs -/

namespace Proof

variable {proof : Proof} {bytes : Bytes} {text : String}

/-- The members of a proof in JSON whose byte strings are written as the given texts. -/
def members (proof : Proof) (txid branch headers : String) : List (String × Json) := [
  ("tx_hash", .ofText txid),
  ("merkle_proof", .ofText branch),
  ("tx_index_in_block", .ofNat proof.index.toNat),
  ("bitcoin_headers", .ofText headers)]

/-- Whether a text is the JSON form of a proof but for the order of the members, the
blanks between the tokens and the case of the digits. -/
def SpelledBy (proof : Proof) (text : String) : Prop :=
  ∃ txid branch headers,
    Hex.Spells txid proof.txid.bytes ∧ Hex.Spells branch proof.branch ∧
      Hex.Spells headers proof.headers ∧
        Json.SpelledBy (proof.members txid branch headers) text

theorem areFields_members (proof : Proof) (txid branch headers : String) :
    Json.AreFields (proof.members txid branch headers) := by
  simp [Json.AreFields, members, Json.isField_word, Json.IsField.text]

theorem bytesOfJson?_ofText (isJson : json.IsLawful) (isHex : hex.IsLawful)
    (spells : Hex.Spells text bytes) : bytesOfJson? json hex (.ofText text) = some bytes := by
  rw [bytesOfJson?, isJson.text_ofText, Option.bind_some, isHex.decode_of_spells spells]
  rfl

theorem parseJsonWith?_of_spelledBy (isJson : json.IsLawful) (isHex : hex.IsLawful)
    (spelled : SpelledBy proof text) : parseJsonWith? json hex text = some proof := by
  obtain ⟨txid, branch, headers, isTxid, isBranch, isHeaders, spelled⟩ := spelled
  have distinct : jsonKeys.Nodup := by decide
  obtain ⟨value, parsed, fields⟩ :=
    isJson.fields_of_spelledBy spelled distinct (proof.areFields_members txid branch headers)
  have found : json.fields jsonKeys value = some [.ofText txid, .ofText branch,
    .ofNat proof.index.toNat, .ofText headers] := fields
  rw [parseJsonWith?, parsed, Option.bind_some, ofJson?, found]
  simp [bytesOfJson?_ofText isJson isHex isTxid, bytesOfJson?_ofText isJson isHex isBranch,
    bytesOfJson?_ofText isJson isHex isHeaders, isJson.word_ofNat]

theorem spelledBy_write (isJson : json.IsLawful) (isHex : hex.IsLawful) (proof : Proof) :
    SpelledBy proof (json.write (proof.toJsonWith hex)) :=
  ⟨_, _, _, isHex.spells_encode _, isHex.spells_encode _, isHex.spells_encode _,
    isJson.spelledBy_write (proof.areFields_members _ _ _)⟩

/-- Whether the lengths of a proof fit into words. -/
def FitsBorsh (proof : Proof) : Prop :=
  proof.branch.length < 2 ^ 32 ∧ proof.headers.length < 2 ^ 32

theorem toBorshWith_eq (isBorsh : borsh.IsLawful) (fits : proof.FitsBorsh) :
    proof.toBorshWith borsh =
      proof.txid.bytes ++ (Bytes.ofWord (UInt32.ofNat proof.branch.length) ++ proof.branch) ++
        Bytes.ofWord proof.index ++
          (Bytes.ofWord (UInt32.ofNat proof.headers.length) ++ proof.headers) := by
  rw [toBorshWith, isBorsh.hash.write_eq _ trivial, isBorsh.string.write_eq _ fits.1,
    isBorsh.word.write_eq _ trivial, isBorsh.string.write_eq _ fits.2]

theorem ofBorshWith_eq_ok_iff (isBorsh : borsh.IsLawful) :
    ofBorshWith borsh bytes = .ok proof ↔ proof.FitsBorsh ∧ proof.toBorshWith borsh = bytes := by
  simp only [ofBorshWith, Checks.bind_eq_ok_iff, Checks.pure_eq_ok_iff, Prod.exists,
    Checks.exists_unit_iff, isBorsh.hash.read_eq_ok_iff, isBorsh.string.read_eq_ok_iff,
    isBorsh.word.read_eq_ok_iff, isBorsh.finish_eq_ok_iff, true_and]
  constructor
  · rintro ⟨_, _, rfl, _, _, ⟨branch, rfl⟩, _, _, rfl, _, _, ⟨headers, rfl⟩, rfl, rfl⟩
    refine ⟨⟨branch, headers⟩, ?_⟩
    rw [toBorshWith_eq isBorsh ⟨branch, headers⟩]
    simp only [List.append_assoc, List.append_nil]
  · rintro ⟨fits, rfl⟩
    refine ⟨_, _, ?_, _, _, ⟨fits.1, rfl⟩, _, _, rfl, _, _, ⟨fits.2, rfl⟩, rfl, rfl⟩
    rw [toBorshWith_eq isBorsh fits]
    simp only [List.append_assoc, List.append_nil]

end Proof

/-! ## Headers -/

namespace Header

variable {header : Header} {bytes : Bytes} {text : String}

/-- The members of a header in JSON. -/
def members (header : Header) : List (String × Json) := [
  ("version", .integer header.version.toInt),
  ("prev_block_hash", hashToJson header.previous),
  ("merkle_root", hashToJson header.merkleRoot),
  ("time", .ofNat header.time.toNat),
  ("bits", .ofNat header.bits.toNat),
  ("nonce", .ofNat header.nonce.toNat)]

theorem isField_hashToJson (hash : Hash) : (hashToJson hash).IsField := by
  have numbers : hashToJson hash =
      .array ((hash.bytes.map fun byte => (byte.toNat : Int)).map .integer) := by
    rw [List.map_map]
    rfl
  rw [numbers]
  refine .numbers (List.forall_mem_map.mpr fun byte _ => ?_)
  have small := byte.toNat_lt
  exact ⟨by omega, by omega⟩

theorem areFields_members (header : Header) : Json.AreFields header.members := by
  have version : (Json.integer header.version.toInt).IsField := by
    have lower := header.version.le_toInt
    have upper := header.version.toInt_lt
    exact .number ⟨by omega, by omega⟩
  simp [Json.AreFields, members, version, isField_hashToJson, Json.isField_word]

theorem hashOfJson?_hashToJson (isJson : json.IsLawful) (hash : Hash) :
    hashOfJson? json (hashToJson hash) = some hash := by
  have items := isJson.items_array (hash.bytes.map fun byte => Json.ofNat byte.toNat)
  rw [List.length_map, hash.length_bytes] at items
  have read : (hash.bytes.map fun byte => Json.ofNat byte.toNat).mapM json.byte =
      some hash.bytes := by
    rw [List.mapM_map]
    exact (Json.mapM_eq_some_map fun byte _ => isJson.byte_ofNat byte).trans
      (congrArg some (List.map_id hash.bytes))
  rw [hashToJson, hashOfJson?, items, Option.bind_eq_bind, Option.bind_some, read,
    Option.bind_eq_bind, Option.bind_some, Hash.ofBytes?_bytes]

theorem versionOfJson?_toInt (isJson : json.IsLawful) (version : Int32) :
    versionOfJson? json (.integer version.toInt) = some version := by
  have lower := version.le_toInt
  have upper := version.toInt_lt
  rw [versionOfJson?, isJson.integer_integer (by omega) (by omega), Option.map_some,
    Int32.ofInt_toInt]

theorem parseJsonWith?_of_spelledBy (isJson : json.IsLawful)
    (spelled : Json.SpelledBy header.members text) : parseJsonWith? json text = some header := by
  have distinct : jsonKeys.Nodup := by decide
  obtain ⟨value, parsed, fields⟩ :=
    isJson.fields_of_spelledBy spelled distinct header.areFields_members
  have found : json.fields jsonKeys value = some [.integer header.version.toInt,
    hashToJson header.previous, hashToJson header.merkleRoot, .ofNat header.time.toNat,
    .ofNat header.bits.toNat, .ofNat header.nonce.toNat] := fields
  rw [parseJsonWith?, parsed, Option.bind_some, ofJson?, found]
  simp [versionOfJson?_toInt isJson, hashOfJson?_hashToJson isJson, isJson.word_ofNat]

/-- The fields of a header in Borsh have the layouts that they have in its 80 bytes. -/
theorem toBorshWith_eq_encode (isBorsh : borsh.IsLawful) (header : Header) :
    header.toBorshWith borsh = header.encode := by
  rw [toBorshWith, encode, isBorsh.signed.write_eq _ trivial, isBorsh.hash.write_eq _ trivial,
    isBorsh.hash.write_eq _ trivial, isBorsh.word.write_eq _ trivial,
    isBorsh.word.write_eq _ trivial, isBorsh.word.write_eq _ trivial]

theorem ofBorshWith_eq_ok_iff (isBorsh : borsh.IsLawful) :
    ofBorshWith borsh bytes = .ok header ↔ header.encode = bytes := by
  simp only [ofBorshWith, Checks.bind_eq_ok_iff, Checks.pure_eq_ok_iff, Prod.exists,
    Checks.exists_unit_iff, isBorsh.signed.read_eq_ok_iff, isBorsh.hash.read_eq_ok_iff,
    isBorsh.word.read_eq_ok_iff, isBorsh.finish_eq_ok_iff, true_and]
  constructor
  · rintro ⟨_, _, rfl, _, _, rfl, _, _, rfl, _, _, rfl, _, _, rfl, _, _, rfl, rfl, rfl⟩
    simp only [encode, List.append_assoc, List.append_nil]
  · rintro rfl
    refine ⟨header.version, _, ?_, header.previous, _, rfl, header.merkleRoot, _, rfl,
      header.time, _, rfl, header.bits, _, rfl, header.nonce, _, rfl, rfl, rfl⟩
    simp only [encode, List.append_assoc, List.append_nil]

end Header

/-! ## Both -/

/-- Whatever writes and reads JSON, hex and Borsh lawfully, proofs and headers are read back
from their JSON and Borsh forms, proofs also from JSON that is spelled in another way.  A
byte string that is read as the Borsh form of a proof is that form.  The Borsh form of a
header is its 80 bytes, read as these are. -/
theorem structured_forms_are_lossless (isJson : json.IsLawful) (isHex : hex.IsLawful)
    (isBorsh : borsh.IsLawful) :
    (∀ proof : Proof,
        Proof.parseJsonWith? json hex (json.write (proof.toJsonWith hex)) = some proof) ∧
      (∀ (proof : Proof) (text : String), Proof.SpelledBy proof text →
        Proof.parseJsonWith? json hex text = some proof) ∧
      (∀ proof : Proof, proof.FitsBorsh →
        Proof.ofBorshWith borsh (proof.toBorshWith borsh) = .ok proof) ∧
      (∀ (bytes : Bytes) (proof : Proof), Proof.ofBorshWith borsh bytes = .ok proof →
        proof.toBorshWith borsh = bytes) ∧
      (∀ header : Header, Header.parseJsonWith? json (json.write header.toJson) = some header) ∧
      (∀ header : Header, header.toBorshWith borsh = header.encode) ∧
      ∀ (bytes : Bytes) (header : Header),
        Header.ofBorshWith borsh bytes = .ok header ↔ Header.decode bytes = .ok header := by
  refine ⟨?_, fun _ _ => Proof.parseJsonWith?_of_spelledBy isJson isHex, ?_, ?_, ?_,
    Header.toBorshWith_eq_encode isBorsh, ?_⟩
  · intro proof
    exact Proof.parseJsonWith?_of_spelledBy isJson isHex (Proof.spelledBy_write isJson isHex proof)
  · exact fun _ fits => (Proof.ofBorshWith_eq_ok_iff isBorsh).mpr ⟨fits, rfl⟩
  · exact fun _ _ read => ((Proof.ofBorshWith_eq_ok_iff isBorsh).mp read).2
  · intro header
    exact Header.parseJsonWith?_of_spelledBy isJson
      (isJson.spelledBy_write header.areFields_members)
  · exact fun _ _ => (Header.ofBorshWith_eq_ok_iff isBorsh).trans Header.decode_eq_ok_iff.symm

/-- A proof whose byte strings hold no whole siblings and headers. -/
def sampleProof : Proof where
  txid := ⟨List.replicate 32 0xAB, List.length_replicate⟩
  branch := [0x0C, 0x1D, 0x2E]
  index := 70
  headers := [0xFF]

/-- The proof in JSON, with the last member first, blanks and digits of both cases. -/
def sampleText : String :=
  "\n\x7b \"bitcoin_headers\" : \"fF\",\t\"tx_index_in_block\":70 ,\r\n" ++
    "  \"merkle_proof\":\"0c1D2E\" , \"tx_hash\"  : " ++
    "\"abABabABabABabABabABabABabABabABabABabABabABabABabABabABabABabAB\" \x7d\t"

theorem sampleText_spells : Proof.SpelledBy sampleProof sampleText := by
  let txid := "abABabABabABabABabABabABabABabABabABabABabABabABabABabABabABabAB"
  let members := (sampleProof.members txid "0c1D2E" "fF").reverse
  let tokens := (Json.ofMembers members).tokens
  -- The blanks in front of each token.
  let blanks := ["\n", " ", " ", " ", "", "\t", "", "", " ",
    "\r\n  ", "", "", " ", " ", "  ", " ", " "]
  let spaced := (blanks.map String.toList).zip tokens
  have spells : Json.Token.Spells (spaced.map Prod.snd)
      (spaced.flatMap (fun piece => piece.1 ++ piece.2.lexeme) ++ ['\t']) :=
    Json.Token.spells_of_blanks (by decide +kernel) (by decide +kernel)
  have areTokens : spaced.map Prod.snd = tokens := by decide +kernel
  have isText : spaced.flatMap (fun piece => piece.1 ++ piece.2.lexeme) ++ ['\t'] =
      sampleText.toList := by decide +kernel
  rw [areTokens, isText] at spells
  exact ⟨txid, "0c1D2E", "fF", by decide +kernel, by decide +kernel, by decide +kernel,
    members, List.reverse_perm _, spells⟩

/-- The Borsh form of the proof. -/
def sampleBorsh : Bytes :=
  List.replicate 32 0xAB ++
    [0x03, 0, 0, 0, 0x0C, 0x1D, 0x2E, 0x46, 0, 0, 0, 0x01, 0, 0, 0, 0xFF]

theorem sampleProof_is_kept :
    Json.Format.standard.IsLawful ∧ Hex.Format.standard.IsLawful ∧
      Borsh.Format.standard.IsLawful ∧
      Proof.parseJson? sampleProof.toJson.compact = some sampleProof ∧
      Proof.SpelledBy sampleProof sampleText ∧
      Proof.parseJson? sampleText = some sampleProof ∧
      sampleProof.FitsBorsh ∧
      Proof.ofBorsh sampleProof.toBorsh = .ok sampleProof ∧
      Proof.ofBorsh sampleBorsh = .ok sampleProof ∧
      sampleProof.toBorsh = sampleBorsh ∧
      Header.parseJson? sampleHeader.toJson.compact = some sampleHeader ∧
      sampleHeader.toBorsh = sampleHeader.encode ∧
      Header.ofBorsh sampleHeader.encode = .ok sampleHeader := by
  have isJson := Json.Format.isLawful_standard
  have isHex := Hex.Format.isLawful_standard
  have isBorsh := Borsh.Format.isLawful_standard
  obtain ⟨compact, spelled, kept, canonical, headerJson, headerLayout, headerBorsh⟩ :=
    structured_forms_are_lossless isJson isHex isBorsh
  have fits : sampleProof.FitsBorsh := by
    simp [Proof.FitsBorsh, sampleProof]
  have read : Proof.ofBorsh sampleBorsh = .ok sampleProof := by decide +kernel
  have decoded : Header.decode sampleHeader.encode = .ok sampleHeader := by decide +kernel
  exact ⟨isJson, isHex, isBorsh, compact _, sampleText_spells, spelled _ _ sampleText_spells,
    fits, kept _ fits, read, canonical _ _ read, headerJson _, headerLayout _,
    (headerBorsh _ _).mpr decoded⟩

end HeaderRelay
