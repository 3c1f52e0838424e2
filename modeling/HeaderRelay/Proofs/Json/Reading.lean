import HeaderRelay.Proofs.Json.Tokens

/-!
# Reading what was written

The tokens of a value, read one at a time, give the value back, whatever it is nested
in.  So does every text of these tokens, however the blanks are set.
-/

namespace HeaderRelay.Json

variable {stack : List Frame} {text : String}

mutual

/-- The tokens of a value. -/
def tokens : Json → List Token
  | null => [.null]
  | bool value => [.bool value]
  | integer value => [.integer value]
  | decimal written => [.decimal written]
  | string literal => [.string literal]
  | array items => .openArray :: itemTokens items ++ [.closeArray]
  | object members => .openObject :: memberTokens members ++ [.closeObject]

/-- The tokens of the items of an array. -/
def itemTokens : List Json → List Token
  | [] => []
  | [item] => tokens item
  | item :: rest => tokens item ++ .comma :: itemTokens rest

/-- The tokens of the members of an object. -/
def memberTokens : List (Literal × Json) → List Token
  | [] => []
  | [(key, value)] => .string key :: .colon :: tokens value
  | (key, value) :: rest => .string key :: .colon :: tokens value ++ .comma :: memberTokens rest

end

/-! ## Writing -/

mutual

theorem compactChars_eq : (json : Json) → json.compactChars = json.tokens.flatMap Token.lexeme
  | null => rfl
  | bool true => rfl
  | bool false => rfl
  | integer value => by rw [compactChars, tokens, List.flatMap_singleton, Token.lexeme]
  | decimal written => by rw [compactChars, tokens, List.flatMap_singleton, Token.lexeme]
  | string literal => by rw [compactChars, tokens, List.flatMap_singleton, Token.lexeme]
  | array items => by
      simp [compactChars, tokens, compactItems_eq items, Token.lexeme]
  | object members => by
      simp [compactChars, tokens, compactMembers_eq members, Token.lexeme]

theorem compactItems_eq : (items : List Json) →
    compactItems items = (itemTokens items).flatMap Token.lexeme
  | [] => rfl
  | [item] => compactChars_eq item
  | item :: next :: rest => by
      simp [compactItems, itemTokens, compactChars_eq item, compactItems_eq (next :: rest),
        Token.lexeme]

theorem compactMembers_eq : (members : List (Literal × Json)) →
    compactMembers members = (memberTokens members).flatMap Token.lexeme
  | [] => rfl
  | [(key, value)] => by
      simp [compactMembers, memberTokens, compactChars_eq value, Token.lexeme]
  | (key, value) :: next :: rest => by
      simp [compactMembers, memberTokens, compactChars_eq value, compactMembers_eq (next :: rest),
        Token.lexeme]

end

/-! ## Numbers that do not touch -/

/-- Behind a mark and in front of it anything may stand. -/
theorem apart_append_cons {left right : List Token} {mark : Token}
    (other : mark.isNumber = false) :
    Token.Apart (left ++ mark :: right) ↔ Token.Apart left ∧ Token.Apart right := by
  rw [Token.Apart, List.isChain_append, List.isChain_cons]
  constructor
  · rintro ⟨before, ⟨_, after⟩, _⟩
    exact ⟨before, after⟩
  · rintro ⟨before, after⟩
    refine ⟨before, ⟨?_, after⟩, ?_⟩
    · intro next _ isNumber
      rw [other] at isNumber
      cases isNumber
    · rintro token _ next ⟨⟩ _
      exact other

theorem apart_cons {right : List Token} {mark : Token} (other : mark.isNumber = false) :
    Token.Apart (mark :: right) ↔ Token.Apart right :=
  (apart_append_cons other).trans (and_iff_right .nil)

mutual

theorem apart_tokens : (json : Json) → Token.Apart json.tokens
  | null | bool _ | integer _ | decimal _ | string _ => .singleton _
  | array items =>
      (apart_cons rfl).mpr ((apart_append_cons rfl).mpr ⟨apart_itemTokens items, .nil⟩)
  | object members =>
      (apart_cons rfl).mpr ((apart_append_cons rfl).mpr ⟨apart_memberTokens members, .nil⟩)

theorem apart_itemTokens : (items : List Json) → Token.Apart (itemTokens items)
  | [] => .nil
  | [item] => apart_tokens item
  | item :: next :: rest =>
      (apart_append_cons rfl).mpr ⟨apart_tokens item, apart_itemTokens (next :: rest)⟩

theorem apart_memberTokens : (members : List (Literal × Json)) →
    Token.Apart (memberTokens members)
  | [] => .nil
  | [(_, value)] => (apart_cons rfl).mpr ((apart_cons rfl).mpr (apart_tokens value))
  | (_, value) :: next :: rest =>
      (apart_cons rfl).mpr ((apart_cons rfl).mpr
        ((apart_append_cons rfl).mpr ⟨apart_tokens value, apart_memberTokens (next :: rest)⟩))

end

/-! ## Reading -/

/-- No value begins with the end of an array. -/
theorem exists_tokens_eq_cons (json : Json) :
    ∃ token rest, json.tokens = token :: rest ∧ token ≠ .closeArray := by
  cases json with
  | null | bool | integer | decimal | string => exact ⟨_, [], rfl, by rintro ⟨⟩⟩
  | array | object => exact ⟨_, _, rfl, by rintro ⟨⟩⟩

theorem next_expectFirstItem {token : Token} (opens : token ≠ .closeArray) :
    Reader.next (.expectFirstItem stack) token =
      Reader.next (.expectValue (.array [] :: stack)) token := by
  cases token with
  | closeArray => exact absurd rfl opens
  | _ => rfl

theorem itemTokens_cons (item : Json) (rest : List Json) :
    ∃ more, itemTokens (item :: rest) = item.tokens ++ more := by
  cases rest with
  | nil => exact ⟨[], (List.append_nil _).symm⟩
  | cons => exact ⟨_, rfl⟩

theorem foldlM_expectFirstItem (stack : List Frame) (item : Json) (rest : List Json)
    (after : List Token) :
    (itemTokens (item :: rest) ++ after).foldlM Reader.next (.expectFirstItem stack) =
      (itemTokens (item :: rest) ++ after).foldlM Reader.next
        (.expectValue (.array [] :: stack)) := by
  obtain ⟨token, further, written, opens⟩ := exists_tokens_eq_cons item
  obtain ⟨more, isFirst⟩ := itemTokens_cons item rest
  rw [isFirst, written, List.cons_append, List.cons_append, List.foldlM_cons, List.foldlM_cons,
    next_expectFirstItem opens]

theorem foldlM_expectFirstKey (stack : List Frame) (member : Literal × Json)
    (rest : List (Literal × Json)) (after : List Token) :
    (memberTokens (member :: rest) ++ after).foldlM Reader.next (.expectFirstKey stack) =
      (memberTokens (member :: rest) ++ after).foldlM Reader.next (.expectKey [] stack) := by
  cases rest <;> rfl

mutual

theorem foldlM_tokens (stack : List Frame) : (json : Json) →
    json.tokens.foldlM Reader.next (.expectValue stack) = some (.complete json stack)
  | null | bool _ | integer _ | decimal _ | string _ => rfl
  | array [] => rfl
  | array (item :: rest) =>
      (foldlM_expectFirstItem stack item rest _).trans
        (foldlM_itemTokens stack [] (item :: rest) (List.cons_ne_nil _ _))
  | object [] => rfl
  | object (member :: rest) =>
      (foldlM_expectFirstKey stack member rest _).trans
        (foldlM_memberTokens stack [] (member :: rest) (List.cons_ne_nil _ _))

theorem foldlM_itemTokens (stack : List Frame) (before : List Json) :
    (items : List Json) → items ≠ [] →
      (itemTokens items ++ [Token.closeArray]).foldlM Reader.next
        (.expectValue (.array before :: stack)) =
          some (.complete (.array (before.reverse ++ items)) stack)
  | [], nonempty => absurd rfl nonempty
  | [item], _ => by
      rw [itemTokens, List.foldlM_append, foldlM_tokens _ item, ← List.reverse_cons]
      rfl
  | item :: next :: rest, _ => by
      have further := foldlM_itemTokens stack (item :: before) (next :: rest)
        (List.cons_ne_nil _ _)
      rw [List.reverse_cons, List.append_assoc] at further
      rw [itemTokens, List.append_assoc, List.foldlM_append, foldlM_tokens _ item]
      · exact further
      · exact List.cons_ne_nil _ _

theorem foldlM_memberTokens (stack : List Frame) (before : List (Literal × Json)) :
    (members : List (Literal × Json)) → members ≠ [] →
      (memberTokens members ++ [Token.closeObject]).foldlM Reader.next
        (.expectKey before stack) =
          some (.complete (.object (before.reverse ++ members)) stack)
  | [], nonempty => absurd rfl nonempty
  | [(key, value)], _ => by
      have read := foldlM_tokens (.object before key :: stack) value
      rw [memberTokens, ← List.reverse_cons]
      change (value.tokens ++ _).foldlM Reader.next (.expectValue (.object before key :: stack)) = _
      rw [List.foldlM_append, read]
      rfl
  | (key, value) :: next :: rest, _ => by
      have read := foldlM_tokens (.object before key :: stack) value
      have further := foldlM_memberTokens stack ((key, value) :: before) (next :: rest)
        (List.cons_ne_nil _ _)
      rw [List.reverse_cons, List.append_assoc] at further
      rw [memberTokens, List.append_assoc]
      · change (value.tokens ++ _).foldlM Reader.next
          (.expectValue (.object before key :: stack)) = _
        rw [List.foldlM_append, read]
        exact further
      · exact List.cons_ne_nil _ _

end

/-- A text of the tokens of a value is read as the value. -/
theorem parse?_of_spells {json : Json} (plain : ∀ token ∈ json.tokens, token.IsPlain)
    (spells : Token.Spells json.tokens text.toList) : parse? text = some json := by
  rw [parse?, spells.all?_eq plain (apart_tokens json), Option.bind_some, ofTokens?, foldlM_tokens,
    Option.bind_some, Reader.result?]

theorem toList_compact (json : Json) :
    json.compact.toList = json.tokens.flatMap Token.lexeme := by
  rw [compact, String.toList_ofList, compactChars_eq]

end HeaderRelay.Json
