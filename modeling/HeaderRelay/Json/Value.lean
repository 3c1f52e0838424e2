import HeaderRelay.Json.Token

/-!
# JSON values

Values are read from tokens, one token at a time.  What has been read so far is
a stack of the arrays and objects that are still open, so that nesting may be of
any depth.
-/

namespace HeaderRelay

inductive Json where
  | null
  | bool (value : Bool)
  | integer (value : Int)
  /-- A number that is not written as an integer, as it is written. -/
  | decimal (written : List Char)
  | string (literal : Json.Literal)
  | array (items : List Json)
  /-- The members in the order in which they are written. -/
  | object (members : List (Json.Literal × Json))

namespace Json

/-- An array or object that is still open. -/
inductive Frame where
  /-- An array with the items before the one that is being read, the last
  first. -/
  | array (before : List Json)
  /-- An object with the members before the one that is being read, the last
  first, and the key of that member. -/
  | object (before : List (Literal × Json)) (key : Literal)

/-- What may come next, given what has been read. -/
inductive Reader where
  /-- A value. -/
  | expectValue (stack : List Frame)
  /-- An item of a new array, or its end. -/
  | expectFirstItem (stack : List Frame)
  /-- A key of a new object, or its end. -/
  | expectFirstKey (stack : List Frame)
  /-- A key of an object that has the given members, the last first. -/
  | expectKey (before : List (Literal × Json)) (stack : List Frame)
  /-- The colon behind a key. -/
  | expectColon (before : List (Literal × Json)) (key : Literal) (stack : List Frame)
  /-- What follows a value. -/
  | complete (value : Json) (stack : List Frame)

namespace Reader

/-- Reads the first token of a value. -/
def openValue (stack : List Frame) : Token → Option Reader
  | .null => some (.complete .null stack)
  | .bool value => some (.complete (.bool value) stack)
  | .integer value => some (.complete (.integer value) stack)
  | .decimal written => some (.complete (.decimal written) stack)
  | .string literal => some (.complete (.string literal) stack)
  | .openArray => some (.expectFirstItem stack)
  | .openObject => some (.expectFirstKey stack)
  | _ => none

/-- Reads a token behind a value. -/
def closeValue (value : Json) : List Frame → Token → Option Reader
  | .array before :: stack, .comma => some (.expectValue (.array (value :: before) :: stack))
  | .array before :: stack, .closeArray =>
      some (.complete (.array (value :: before).reverse) stack)
  | .object before key :: stack, .comma => some (.expectKey ((key, value) :: before) stack)
  | .object before key :: stack, .closeObject =>
      some (.complete (.object ((key, value) :: before).reverse) stack)
  | _, _ => none

/-- Reads one token. -/
def next : Reader → Token → Option Reader
  | .expectValue stack, token => openValue stack token
  | .expectFirstItem stack, .closeArray => some (.complete (.array []) stack)
  | .expectFirstItem stack, token => openValue (.array [] :: stack) token
  | .expectFirstKey stack, .closeObject => some (.complete (.object []) stack)
  | .expectFirstKey stack, .string key => some (.expectColon [] key stack)
  | .expectKey before stack, .string key => some (.expectColon before key stack)
  | .expectColon before key stack, .colon => some (.expectValue (.object before key :: stack))
  | .complete value stack, token => closeValue value stack token
  | _, _ => none

/-- The value that was read, if it is complete. -/
def result? : Reader → Option Json
  | .complete value [] => some value
  | _ => none

end Reader

/-- The value that a list of tokens stands for. -/
def ofTokens? (tokens : List Token) : Option Json :=
  (tokens.foldlM Reader.next (.expectValue [])).bind Reader.result?

/-- The value that a text stands for. Blanks may surround it, but nothing else. -/
def parse? (text : String) : Option Json :=
  (Token.all? text.toList).bind ofTokens?

/-- A string value. -/
def ofText (text : String) : Json :=
  .string (Literal.ofText text)

/-- A number that is not negative. -/
def ofNat (number : Nat) : Json :=
  .integer number

/-- An object with the given members in the given order. -/
def ofMembers (members : List (String × Json)) : Json :=
  .object (members.map fun (key, value) => (Literal.ofText key, value))

/-- The number between two bounds that a value is. -/
def integer? (lower upper : Int) : Json → Option Int
  | .integer value => if lower ≤ value ∧ value ≤ upper then some value else none
  | _ => none

/-- The text that a value is. -/
def text? : Json → Option String
  | .string literal => literal.text?
  | _ => none

/-- The items of an array that has as many as are asked for. -/
def items? (count : Nat) : Json → Option (List Json)
  | .array items => if items.length = count then some items else none
  | _ => none

/-- The only value of a key. -/
def member? (members : List (String × Json)) (key : String) : Option Json :=
  match members.filter fun (name, _) => name = key with
  | [(_, value)] => some value
  | _ => none

/-- The fields of a record, in the order of the given keys: an object that has
each key once, and possibly others, or an array of exactly the fields. -/
def fields? (keys : List String) : Json → Option (List Json)
  | .array items => if items.length = keys.length then some items else none
  | .object members => do
      let members ← members.mapM fun (key, value) => key.text?.map (·, value)
      keys.mapM (member? members)
  | _ => none

end Json

end HeaderRelay
