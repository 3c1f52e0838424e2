import HeaderRelay.Json.Value

/-!
# Written JSON

Two ways to write a value: in one line without blanks, and over several lines,
where each item and each member has a line of its own.
-/

namespace HeaderRelay.Json

/-- A literal in its quotes. -/
def quoted (literal : Literal) : List Char :=
  '"' :: literal ++ ['"']

mutual

/-- The value in one line without blanks. -/
def compactChars : Json → List Char
  | null => ['n', 'u', 'l', 'l']
  | bool true => ['t', 'r', 'u', 'e']
  | bool false => ['f', 'a', 'l', 's', 'e']
  | integer value => (toString value).toList
  | decimal written => written
  | string literal => quoted literal
  | array items => '[' :: compactItems items ++ [']']
  | object members => '\x7b' :: compactMembers members ++ ['\x7d']

/-- The items of an array, with commas between them. -/
def compactItems : List Json → List Char
  | [] => []
  | [item] => compactChars item
  | item :: rest => compactChars item ++ ',' :: compactItems rest

/-- The members of an object, with commas between them. -/
def compactMembers : List (Literal × Json) → List Char
  | [] => []
  | [(key, value)] => quoted key ++ ':' :: compactChars value
  | (key, value) :: rest =>
      quoted key ++ ':' :: compactChars value ++ ',' :: compactMembers rest

end

/-- The value in one line. -/
def compact (json : Json) : String :=
  String.ofList (compactChars json)

/-- A line break and the blanks before a line at the given depth. -/
def lineBreak (depth : Nat) : List Char :=
  '\n' :: List.replicate (2 * depth) ' '

mutual

/-- The value over several lines, the first of them at the given depth. -/
def prettyChars (depth : Nat) : Json → List Char
  | array (item :: rest) =>
      '[' :: prettyItems (depth + 1) (item :: rest) ++ lineBreak depth ++ [']']
  | object (member :: rest) =>
      '\x7b' :: prettyMembers (depth + 1) (member :: rest) ++ lineBreak depth ++ ['\x7d']
  | other => compactChars other

/-- The items of an array on lines of their own. -/
def prettyItems (depth : Nat) : List Json → List Char
  | [] => []
  | [item] => lineBreak depth ++ prettyChars depth item
  | item :: rest => lineBreak depth ++ prettyChars depth item ++ ',' :: prettyItems depth rest

/-- The members of an object on lines of their own. -/
def prettyMembers (depth : Nat) : List (Literal × Json) → List Char
  | [] => []
  | [(key, value)] =>
      lineBreak depth ++ quoted key ++ ':' :: ' ' :: prettyChars depth value
  | (key, value) :: rest =>
      lineBreak depth ++ quoted key ++ ':' :: ' ' :: prettyChars depth value ++
        ',' :: prettyMembers depth rest

end

/-- The value over several lines. -/
def pretty (json : Json) : String :=
  String.ofList (prettyChars 0 json)

end HeaderRelay.Json
