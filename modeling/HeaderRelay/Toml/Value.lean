import HeaderRelay.Toml.Moment
import HeaderRelay.Toml.Number

/-!
# Values

A value is a scalar, an array or a table.  Of a table it is kept how it came
about, since that decides what may still be added to it.  Numbers that are no
integers, dates and times are checked but not kept.
-/

namespace HeaderRelay

/-- How a table came about. -/
inductive Toml.Origin where
  /-- By a header of its own, or as the document itself. -/
  | header
  /-- On the way of a header to a table inside. -/
  | passed
  /-- On the way of a key with several parts. -/
  | dotted
  /-- As a value in braces. -/
  | braces
  deriving DecidableEq, Repr

inductive Toml where
  | string (text : String)
  | integer (value : Int)
  | boolean (value : Bool)
  | decimal
  | moment
  | array (items : List Toml)
  | table (origin : Toml.Origin) (members : List (String × Toml))
  /-- The tables of a repeated header, the first one first. -/
  | tables (elements : List (List (String × Toml)))
  deriving Repr

namespace Toml

/-- The names and values of a table. -/
abbrev Members :=
  List (String × Toml)

/-- The largest number of arrays and tables around a scalar, and of parts of a
key. -/
def maxDepth : Nat :=
  79

/-! ### Keys -/

/-- Whether a character may stand in a key without quotes. -/
def isBare (character : Char) : Bool :=
  character.isAlphanum || character = '_' || character = '-'

/-- Reads one part of a key. -/
def readPart : Reader String := do
  skipBlanks
  let part ←
    if ← Reader.accepts ['"'] then readBasic
    else if ← Reader.accepts ['\x27'] then readLiteral
    else
      let bare ← Reader.run isBare
      if bare.isEmpty then failure else pure bare
  skipBlanks
  return String.ofList part

/-- A key: the parts before the last one, and the last one. -/
structure Key where
  path : List String
  name : String
  deriving DecidableEq, Repr

/-- The key with the given parts. -/
def Key.ofParts (first : String) : (rest : List String) → Key
  | [] => ⟨[], first⟩
  | second :: rest =>
      let key := ofParts second rest
      ⟨first :: key.path, key.name⟩

/-- Reads a key. -/
def readKey : Reader Key := do
  let first ← readPart
  let rest ← Reader.many do
    if ← Reader.accepts ['.'] then return some (← readPart) else return none
  if maxDepth < rest.length + 1 then failure
  return .ofParts first rest

/-! ### Scalars -/

/-- The characters of scalars without quotes. -/
def isScalarCharacter (character : Char) : Bool :=
  character.isAlphanum || character = '+' || character = '-' || character = '_' ||
    character = '.' || character = ':'

/-- The scalar that is written without quotes. -/
def scalar? (written : List Char) : Option Toml :=
  if written = ['t', 'r', 'u', 'e'] then some (.boolean true)
  else if written = ['f', 'a', 'l', 's', 'e'] then some (.boolean false)
  else if isMoment written then some .moment
  else if isDecimal written || isSpecial written then some .decimal
  else (integer? written).map .integer

/-- Takes a blank between a date and a time, and the time. -/
def readTimeBehind (date : List Char) : Reader (List Char) := do
  match ← get with
  | ' ' :: digit :: rest =>
      if isDated date && date.length = 10 && digit.isDigit then
        set (digit :: rest)
        return ' ' :: (← Reader.run isScalarCharacter)
      return []
  | _ => return []

/-- Reads a scalar. -/
def readScalar : Reader Toml := do
  match ← Reader.peek? with
  | some '"' => return .string (← readQuoted)
  | some '\x27' => return .string (← readQuoted)
  | _ =>
      let written ← Reader.run isScalarCharacter
      scalar? (written ++ (← readTimeBehind written))

end Toml

end HeaderRelay
