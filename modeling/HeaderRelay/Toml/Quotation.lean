import HeaderRelay.Hex
import HeaderRelay.Toml.Reader

/-!
# Quoted text

Text in double quotes has escapes, text in single quotes has none.  Either kind
may span lines if it is enclosed by three quotes on each side; then a line end
directly behind the opening quotes does not count, other line ends are single
line feeds, and up to two quotes may stand directly before the closing ones.
-/

namespace HeaderRelay.Toml

/-- Whether a character stands for itself between double quotes. -/
def isPlain (character : Char) : Bool :=
  isPrintable character && character ≠ '"' && character ≠ '\\'

/-- Whether a character stands for itself between single quotes. -/
def isLiteral (character : Char) : Bool :=
  isPrintable character && character ≠ '\x27'

/-- The value of a hex digit. -/
def hexDigit? (character : Char) : Option Nat :=
  if character.toNat < 128 then Hex.digitValue? (UInt8.ofNat character.toNat) else none

/-- The value of hex digits, the highest first. -/
def hexValue? (digits : List Char) : Option Nat :=
  digits.foldlM (fun value digit => do return 16 * value + (← hexDigit? digit)) 0

/-- The character of a number that is given by hex digits. -/
def codePoint? (digits : List Char) : Option Char := do
  let value ← hexValue? digits
  if value.isValidChar then return Char.ofNat value else none

/-- The character that a letter behind a backslash stands for. -/
def escapeOf? : Char → Option Char
  | 'b' => some '\x08'
  | 't' => some '\t'
  | 'n' => some '\n'
  | 'f' => some '\x0c'
  | 'r' => some '\r'
  | '"' => some '"'
  | '\\' => some '\\'
  | _ => none

/-- Reads the number of a character, with exactly `count` digits. -/
def readCodePoint (count : Nat) : Reader Char := do
  let text ← get
  let digits := text.take count
  if digits.length ≠ count then failure
  set (text.drop count)
  codePoint? digits

/-- Reads an escape behind its backslash. -/
def readEscape : Reader Char := do
  match ← Reader.next with
  | 'u' => readCodePoint 4
  | 'U' => readCodePoint 8
  | letter => escapeOf? letter

/-- Reads text up to the closing double quote. -/
def readBasic : Reader (List Char) :=
  Reader.many do
    match ← Reader.next with
    | '"' => return none
    | '\\' => return some (← readEscape)
    | character => if isPlain character then return some character else failure

/-- Reads text up to the closing single quote. -/
def readLiteral : Reader (List Char) := do
  let text ← Reader.run isLiteral
  Reader.expect '\x27'
  return text

/-- Takes blanks and at least one line end, if they come next. -/
def acceptsFold : Reader Bool := do
  let text ← get
  skipBlanks
  if ← acceptsLineEnd then
    let _ ← Reader.many do
      if (← Reader.run isBlank) ≠ [] then return some ()
      if ← acceptsLineEnd then return some ()
      return none
    return true
  set text
  return false

/-- Reads the quotes that close a text of several lines. Those in front of the
last three belong to the text. -/
def readClosing (quote : Char) : Reader (List Char) := do
  let quotes ← Reader.run (· = quote)
  if quotes.length < 3 || 5 < quotes.length then failure
  return quotes.drop 3

/-- Reads a text of several lines up to its closing quotes. -/
def readLines (quote : Char) (stands : Char → Bool) (escapes : Bool) :
    Reader (List Char) := do
  let _ ← acceptsLineEnd
  let parts ← Reader.many do
    if [quote, quote, quote].isPrefixOf (← get) then return none
    if ← acceptsLineEnd then return some ['\n']
    let character ← Reader.next
    if escapes && character = '\\' then
      if ← acceptsFold then return some []
      return some [← readEscape]
    if stands character || character = quote then return some [character]
    failure
  return parts.flatten ++ (← readClosing quote)

/-- Reads quoted text of any kind. -/
def readQuoted : Reader String := do
  if ← Reader.accepts ['"', '"', '"'] then
    return String.ofList (← readLines '"' isPlain true)
  if ← Reader.accepts ['\x27', '\x27', '\x27'] then
    return String.ofList (← readLines '\x27' isLiteral false)
  if ← Reader.accepts ['"'] then return String.ofList (← readBasic)
  Reader.expect '\x27'
  return String.ofList (← readLiteral)

end HeaderRelay.Toml
