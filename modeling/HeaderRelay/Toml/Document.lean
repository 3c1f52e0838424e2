import HeaderRelay.Toml.Table

/-!
# Documents

A document is a list of lines: entries, headers and lines without either.
Entries belong to the header before them, or to the document itself if there is
none.
-/

namespace HeaderRelay.Toml

/-- A key and its value. -/
abbrev Entry :=
  Key × Toml

/-- Reads an entry, given a reader for its value. -/
def readEntry (readValue : Reader Toml) : Reader Entry := do
  let key ← readKey
  Reader.expect '='
  skipBlanks
  return (key, ← readValue)

/-- Reads an array behind its opening bracket. A comma may follow the last
item. -/
def readItems (readValue : Reader Toml) : Reader (List Toml) :=
  Reader.many do
    skipLines
    if ← Reader.accepts [']'] then return none
    let item ← readValue
    skipLines
    unless ← Reader.accepts [','] do
      if (← Reader.peek?) ≠ some ']' then failure
    return some item

/-- Reads a table in braces behind the opening one. It stands in one line and
has no comma behind the last entry. -/
def readBraces (readValue : Reader Toml) : Reader (List Entry) := do
  let entry : Reader Entry := do
    let entry ← readEntry readValue
    skipBlanks
    return entry
  skipBlanks
  if ← Reader.accepts ['\x7d'] then return []
  let first ← entry
  let rest ← Reader.many do
    if ← Reader.accepts [','] then return some (← entry)
    Reader.expect '\x7d'
    return none
  return first :: rest

/-- Reads a value with at most `depth` arrays and tables around each scalar. -/
def readValue : (depth : Nat) → Reader Toml
  | 0 => readScalar
  | depth + 1 => do
      if ← Reader.accepts ['['] then return .array (← readItems (readValue depth))
      if ← Reader.accepts ['\x7b'] then
        return .table .braces (← addEntries .braces [] (← readBraces (readValue depth)))
      readScalar

/-- What a line holds. -/
inductive Line where
  | blank
  | entry (entry : Entry)
  | header (key : Key)
  /-- A header that may be repeated. -/
  | repeatable (key : Key)

/-- Reads a line, the first blanks of which are skipped. -/
def readLine : Reader Line := do
  if ← Reader.accepts ['[', '['] then
    let key ← readKey
    unless ← Reader.accepts [']', ']'] do failure
    finishLine
    return .repeatable key
  if ← Reader.accepts ['['] then
    let key ← readKey
    Reader.expect ']'
    finishLine
    return .header key
  if (← Reader.peek?).any ['#', '\n', '\r'].contains then
    finishLine
    return .blank
  let entry ← readEntry (readValue maxDepth)
  finishLine
  return .entry entry

/-- Reads all lines. -/
def readDocument : Reader (List Line) := do
  let _ ← Reader.accepts ['\uFEFF']
  Reader.many do
    skipBlanks
    if (← Reader.peek?).isNone then return none
    return some (← readLine)

/-- The entries before the first header, and every header with the entries
behind it. -/
def sections : List Line → List Entry × List (Line × List Entry)
  | [] => ([], [])
  | line :: rest =>
      let (entries, later) := sections rest
      match line with
      | .blank => (entries, later)
      | .entry entry => (entry :: entries, later)
      | header => ([], (header, entries) :: later)

/-- Adds a header with its entries to a document. -/
def addSection (document : Members) : Line × List Entry → Option Members
  | (.header key, entries) => openTable key entries document
  | (.repeatable key, entries) => appendTable key entries document
  | _ => some document

/-- The table that a document stands for. -/
def parse? (text : String) : Option Members := do
  let (lines, _) ← StateT.run readDocument text.toList
  let (entries, later) := sections lines
  later.foldlM addSection (← addEntries .header [] entries)

end HeaderRelay.Toml
