/-!
# Readers

A reader takes what it recognises off the front of a text, or fails.  Every
repetition ends because each round but the last takes something off.
-/

namespace HeaderRelay.Toml

abbrev Reader :=
  StateT (List Char) Option

namespace Reader

/-- The next character, which is left in place. -/
def peek? : Reader (Option Char) :=
  return (← get).head?

/-- Takes the next character. -/
def next : Reader Char := do
  match ← get with
  | character :: rest =>
      set rest
      return character
  | [] => failure

/-- Takes one given character. -/
def expect (wanted : Char) : Reader Unit := do
  if (← next) ≠ wanted then failure

/-- Takes the given characters if they come next, and tells whether they do. -/
def accepts (wanted : List Char) : Reader Bool := do
  let text ← get
  if wanted.isPrefixOf text then
    set (text.drop wanted.length)
    return true
  return false

/-- Takes the longest run of characters of a class. -/
def run (belongs : Char → Bool) : Reader (List Char) := do
  let text ← get
  set (text.dropWhile belongs)
  return text.takeWhile belongs

/-- Repeats a step until it has no result, at most `count` times. -/
def collect {α : Type} (step : Reader (Option α)) : (count : Nat) → Reader (List α)
  | 0 => failure
  | count + 1 => do
      match ← step with
      | none => return []
      | some item => return item :: (← collect step count)

/-- Repeats a step until it has no result. A step with a result takes at least
one character. -/
def many {α : Type} (step : Reader (Option α)) : Reader (List α) := do
  collect step ((← get).length + 1)

end Reader

/-! ### Blanks, line ends and comments -/

/-- The blanks within a line. -/
def isBlank (character : Char) : Bool :=
  character = ' ' || character = '\t'

/-- The characters that may stand anywhere within a line of text: all but
control characters, with the tab as an exception. -/
def isPrintable (character : Char) : Bool :=
  character = '\t' || (' ' ≤ character && character ≠ '\x7f')

/-- Skips the blanks within a line. -/
def skipBlanks : Reader Unit := do
  let _ ← Reader.run isBlank

/-- Takes a line end if one comes next. -/
def acceptsLineEnd : Reader Bool := do
  if ← Reader.accepts ['\n'] then return true
  Reader.accepts ['\r', '\n']

/-- Takes a comment up to the end of the line, if one comes next. -/
def acceptsComment : Reader Bool := do
  if ← Reader.accepts ['#'] then
    let _ ← Reader.run isPrintable
    return true
  return false

/-- Takes what may follow an item in its line, and the end of the line or of
the text. -/
def finishLine : Reader Unit := do
  skipBlanks
  let _ ← acceptsComment
  unless ← acceptsLineEnd do
    if (← Reader.peek?).isSome then failure

/-- Skips blanks, line ends and comments. -/
def skipLines : Reader Unit := do
  let _ ← Reader.many do
    if (← Reader.run isBlank) ≠ [] then return some ()
    if ← acceptsLineEnd then return some ()
    if ← acceptsComment then return some ()
    return none

end HeaderRelay.Toml
