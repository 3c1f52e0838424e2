/-!
# Lower case for searching

Error texts are searched for ASCII words without regard to case.  Besides the
ASCII capitals, two characters have an ASCII letter in their lower case: the
Kelvin sign and the dotted capital I.
-/

namespace HeaderRelay.Text

/-- The lower case of a character if it holds an ASCII letter; every other
character stands for itself, since no ASCII word holds it in either case. -/
def lowerLetters (character : Char) : List Char :=
  if character = '\u212A' then ['k']
  else if character = '\u0130' then ['i', '\u0307']
  else [character.toLower]

/-- The text in which ASCII words are searched. -/
def lower (text : String) : List Char :=
  text.toList.flatMap lowerLetters

/-- Whether a word occurs somewhere in a text. -/
def occursIn (word : List Char) : List Char → Bool
  | [] => word.isEmpty
  | character :: rest =>
      word.isPrefixOf (character :: rest) || occursIn word rest

/-- Whether a lower case word occurs in a text, whatever the case of the text. -/
def mentions (text word : String) : Bool :=
  occursIn word.toList (lower text)

end HeaderRelay.Text
