import HeaderRelay.Text.Blank

/-!
# Listings

Several items in one text, with a separator between them.
-/

namespace HeaderRelay.Text

/-- The pieces between separators, empty ones included. There is always at
least one. -/
def pieces (separator : Char) : List Char → List (List Char)
  | [] => [[]]
  | character :: rest =>
      if character = separator then [] :: pieces separator rest
      else
        match pieces separator rest with
        | [] => [[character]]
        | piece :: others => (character :: piece) :: others

/-- The items of a listing: blanks around an item do not count, and neither do
items without any other character. -/
def listed (text : String) : List String :=
  let items := (pieces ',' text.toList).map trim
  (items.filter fun item => !item.isEmpty).map String.ofList

end HeaderRelay.Text
