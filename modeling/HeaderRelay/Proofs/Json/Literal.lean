import HeaderRelay.Json.Literal
import Mathlib.Tactic.Common

/-!
# Literals of texts

A text that is written as a literal is found whole in front of the closing quote, and
the literal stands for the text.  Both follow character by character, since no
character is written in a way that the next one could change.
-/

namespace HeaderRelay.Json.Literal

variable {character : Char} {literal : Literal} {text : String}

/-- Whether a literal is found whole in front of a closing quote. -/
def IsClosed (literal : Literal) : Prop :=
  ∀ rest, scan (literal ++ '"' :: rest) = some (literal, rest)

/-- Two hex digits are read as the number below `32` that they are written for. -/
theorem unit?_digitChar {code : Nat} (small : code < 0x20) :
    unit? '0' '0' (Nat.digitChar (code / 16)) (Nat.digitChar (code % 16)) = some code := by
  decide +revert

theorem scan_escape_append (character : Char) (input : List Char) :
    scan (escape character ++ input) =
      (scan input).map fun (literal, after) => (escape character ++ literal, after) := by
  unfold escape
  split
  case h_8 noQuote noBackslash _ _ _ _ _ =>
    split
    next control =>
      rw [List.cons_append, List.cons_append, List.cons_append, List.cons_append, List.cons_append,
        List.cons_append, List.nil_append, scan, unit?_digitChar control]
      cases scan input <;> rfl
    next printed =>
      rw [List.cons_append, List.nil_append, scan, if_neg printed]
      · cases scan input <;> rfl
      all_goals grind
  all_goals
    cases found : scan input <;> simp [scan, simpleEscape?, found]

theorem join?_escape_append (character : Char) (literal : Literal) :
    join? (pieces (escape character ++ literal)) =
      (join? (pieces literal)).map (character :: ·) := by
  unfold escape
  split
  case h_8 noQuote noBackslash _ _ _ _ _ =>
    split
    next control =>
      rw [List.cons_append, List.cons_append, List.cons_append, List.cons_append, List.cons_append,
        List.cons_append, List.nil_append, pieces, unit?_digitChar control, Option.getD_some,
        join?.eq_def]
      -- A control character is far below the surrogates.
      have notHigh : ¬0xD800 ≤ character.toNat := by omega
      have notLow : ¬0xDC00 ≤ character.toNat := by omega
      simp [notHigh, notLow]
    next printed =>
      rw [List.cons_append, List.nil_append, pieces, join?]
      all_goals grind
  all_goals
    simp [pieces, simpleEscape?, join?]

theorem isClosed_ofText (text : String) : (ofText text).IsClosed := by
  intro rest
  rw [ofText]
  induction text.toList with
  | nil => rw [List.flatMap_nil, List.nil_append, scan]
  | cons character more ih =>
      rw [List.flatMap_cons, List.append_assoc, scan_escape_append, ih, Option.map_some]

@[simp] theorem text?_ofText (text : String) : (ofText text).text? = some text := by
  have joined : join? (pieces (ofText text)) = some text.toList := by
    rw [ofText]
    induction text.toList with
    | nil => rw [List.flatMap_nil, pieces, join?]
    | cons character more ih => rw [List.flatMap_cons, join?_escape_append, ih, Option.map_some]
  rw [text?, joined, Option.map_some, String.ofList_toList]

end HeaderRelay.Json.Literal
