/-!
# String literals of JSON

A string literal is kept as it is written between its quotes.  Every well-formed
literal can be carried along, but a literal stands for a text only if the 16-bit
units in its escapes form characters.
-/

namespace HeaderRelay.Json

/-- What stands between the quotes of a string literal. -/
abbrev Literal := List Char

namespace Literal

/-- The character that a backslash and a letter stand for. -/
def simpleEscape? : Char → Option Char
  | '"' => some '"'
  | '\\' => some '\\'
  | '/' => some '/'
  | 'b' => some '\x08'
  | 'f' => some '\x0C'
  | 'n' => some '\n'
  | 'r' => some '\r'
  | 't' => some '\t'
  | _ => none

/-- The value of a hex digit. -/
def hexValue? (character : Char) : Option Nat :=
  let code := character.toNat
  if 0x30 ≤ code && code ≤ 0x39 then some (code - 0x30)
  else if 0x41 ≤ code && code ≤ 0x46 then some (code - 0x41 + 10)
  else if 0x61 ≤ code && code ≤ 0x66 then some (code - 0x61 + 10)
  else none

/-- The unit that four hex digits stand for. -/
def unit? (first second third fourth : Char) : Option Nat := do
  let first ← hexValue? first
  let second ← hexValue? second
  let third ← hexValue? third
  let fourth ← hexValue? fourth
  return ((first * 16 + second) * 16 + third) * 16 + fourth

/-- Splits a literal off the characters after an opening quote; tells it and
what follows the closing quote. -/
def scan : List Char → Option (Literal × List Char)
  | [] => none
  | '"' :: rest => some ([], rest)
  | '\\' :: 'u' :: first :: second :: third :: fourth :: rest =>
      match unit? first second third fourth, scan rest with
      | some _, some (literal, after) =>
          some ('\\' :: 'u' :: first :: second :: third :: fourth :: literal, after)
      | _, _ => none
  | '\\' :: letter :: rest =>
      match simpleEscape? letter, scan rest with
      | some _, some (literal, after) => some ('\\' :: letter :: literal, after)
      | _, _ => none
  | character :: rest =>
      if character.toNat < 0x20 then none
      else
        match scan rest with
        | some (literal, after) => some (character :: literal, after)
        | none => none

theorem length_lt_of_scan {input : List Char} {literal : Literal} {after : List Char}
    (found : scan input = some (literal, after)) : after.length < input.length := by
  fun_induction scan input generalizing literal after with
  | case2 rest => simp_all
  | case3 first second third fourth rest _ _ _ scanned _ ih =>
      have shorter := ih scanned
      simp only [Option.some.injEq, Prod.mk.injEq] at found
      simp only [List.length_cons]
      grind
  | case5 letter rest _ _ _ _ scanned _ ih =>
      have shorter := ih scanned
      simp only [Option.some.injEq, Prod.mk.injEq] at found
      simp only [List.length_cons]
      grind
  | case8 character rest _ _ _ _ _ _ scanned ih =>
      have shorter := ih scanned
      simp only [Option.some.injEq, Prod.mk.injEq] at found
      simp only [List.length_cons]
      grind
  | case1 | case4 | case6 | case7 | case9 => simp at found

/-- A piece of a literal: a character, or a 16-bit unit given by its number. -/
inductive Piece where
  | char (character : Char)
  | unit (code : Nat)
  deriving DecidableEq

/-- The pieces of a well-formed literal. -/
def pieces : Literal → List Piece
  | '\\' :: 'u' :: first :: second :: third :: fourth :: rest =>
      .unit ((unit? first second third fourth).getD 0) :: pieces rest
  | '\\' :: letter :: rest => .char ((simpleEscape? letter).getD letter) :: pieces rest
  | character :: rest => .char character :: pieces rest
  | [] => []

/-- Joins pieces to a text. A unit from the first half of the surrogates must be
followed by one from the second half, and no other may be a surrogate. -/
def join? : List Piece → Option (List Char)
  | [] => some []
  | .char character :: rest => (join? rest).map (character :: ·)
  | .unit code :: rest =>
      if 0xD800 ≤ code && code < 0xDC00 then
        match rest with
        | .unit second :: rest =>
            if 0xDC00 ≤ second && second < 0xE000 then
              (join? rest).map
                (Char.ofNat (0x10000 + (code - 0xD800) * 0x400 + (second - 0xDC00)) :: ·)
            else none
        | _ => none
      else if 0xDC00 ≤ code && code < 0xE000 then none
      else (join? rest).map (Char.ofNat code :: ·)

/-- The text that a literal stands for. -/
def text? (literal : Literal) : Option String :=
  (join? (pieces literal)).map String.ofList

/-- A character as it is written in a literal. -/
def escape (character : Char) : List Char :=
  match character with
  | '"' => ['\\', '"']
  | '\\' => ['\\', '\\']
  | '\x08' => ['\\', 'b']
  | '\x0C' => ['\\', 'f']
  | '\n' => ['\\', 'n']
  | '\r' => ['\\', 'r']
  | '\t' => ['\\', 't']
  | _ =>
      if character.toNat < 0x20 then
        ['\\', 'u', '0', '0', Nat.digitChar (character.toNat / 16),
          Nat.digitChar (character.toNat % 16)]
      else [character]

/-- The literal that stands for a text. -/
def ofText (text : String) : Literal :=
  text.toList.flatMap escape

end Literal

end HeaderRelay.Json
