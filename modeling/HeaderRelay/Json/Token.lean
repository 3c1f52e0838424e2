import HeaderRelay.Json.Literal

/-!
# Tokens of JSON

The lexical level of JSON: marks, words, numbers and string literals, with
blanks anywhere between them.  Whether a number counts as an integer is a matter
of how it is written: without a fraction, without an exponent, and not as a
negative zero.
-/

namespace HeaderRelay.Json

inductive Token where
  | openObject
  | closeObject
  | openArray
  | closeArray
  | colon
  | comma
  | null
  | bool (value : Bool)
  | integer (value : Int)
  /-- Any other number, as it is written. -/
  | decimal (written : List Char)
  | string (literal : Literal)
  deriving DecidableEq

namespace Token

/-- The characters that may stand between tokens. -/
def isSpace (character : Char) : Bool :=
  character = ' ' || character = '\t' || character = '\n' || character = '\r'

/-- The number that decimal digits stand for. -/
def ofDigits (digits : List Char) : Nat :=
  digits.foldl (fun value digit => 10 * value + (digit.toNat - '0'.toNat)) 0

/-- Splits at least one digit off the front. -/
def digits? (input : List Char) : Option (List Char × List Char) :=
  match input.takeWhile Char.isDigit with
  | [] => none
  | first :: more => some (first :: more, input.dropWhile Char.isDigit)

/-- Splits the digits before the point off: without a zero in front, unless it
is the only one. -/
def wholePart? (input : List Char) : Option (List Char × List Char) :=
  match digits? input with
  | some (first :: second :: more, rest) =>
      if first = '0' then none else some (first :: second :: more, rest)
  | other => other

/-- Splits a fraction off, if there is one. -/
def fraction? (input : List Char) : Option (List Char × List Char) :=
  match input with
  | '.' :: after => (digits? after).map fun (digits, rest) => ('.' :: digits, rest)
  | _ => some ([], input)

/-- Splits the sign of an exponent off, if there is one. -/
def exponentSign (input : List Char) : List Char × List Char :=
  match input with
  | '+' :: rest => (['+'], rest)
  | '-' :: rest => (['-'], rest)
  | _ => ([], input)

/-- Splits an exponent off, if there is one. -/
def exponent? (input : List Char) : Option (List Char × List Char) :=
  match input with
  | mark :: after =>
      if mark = 'e' ∨ mark = 'E' then
        let (sign, unsigned) := exponentSign after
        (digits? unsigned).map fun (digits, rest) => (mark :: sign ++ digits, rest)
      else some ([], input)
  | [] => some ([], input)

/-- Splits a number without its sign off. -/
def unsigned? (negative : Bool) (input : List Char) : Option (Token × List Char) := do
  let (whole, afterWhole) ← wholePart? input
  let (fraction, afterFraction) ← fraction? afterWhole
  let (exponent, rest) ← exponent? afterFraction
  let value := ofDigits whole
  if fraction.isEmpty && exponent.isEmpty && !(negative && value = 0) then
    return (.integer (if negative then -value else value), rest)
  else
    let sign := if negative then ['-'] else []
    return (.decimal (sign ++ whole ++ fraction ++ exponent), rest)

/-- Splits a number off. -/
def number? : List Char → Option (Token × List Char)
  | '-' :: rest => unsigned? true rest
  | input => unsigned? false input

/-- Splits the token at the front off; blanks are no token. -/
def first? : List Char → Option (Token × List Char)
  | '\x7b' :: rest => some (.openObject, rest)
  | '\x7d' :: rest => some (.closeObject, rest)
  | '[' :: rest => some (.openArray, rest)
  | ']' :: rest => some (.closeArray, rest)
  | ':' :: rest => some (.colon, rest)
  | ',' :: rest => some (.comma, rest)
  | 'n' :: 'u' :: 'l' :: 'l' :: rest => some (.null, rest)
  | 't' :: 'r' :: 'u' :: 'e' :: rest => some (.bool true, rest)
  | 'f' :: 'a' :: 'l' :: 's' :: 'e' :: rest => some (.bool false, rest)
  | '"' :: rest => (Literal.scan rest).map fun (literal, after) => (.string literal, after)
  | input => number? input

theorem length_lt_of_digits? {input digits rest : List Char}
    (found : digits? input = some (digits, rest)) : rest.length < input.length := by
  unfold digits? at found
  split at found
  · simp at found
  · rename_i first more taken
    simp only [Option.some.injEq, Prod.mk.injEq] at found
    have whole : (input.takeWhile Char.isDigit ++ input.dropWhile Char.isDigit).length =
        input.length := by
      rw [List.takeWhile_append_dropWhile]
    rw [taken] at whole
    simp only [List.length_append, List.length_cons] at whole
    rw [← found.2]
    omega

theorem length_lt_of_wholePart? {input digits rest : List Char}
    (found : wholePart? input = some (digits, rest)) : rest.length < input.length := by
  unfold wholePart? at found
  split at found
  · rename_i split
    split at found
    · simp at found
    · simp only [Option.some.injEq, Prod.mk.injEq] at found
      rw [← found.2]
      exact length_lt_of_digits? split
  · exact length_lt_of_digits? found

theorem length_le_of_fraction? {input digits rest : List Char}
    (found : fraction? input = some (digits, rest)) : rest.length ≤ input.length := by
  unfold fraction? at found
  split at found
  · simp only [Option.map_eq_some_iff, Prod.mk.injEq] at found
    obtain ⟨⟨found, remaining⟩, split, _, rfl⟩ := found
    have shorter := length_lt_of_digits? split
    simp only [List.length_cons]
    omega
  · simp_all

theorem length_exponentSign_le (input : List Char) :
    (exponentSign input).2.length ≤ input.length := by
  unfold exponentSign
  split <;> simp

theorem length_le_of_exponent? {input digits rest : List Char}
    (found : exponent? input = some (digits, rest)) : rest.length ≤ input.length := by
  unfold exponent? at found
  split at found
  · rename_i mark after
    split at found
    · simp only [Option.map_eq_some_iff, Prod.mk.injEq] at found
      obtain ⟨⟨found, remaining⟩, split, _, rfl⟩ := found
      have shorter := length_lt_of_digits? split
      have sign := length_exponentSign_le after
      simp only [List.length_cons]
      omega
    · simp_all
  · simp_all

theorem length_lt_of_unsigned? {negative : Bool} {input rest : List Char} {token : Token}
    (found : unsigned? negative input = some (token, rest)) :
    rest.length < input.length := by
  simp only [unsigned?, Option.bind_eq_bind, Option.bind_eq_some_iff] at found
  obtain ⟨⟨whole, afterWhole⟩, split, ⟨fraction, afterFraction⟩, splitFraction,
    ⟨exponent, afterExponent⟩, splitExponent, result⟩ := found
  have first : afterWhole.length < input.length := length_lt_of_wholePart? split
  have second : afterFraction.length ≤ afterWhole.length :=
    length_le_of_fraction? splitFraction
  have third : afterExponent.length ≤ afterFraction.length :=
    length_le_of_exponent? splitExponent
  have same : afterExponent = rest := by
    simp only [Option.pure_def] at result
    split at result <;> simp_all
  rw [← same]
  omega

theorem length_lt_of_number? {input rest : List Char} {token : Token}
    (found : number? input = some (token, rest)) : rest.length < input.length := by
  unfold number? at found
  split at found
  · have shorter := length_lt_of_unsigned? found
    simp only [List.length_cons]
    omega
  · exact length_lt_of_unsigned? found

theorem length_lt_of_first? {input rest : List Char} {token : Token}
    (found : first? input = some (token, rest)) : rest.length < input.length := by
  unfold first? at found
  split at found
  case h_10 =>
    simp only [Option.map_eq_some_iff, Prod.mk.injEq] at found
    obtain ⟨⟨literal, after⟩, scanned, _, rfl⟩ := found
    have shorter := Literal.length_lt_of_scan scanned
    simp only [List.length_cons]
    omega
  case h_11 => exact length_lt_of_number? found
  all_goals
    simp only [Option.some.injEq, Prod.mk.injEq] at found
    obtain ⟨_, rfl⟩ := found
    simp only [List.length_cons]
    omega

/-- The tokens of a text. -/
def all? : List Char → Option (List Token)
  | [] => some []
  | character :: rest =>
      if isSpace character then all? rest
      else
        match _ : first? (character :: rest) with
        | some (token, after) => (all? after).map (token :: ·)
        | none => none
termination_by input => input.length
decreasing_by
  · simp
  · exact length_lt_of_first? (by assumption)

end Token

end HeaderRelay.Json
