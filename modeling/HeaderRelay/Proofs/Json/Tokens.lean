import HeaderRelay.Json.Printer
import HeaderRelay.Proofs.Json.Literal
import Mathlib.Data.List.Chain
import Mathlib.Tactic.Common

/-!
# Tokens and their spelling

A token is written in one way only, but texts of the same tokens may differ in the
blanks between them.  Wherever the blanks are, the tokens that are found in a text are
those it was written from.  Only two numbers must not touch, or they would be read as
one.
-/

namespace HeaderRelay.Json.Token

variable {token next : Token} {tokens : List Token} {digits rest text : List Char}
  {number : Nat}

/-- A token as it is written. -/
def lexeme : Token → List Char
  | openObject => ['\x7b']
  | closeObject => ['\x7d']
  | openArray => ['[']
  | closeArray => [']']
  | colon => [':']
  | comma => [',']
  | null => ['n', 'u', 'l', 'l']
  | bool true => ['t', 'r', 'u', 'e']
  | bool false => ['f', 'a', 'l', 's', 'e']
  | integer value => (toString value).toList
  | decimal written => written
  | string literal => quoted literal

def isNumber : Token → Bool
  | integer _ | decimal _ => true
  | _ => false

/-- Whether a token is one that this library writes: its literals are closed, and its
numbers are integers. -/
def IsPlain : Token → Prop
  | string literal => literal.IsClosed
  | decimal _ => False
  | _ => True

/-! ## Numbers -/

/-- Whether a number that stands in front of a text is over. -/
def EndsNumber (rest : List Char) : Prop :=
  ∀ character ∈ rest.head?,
    character.isDigit = false ∧ character ≠ '.' ∧ character ≠ 'e' ∧ character ≠ 'E'

theorem head?_toDigits_ne (positive : 0 < number) :
    (Nat.toDigits 10 number).head? ≠ some '0' := by
  induction number using Nat.strongRecOn with
  | ind number ih =>
      rcases Nat.lt_or_ge number 10 with small | large
      · have all : ∀ digit < 10, 0 < digit → Nat.digitChar digit ≠ '0' := by decide
        rw [Nat.toDigits_of_lt_base small, List.head?_cons, ne_eq, Option.some.injEq]
        exact all number small positive
      · rw [Nat.toDigits_of_base_le (by decide) large,
          List.head?_append_of_ne_nil _ Nat.toDigits_ne_nil]
        exact ih (number / 10) (by omega) (by omega)

theorem digits?_append (nonempty : digits ≠ []) (all : ∀ digit ∈ digits, digit.isDigit = true)
    (ends : EndsNumber rest) : digits? (digits ++ rest) = some (digits, rest) := by
  have stops : rest.takeWhile Char.isDigit = [] ∧ rest.dropWhile Char.isDigit = rest := by
    cases rest with
    | nil => exact ⟨rfl, rfl⟩
    | cons character more =>
        have other := (ends character rfl).1
        simp [other]
  rw [digits?, List.takeWhile_append_of_pos all, List.dropWhile_append_of_pos all, stops.1, stops.2,
    List.append_nil]
  cases digits with
  | nil => exact absurd rfl nonempty
  | cons => rfl

theorem digits?_toDigits (number : Nat) (ends : EndsNumber rest) :
    digits? (Nat.toDigits 10 number ++ rest) = some (Nat.toDigits 10 number, rest) :=
  digits?_append Nat.toDigits_ne_nil
    (fun _ member => Nat.isDigit_of_mem_toDigits (by decide) (by decide) member) ends

theorem wholePart?_toDigits (number : Nat) (ends : EndsNumber rest) :
    wholePart? (Nat.toDigits 10 number ++ rest) = some (Nat.toDigits 10 number, rest) := by
  rw [wholePart?, digits?_toDigits number ends]
  split
  next first second more _ found =>
    obtain ⟨written, rfl⟩ := Prod.mk.inj (Option.some.inj found)
    rw [written, if_neg]
    -- Only the number zero begins with a zero, and it has no second digit.
    rintro rfl
    rcases Nat.eq_zero_or_pos number with rfl | positive
    · cases written
    · exact head?_toDigits_ne positive (by rw [written, List.head?_cons])
  next => rfl

theorem fraction?_of_ends (ends : EndsNumber rest) : fraction? rest = some ([], rest) := by
  unfold fraction?
  split
  next => exact absurd rfl (ends '.' rfl).2.1
  next => rfl

theorem exponent?_of_ends (ends : EndsNumber rest) : exponent? rest = some ([], rest) := by
  unfold exponent?
  split
  next mark after =>
    obtain ⟨_, _, lower, upper⟩ := ends mark rfl
    rw [if_neg (not_or.mpr ⟨lower, upper⟩)]
  next => rfl

theorem unsigned?_toDigits {negative : Bool} (ends : EndsNumber rest)
    (nonzero : negative = true → number ≠ 0) :
    unsigned? negative (Nat.toDigits 10 number ++ rest) =
      some (.integer (if negative then -number else number), rest) := by
  have value : ofDigits (Nat.toDigits 10 number) = number := by
    rw [ofDigits, ← Nat.ofDigitChars_eq_foldl, Nat.ofDigitChars_ten_toDigits]
  rw [unsigned?, wholePart?_toDigits number ends]
  simp only [Option.bind_eq_bind, Option.bind_some, fraction?_of_ends ends, exponent?_of_ends ends,
    value]
  cases negative with
  | false => simp
  | true => simp [nonzero rfl]

theorem exists_toDigits_eq_cons (number : Nat) :
    ∃ first more, Nat.toDigits 10 number = first :: more ∧ first.isDigit = true := by
  obtain ⟨first, more, written⟩ := List.exists_cons_of_ne_nil
    (Nat.toDigits_ne_nil : Nat.toDigits 10 number ≠ [])
  have member : first ∈ Nat.toDigits 10 number := written ▸ List.mem_cons_self
  exact ⟨first, more, written, Nat.isDigit_of_mem_toDigits (by decide) (by decide) member⟩

theorem number?_toDigits (number : Nat) (ends : EndsNumber rest) :
    number? (Nat.toDigits 10 number ++ rest) = some (.integer number, rest) := by
  have split : unsigned? false (Nat.toDigits 10 number ++ rest) = some (.integer number, rest) :=
    unsigned?_toDigits ends (absurd · Bool.false_ne_true)
  obtain ⟨first, more, written, isDigit⟩ := exists_toDigits_eq_cons number
  rw [written] at split ⊢
  unfold number?
  split
  next found =>
    cases found
    cases isDigit
  next => exact split

/-- The first character of an integer is none that any other token begins with. -/
theorem first?_of_isDigit {first : Char} (isDigit : first.isDigit = true) :
    first? (first :: rest) = number? (first :: rest) := by
  rw [first?]
  all_goals
    intro _ same
    cases same
    cases isDigit

theorem first?_toString (value : Int) (ends : EndsNumber rest) :
    first? ((toString value).toList ++ rest) = some (.integer value, rest) := by
  rw [Int.toString_eq_repr, Int.repr_eq_if]
  split
  next natural =>
    obtain ⟨first, more, written, isDigit⟩ := exists_toDigits_eq_cons value.toNat
    have split := number?_toDigits value.toNat ends
    rw [Int.toNat_of_nonneg natural] at split
    rw [Nat.toList_repr, ← split, written]
    exact first?_of_isDigit isDigit
  next negative =>
    have nonzero : (-value).toNat ≠ 0 := by omega
    have split : unsigned? true (Nat.toDigits 10 (-value).toNat ++ rest) =
        some (.integer (-(-value).toNat), rest) := unsigned?_toDigits ends fun _ => nonzero
    rw [Int.toNat_of_nonneg (by omega), Int.neg_neg] at split
    rw [String.toList_append, Nat.toList_repr]
    exact split

/-! ## Texts -/

theorem first?_lexeme (plain : token.IsPlain) (ends : token.isNumber = true → EndsNumber rest) :
    first? (token.lexeme ++ rest) = some (token, rest) := by
  cases token with
  | integer value => exact first?_toString value (ends rfl)
  | decimal => exact plain.elim
  | string literal =>
      have closed := plain rest
      rw [lexeme, quoted, List.cons_append, List.cons_append, List.append_assoc, first?,
        List.singleton_append, closed, Option.map_some]
  | bool value => cases value <;> rfl
  | openObject | closeObject | openArray | closeArray | colon | comma | null => rfl

/-- Whether a text has the given tokens, with blanks anywhere between them. -/
inductive Spells : List Token → List Char → Prop where
  | nil : Spells [] []
  | blank {space : Char} {tokens : List Token} {text : List Char}
      (blank : isSpace space = true) (rest : Spells tokens text) :
      Spells tokens (space :: text)
  | token {token : Token} {tokens : List Token} {text : List Char}
      (rest : Spells tokens text) : Spells (token :: tokens) (token.lexeme ++ text)

/-- Tokens without any blanks. -/
theorem spells_flatMap (tokens : List Token) : Spells tokens (tokens.flatMap lexeme) := by
  induction tokens with
  | nil => exact .nil
  | cons token rest ih => exact .token ih

theorem Spells.blanks {blanks : List Char} (spaces : blanks.all isSpace = true)
    (spells : Spells tokens text) : Spells tokens (blanks ++ text) := by
  induction blanks with
  | nil => exact spells
  | cons space more ih =>
      rw [List.all_cons, Bool.and_eq_true] at spaces
      exact .blank spaces.1 (ih spaces.2)

/-- Tokens with any blanks in front of each of them and behind the last one. -/
theorem spells_of_blanks {spaced : List (List Char × Token)} {after : List Char}
    (spaces : ∀ piece ∈ spaced, piece.1.all isSpace = true)
    (spacesAfter : after.all isSpace = true) :
    Spells (spaced.map Prod.snd)
      (spaced.flatMap (fun piece => piece.1 ++ piece.2.lexeme) ++ after) := by
  induction spaced with
  | nil => simpa using Spells.nil.blanks spacesAfter
  | cons piece rest ih =>
      obtain ⟨here, later⟩ := List.forall_mem_cons.mp spaces
      rw [List.map_cons, List.flatMap_cons, List.append_assoc, List.append_assoc]
      exact (Spells.token (ih later)).blanks here

/-- Whether no two numbers are next to each other. -/
def Apart (tokens : List Token) : Prop :=
  tokens.IsChain fun token next => token.isNumber = true → next.isNumber = false

theorem endsNumber_lexeme (other : token.isNumber = false) : EndsNumber (token.lexeme ++ rest) := by
  intro character leads
  cases token with
  | integer | decimal => cases other
  | bool value =>
      cases value <;> cases leads <;> decide
  | openObject | closeObject | openArray | closeArray | colon | comma | null | string =>
      cases leads
      decide

theorem endsNumber_of_isSpace {space : Char} (blank : isSpace space = true) :
    EndsNumber (space :: rest) := by
  intro character leads
  cases leads
  simp only [isSpace, Bool.or_eq_true, decide_eq_true_eq] at blank
  rcases blank with ((rfl | rfl) | rfl) | rfl <;> decide

theorem Spells.endsNumber (spells : Spells tokens text)
    (others : ∀ next ∈ tokens.head?, next.isNumber = false) : EndsNumber text := by
  cases spells with
  | nil => rintro character ⟨⟩
  | blank blank => exact endsNumber_of_isSpace blank
  | token => exact endsNumber_lexeme (others _ rfl)

/-- No token begins with a blank. -/
theorem exists_lexeme_eq_cons (plain : token.IsPlain) :
    ∃ first more, token.lexeme = first :: more ∧ isSpace first = false := by
  cases token with
  | integer value =>
      rw [lexeme, Int.toString_eq_repr, Int.repr_eq_if]
      split
      next =>
        obtain ⟨first, more, written, isDigit⟩ := exists_toDigits_eq_cons value.toNat
        refine ⟨first, more, by rw [Nat.toList_repr, written], Bool.eq_false_iff.mpr ?_⟩
        intro blank
        have notDigit := (endsNumber_of_isSpace blank first (List.head?_cons (l := more))).1
        cases isDigit.symm.trans notDigit
      next => exact ⟨'-', _, String.toList_append, rfl⟩
  | decimal => exact plain.elim
  | bool value => cases value <;> exact ⟨_, _, rfl, rfl⟩
  | openObject | closeObject | openArray | closeArray | colon | comma | null | string =>
      exact ⟨_, _, rfl, rfl⟩

/-- In a text the tokens that it was written from are found, wherever the blanks are. -/
theorem Spells.all?_eq (spells : Spells tokens text) (plain : ∀ token ∈ tokens, token.IsPlain)
    (apart : Apart tokens) : all? text = some tokens := by
  induction spells with
  | nil => rw [all?]
  | blank blank _ ih => rw [all?, if_pos blank, ih plain apart]
  | @token token tokens text rest ih =>
      obtain ⟨isPlain, others⟩ := List.forall_mem_cons.mp plain
      obtain ⟨follows, remaining⟩ := List.isChain_cons.mp apart
      have found : first? (token.lexeme ++ text) = some (token, text) :=
        first?_lexeme isPlain fun isNumber =>
          rest.endsNumber fun next leads => follows next leads isNumber
      obtain ⟨first, more, written, notBlank⟩ := exists_lexeme_eq_cons isPlain
      rw [written] at found ⊢
      rw [List.cons_append, all?, if_neg (notBlank ▸ Bool.false_ne_true)]
      split
      next other after same =>
        cases found.symm.trans same
        rw [ih others remaining, Option.map_some]
      next none => cases found.symm.trans none

end HeaderRelay.Json.Token
