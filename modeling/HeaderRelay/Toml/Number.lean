import HeaderRelay.Toml.Quotation

/-!
# Numbers

Integers are decimal with an optional sign, or hex, octal or binary without
one, and lie in the range of signed 64-bit words.  Numbers with a fraction or
an exponent must not lie above the range of binary floating point with 64 bits.
Single underscores may separate digits.
-/

namespace HeaderRelay.Toml

/-- The digits of a number without the underscores between them. -/
def ungrouped (isDigit : Char → Bool) : List Char → Option (List Char)
  | [] => none
  | [digit] => if isDigit digit then some [digit] else none
  | digit :: '_' :: rest =>
      if isDigit digit then (ungrouped isDigit rest).map (digit :: ·) else none
  | digit :: rest =>
      if isDigit digit then (ungrouped isDigit rest).map (digit :: ·) else none

/-- The value of digits in a base, the highest first. -/
def valueOf? (base : Nat) (written : List Char) : Option Nat := do
  let belongs := fun digit => (hexDigit? digit).any fun value => value < base
  (← ungrouped belongs written).foldlM
    (fun value digit => do return base * value + (← hexDigit? digit)) 0

/-- The value of decimal digits without a superfluous zero in front. -/
def decimalValue? : List Char → Option Nat
  | ['0'] => some 0
  | '0' :: _ => none
  | written => valueOf? 10 written

/-- The number, if it is in the range of signed 64-bit words. -/
def inRange? (value : Int) : Option Int :=
  if Int64.minValue.toInt ≤ value ∧ value ≤ Int64.maxValue.toInt then some value else none

/-- The value of a written integer. -/
def integer? : List Char → Option Int
  | '0' :: 'x' :: digits => do inRange? (← valueOf? 16 digits)
  | '0' :: 'o' :: digits => do inRange? (← valueOf? 8 digits)
  | '0' :: 'b' :: digits => do inRange? (← valueOf? 2 digits)
  | '-' :: digits => do inRange? (-(← decimalValue? digits))
  | '+' :: digits => do inRange? (← decimalValue? digits)
  | digits => do inRange? (← decimalValue? digits)

/-- The least number that rounds to infinity. -/
def overflowBound : Nat :=
  (1 <<< 1024) - (1 <<< 970)

/-- The number of decimal digits of a number. -/
def decimalLength (value : Nat) : Nat :=
  if value = 0 then 0 else (Nat.toDigits 10 value).length

/-- Whether `digits * 10 ^ exponent` rounds to infinity. The first two tests
keep the powers small. -/
def overflows (digits : Nat) (exponent : Int) : Bool :=
  let magnitude := decimalLength digits + exponent
  if digits = 0 || magnitude < 300 then false
  else if 310 < magnitude then true
  else if exponent < 0 then overflowBound * Nat.pow 10 (-exponent).toNat ≤ digits
  else overflowBound ≤ digits * Nat.pow 10 exponent.toNat

/-- A sign in front of a number, and the rest. -/
def splitSign : List Char → Bool × List Char
  | '-' :: rest => (true, rest)
  | '+' :: rest => (false, rest)
  | rest => (false, rest)

/-- The value of the exponent behind its letter. -/
def exponent? (written : List Char) : Option Int := do
  let (negative, digits) := splitSign written
  let value ← valueOf? 10 digits
  return if negative then -value else value

/-- Whether this is a number with a fraction or an exponent or both. -/
def isDecimal (written : List Char) : Bool :=
  let (negative, unsigned) := splitSign written
  let beforeExponent := unsigned.takeWhile fun letter => letter ≠ 'e' && letter ≠ 'E'
  let behindMantissa := unsigned.drop beforeExponent.length
  let whole := beforeExponent.takeWhile (· ≠ '.')
  let behindWhole := beforeExponent.drop whole.length
  let value? : Option (Nat × Int) := do
    if behindWhole.isEmpty && behindMantissa.isEmpty then none
    let wholeValue ← decimalValue? whole
    let exponent ← if behindMantissa.isEmpty then some 0 else exponent? behindMantissa.tail
    if behindWhole.isEmpty then return (wholeValue, exponent)
    let fraction ← ungrouped Char.isDigit behindWhole.tail
    let fractionValue ← valueOf? 10 fraction
    return (wholeValue * Nat.pow 10 fraction.length + fractionValue,
      exponent - fraction.length)
  match value? with
  | some (digits, exponent) => negative || !overflows digits exponent
  | none => false

/-- Whether this is the name of a number that has no digits. -/
def isSpecial (written : List Char) : Bool :=
  let unsigned := (splitSign written).2
  unsigned = ['i', 'n', 'f'] || unsigned = ['n', 'a', 'n']

end HeaderRelay.Toml
