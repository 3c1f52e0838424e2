/-!
# Numbers in text

Reading decimal numbers of a limited range.  Digits are read from the left, and
the first one that is no digit or takes the number out of its range decides
between the two failures.
-/

namespace HeaderRelay.Text

/-- Why a text is no value of the expected kind. -/
inductive ValueError where
  | emptyNumber
  | invalidDigit
  | tooLarge
  | tooSmall
  | notBoolean
  | notNetwork (text : String)
  deriving DecidableEq

namespace ValueError

def message : ValueError → String
  | emptyNumber => "cannot parse integer from empty string"
  | invalidDigit => "invalid digit found in string"
  | tooLarge => "number too large to fit in target type"
  | tooSmall => "number too small to fit in target type"
  | notBoolean => "provided string was not \x60true\x60 or \x60false\x60"
  | notNetwork text => "failed to parse " ++ text ++ " as network"

end ValueError

/-- The value of a decimal digit. -/
def digitValue? (character : Char) : Option Nat :=
  if character.isDigit then some (character.toNat - '0'.toNat) else none

/-- Reads digits behind those that make up `value`. A number above `limit` is
refused with the given error. -/
def readDigits (limit : Nat) (beyond : ValueError) (value : Nat) :
    List Char → Except ValueError Nat
  | [] => .ok value
  | character :: rest =>
      match digitValue? character with
      | none => .error .invalidDigit
      | some digit =>
          if 10 * value + digit > limit then .error beyond
          else readDigits limit beyond (10 * value + digit) rest

/-- Reads a number from zero to `limit`. A plus sign may stand in front. -/
def readNat (limit : Nat) (text : String) : Except ValueError Nat :=
  match text.toList with
  | [] => .error .emptyNumber
  | ['+'] => .error .invalidDigit
  | '+' :: digits => readDigits limit .tooLarge 0 digits
  | digits => readDigits limit .tooLarge 0 digits

/-- Reads a number from `-limit - 1` to `limit`. A sign may stand in front. -/
def readInt (limit : Nat) (text : String) : Except ValueError Int :=
  match text.toList with
  | [] => .error .emptyNumber
  | ['+'] => .error .invalidDigit
  | ['-'] => .error .invalidDigit
  | '+' :: digits => return ← readDigits limit .tooLarge 0 digits
  | '-' :: digits => return -(← readDigits (limit + 1) .tooSmall 0 digits)
  | digits => return ← readDigits limit .tooLarge 0 digits

/-- Reads `true` or `false`. -/
def readBool (text : String) : Except ValueError Bool :=
  if text = "true" then .ok true
  else if text = "false" then .ok false
  else .error .notBoolean

end HeaderRelay.Text
