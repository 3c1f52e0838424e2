/-!
# Dates and times

A date, a time of day, or both with an optional distance from universal time.
Dates have to exist; a minute may have a second number sixty.
-/

namespace HeaderRelay.Toml

/-- The value of decimal digits. -/
def digitsValue? (digits : List Char) : Option Nat :=
  if digits.all Char.isDigit then
    some (digits.foldl (fun value digit => 10 * value + (digit.toNat - '0'.toNat)) 0)
  else none

/-- Whether two digits make a number from `low` to `high`. -/
def isBetween (low high : Nat) (tens ones : Char) : Bool :=
  (digitsValue? [tens, ones]).any fun value => low ≤ value && value ≤ high

/-- Whether a year has a leap day. -/
def isLeapYear (year : Nat) : Bool :=
  year % 4 = 0 && (year % 100 ≠ 0 || year % 400 = 0)

/-- The number of days of a month. -/
def daysOf (year month : Nat) : Nat :=
  if month = 2 then if isLeapYear year then 29 else 28
  else if month = 4 || month = 6 || month = 9 || month = 11 then 30
  else 31

/-- Whether year, month and day name a date. -/
def isDay (year month : List Char) (tens ones : Char) : Bool :=
  match digitsValue? year, digitsValue? month with
  | some year, some month =>
      1 ≤ month && month ≤ 12 && isBetween 1 (daysOf year month) tens ones
  | _, _ => false

/-- Whether this is empty, `Z` or hours and minutes behind a sign. -/
def isOffset : List Char → Bool
  | [] => true
  | ['Z'] => true
  | ['z'] => true
  | [sign, hour1, hour2, ':', minute1, minute2] =>
      (sign = '+' || sign = '-') && isBetween 0 23 hour1 hour2 &&
        isBetween 0 59 minute1 minute2
  | _ => false

/-- What follows a time behind the fraction of its seconds; `none` if there is
a point without digits. -/
def behindFraction? : List Char → Option (List Char)
  | '.' :: rest =>
      if (rest.takeWhile Char.isDigit).isEmpty then none
      else some (rest.dropWhile Char.isDigit)
  | rest => some rest

/-- Whether this is a time of day with something acceptable behind it. -/
def isTimeBefore (isRest : List Char → Bool) : List Char → Bool
  | hour1 :: hour2 :: ':' :: minute1 :: minute2 :: ':' :: second1 :: second2 :: rest =>
      isBetween 0 23 hour1 hour2 && isBetween 0 59 minute1 minute2 &&
        isBetween 0 60 second1 second2 && (behindFraction? rest).any isRest
  | _ => false

/-- Whether this is empty or a time behind its separator. -/
def isTimePart : List Char → Bool
  | [] => true
  | separator :: time =>
      (separator = 'T' || separator = 't' || separator = ' ') && isTimeBefore isOffset time

/-- Whether this is a date with or without a time. -/
def isDated : List Char → Bool
  | year1 :: year2 :: year3 :: year4 :: '-' :: month1 :: month2 :: '-' :: day1 :: day2 ::
      rest =>
      isDay [year1, year2, year3, year4] [month1, month2] day1 day2 && isTimePart rest
  | _ => false

/-- Whether this is a date, a time of day or both. -/
def isMoment (written : List Char) : Bool :=
  isDated written || isTimeBefore List.isEmpty written

end HeaderRelay.Toml
