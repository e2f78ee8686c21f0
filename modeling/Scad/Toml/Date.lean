import Scad.Toml.Number

/-!
# Dates and times in TOML

Which texts are dates, times of day, and dates with a time and an offset. A
date is one of the calendar; a minute may have a leap second.
-/

namespace Scad.Toml

open Decimal (isDigit)

/-- The number of a fixed count of digits, and the rest. -/
def takeDigits (count : Nat) (s : List Char) : Option (Nat × List Char) :=
  let digits := s.take count
  if digits.length = count && digits.all isDigit then
    some (digitsValue 10 digits, s.drop count)
  else none

/-- The rest behind an expected character. -/
def behind (c : Char) : List Char → Option (List Char)
  | [] => none
  | d :: rest => if d = c then some rest else none

def isLeapYear (year : Nat) : Bool :=
  year % 4 == 0 && (year % 100 != 0 || year % 400 == 0)

def daysOfMonth (year month : Nat) : Nat :=
  match month with
  | 2 => if isLeapYear year then 29 else 28
  | 4 => 30
  | 6 => 30
  | 9 => 30
  | 11 => 30
  | _ => 31

/-- The rest behind a date. -/
def behindDate (s : List Char) : Option (List Char) := do
  let (year, s) ← takeDigits 4 s
  let (month, s) ← takeDigits 2 (← behind '-' s)
  let (day, s) ← takeDigits 2 (← behind '-' s)
  if 1 ≤ month && month ≤ 12 && 1 ≤ day && day ≤ daysOfMonth year month then some s else none

/-- The rest behind the hour and the minute. -/
def behindMinute (s : List Char) : Option (List Char) := do
  let (hour, s) ← takeDigits 2 s
  let (minute, s) ← takeDigits 2 (← behind ':' s)
  if hour ≤ 23 && minute ≤ 59 then some s else none

/-- The rest behind a time of day, which may have a fraction of a second. -/
def behindTime (s : List Char) : Option (List Char) := do
  let (second, s) ← takeDigits 2 (← behind ':' (← behindMinute s))
  if second > 60 then none
  match s with
  | '.' :: c :: rest => if isDigit c then some (rest.dropWhile isDigit) else none
  | '.' :: [] => none
  | s => some s

/-- The end of the text or an offset from universal time. -/
def isOffset : List Char → Bool
  | [] => true
  | ['Z'] => true
  | ['z'] => true
  | '+' :: rest => behindMinute rest == some []
  | '-' :: rest => behindMinute rest == some []
  | _ => false

def isDate (s : List Char) : Bool := behindDate s == some []

def isTime (s : List Char) : Bool := behindTime s == some []

/-- A date with a time, separated by the letter or by one blank. -/
def isDateTime (s : List Char) : Bool :=
  match behindDate s with
  | some (c :: rest) =>
      (c == 'T' || c == 't' || c == ' ') && (behindTime rest).any isOffset
  | _ => false

end Scad.Toml
