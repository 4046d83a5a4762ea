import Gamebook.Json.Codec
import Gamebook.Text.Blank

/-!
Moments in time: the dates of the calendar that is extended to all years, times of day with leap
seconds, and their text. Moments are read from text with any offset, somewhat freely, and written in
universal time.
-/

namespace Gamebook

/-- A moment in universal time: the days since the first of January 1970, the second of the day,
and nanoseconds, which reach the next second only within a leap second. -/
structure Instant where
  day : Int
  second : Nat
  nano : Nat
  deriving DecidableEq, Repr

namespace Calendar

/-- A date of the calendar. -/
structure Date where
  year : Int
  month : Nat
  day : Nat
  deriving DecidableEq, Repr

/-- Whether a year has a leap day. -/
def isLeapYear (year : Int) : Bool :=
  year % 4 = 0 && (year % 100 ≠ 0 || year % 400 = 0)

/-- The number of days of a month. -/
def daysInMonth (year : Int) (month : Nat) : Nat :=
  if month = 2 then (if isLeapYear year then 29 else 28)
  else if month = 4 ∨ month = 6 ∨ month = 9 ∨ month = 11 then 30
  else 31

/-- The days from the first of January 1970 to a date. Years are counted from March, so that the
leap day comes last, and the calendar repeats itself after 400 years, or 146097 days. -/
def Date.toDays (date : Date) : Int :=
  let year := if date.month ≤ 2 then date.year - 1 else date.year
  let month := if date.month ≤ 2 then date.month + 9 else date.month - 3
  let cycle := year / 400
  let inCycle := year % 400
  let inYear : Int := (153 * month + 2) / 5 + date.day - 1
  cycle * 146097 + (inCycle * 365 + inCycle / 4 - inCycle / 100 + inYear) - 719468

/-- The date after some days since the first of January 1970. -/
def Date.ofDays (days : Int) : Date :=
  let shifted := days + 719468
  let cycle := shifted / 146097
  let inCycle := shifted % 146097
  let year := (inCycle - inCycle / 1460 + inCycle / 36524 - inCycle / 146096) / 365
  let inYear := (inCycle - (365 * year + year / 4 - year / 100)).toNat
  let month := (5 * inYear + 2) / 153
  let day := inYear - (153 * month + 2) / 5 + 1
  if month < 10 then ⟨cycle * 400 + year, month + 3, day⟩
  else ⟨cycle * 400 + year + 1, month - 9, day⟩

/-- The years that moments may lie in. -/
def isYear (year : Int) : Bool :=
  -262143 ≤ year && year ≤ 262142

/-- Reads from the front of characters, or fails. -/
abbrev Scan (α : Type) := StateT (List Char) Option α

/-- Passes over blanks. -/
def skipBlanks : Scan Unit :=
  modify Text.trimLeft

/-- Reads one character that satisfies a condition. -/
def one (p : Char → Bool) : Scan Char := fun cs =>
  match cs with
  | c :: rest => if p c then some (c, rest) else none
  | [] => none

/-- Reads digits, at least one and no more than the given number of them. -/
def digits (most : Nat) : Scan (List Char) := fun cs =>
  let found := (cs.take most).takeWhile Char.isDigit
  if found = [] then none else some (found, cs.drop found.length)

/-- Reads a number after blanks. -/
def number (most : Nat) : Scan Nat := do
  skipBlanks
  return Nat.ofDigitChars 10 (← digits most) 0

/-- Reads a year after blanks: four digits at most, or any number of them after a sign. -/
def year : Scan Int := do
  skipBlanks
  match ← get with
  | '-' :: rest =>
    set rest
    return -((Nat.ofDigitChars 10 (← digits rest.length) 0 : Nat) : Int)
  | '+' :: rest =>
    set rest
    return (Nat.ofDigitChars 10 (← digits rest.length) 0 : Nat)
  | _ => return (Nat.ofDigitChars 10 (← digits 4) 0 : Nat)

/-- Reads a mark after blanks. -/
def mark (c : Char) : Scan Unit := do
  skipBlanks
  let _ ← one (· = c)

/-- Reads a date. -/
def date : Scan Date := do
  let year ← year
  mark '-'
  let month ← number 2
  mark '-'
  let day ← number 2
  if isYear year ∧ 1 ≤ month ∧ month ≤ 12 ∧ 1 ≤ day ∧ day ≤ daysInMonth year month then
    return ⟨year, month, day⟩
  else failure

/-- Reads the fraction of a second in nanoseconds. Digits behind the ninth do not count. -/
def fraction : Scan Nat := do
  match ← get with
  | '.' :: rest =>
    set rest
    let found ← digits 9
    modify (·.dropWhile Char.isDigit)
    return Nat.ofDigitChars 10 found 0 * Nat.pow 10 (9 - found.length)
  | _ => return 0

/-- Reads a time of day in seconds and nanoseconds. The second 60 is a leap second. -/
def time : Scan (Nat × Nat) := do
  let hour ← number 2
  mark ':'
  let minute ← number 2
  mark ':'
  let second ← number 2
  let nano ← fraction
  if hour ≤ 23 ∧ minute ≤ 59 ∧ second ≤ 60 then
    let leap := if second = 60 then 1 else 0
    return (hour * 3600 + minute * 60 + (second - leap), nano + leap * 1_000_000_000)
  else failure

/-- Reads an offset from universal time in seconds: a sign, two digits for hours, and two for
minutes, with colons or blanks between them. -/
def signedOffset : Scan Int := do
  let sign ← one fun c => c = '+' || c = '-' || c = '−'
  let hourTens ← one Char.isDigit
  let hourOnes ← one Char.isDigit
  modify (·.dropWhile fun c => c = ':' || Text.isBlankChar c)
  let minuteTens ← one fun c => '0' ≤ c && c ≤ '5'
  let minuteOnes ← one Char.isDigit
  let seconds : Int := Nat.ofDigitChars 10 [hourTens, hourOnes] 0 * 3600 +
    Nat.ofDigitChars 10 [minuteTens, minuteOnes] 0 * 60
  if seconds < 86400 then return if sign = '+' then seconds else -seconds
  else failure

/-- Reads an offset from universal time, which may also be named. -/
def offset : Scan Int := do
  skipBlanks
  match ← get with
  | a :: b :: c :: rest =>
    if a.toUpper = 'U' ∧ b.toUpper = 'T' ∧ c.toUpper = 'C' then
      set rest
      return 0
    else if a = 'Z' ∨ a = 'z' then
      set (b :: c :: rest)
      return 0
    else signedOffset
  | a :: rest =>
    if a = 'Z' ∨ a = 'z' then
      set rest
      return 0
    else failure
  | [] => failure

/-- Reads a moment: a date, the letter T or a blank, a time of day, and an offset. -/
def instant : Scan Instant := do
  let date ← date
  let _ ← one fun c => c = 'T' || c = 't' || c = ' '
  let (second, nano) ← time
  let offset ← offset
  skipBlanks
  let total := date.toDays * 86400 + second - offset
  let day := total / 86400
  if isYear (Date.ofDays day).year then return ⟨day, (total % 86400).toNat, nano⟩
  else failure

/-- A number with at least the given count of digits. -/
def padded (width n : Nat) : List Char :=
  let digits := Nat.toDigits 10 n
  List.replicate (width - digits.length) '0' ++ digits

/-- A year of four digits, or of more with a sign. -/
def yearText (year : Int) : List Char :=
  if 0 ≤ year ∧ year ≤ 9999 then padded 4 year.toNat
  else (if year < 0 then '-' else '+') :: padded 4 year.natAbs

/-- The fraction of a second with three, six or nine digits, whichever are enough, or without any
if it is zero. -/
def fractionText (nano : Nat) : List Char :=
  if nano = 0 then []
  else if nano % 1_000_000 = 0 then '.' :: padded 3 (nano / 1_000_000)
  else if nano % 1_000 = 0 then '.' :: padded 6 (nano / 1_000)
  else '.' :: padded 9 nano

end Calendar

namespace Instant

open Calendar

/-- The moment that a text names. -/
def read? (text : String) : Option Instant :=
  match instant text.toList with
  | some (moment, []) => some moment
  | _ => none

/-- The text of a moment. Within a leap second the second is shown as 60. -/
def text (moment : Instant) : String :=
  let date := Date.ofDays moment.day
  let minute := moment.second / 60
  let leap := moment.nano / 1_000_000_000
  String.ofList <|
    yearText date.year ++ '-' :: padded 2 date.month ++ '-' :: padded 2 date.day ++
      'T' :: padded 2 (minute / 60) ++ ':' :: padded 2 (minute % 60) ++
      ':' :: padded 2 (moment.second % 60 + leap) ++
      fractionText (moment.nano % 1_000_000_000) ++ ['Z']

/-- Moments, as text. -/
def codec : Json.Codec Instant where
  encode moment := .text moment.text
  decode
    | .text (.ok s) =>
      match read? s with
      | some moment => .ok moment
      | none => .error .invalidDate
    | tree => tree.refuse .date

end Instant

end Gamebook
