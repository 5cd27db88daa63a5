import Transplant.Text

/-!
Calendar dates, as days of the proleptic Gregorian calendar. A date is written year, month and day
with hyphens between them; the reader also takes leading white space and missing zeros.
-/

namespace Transplant

namespace Calendar

/-- Leap years are those divisible by 4, save those by 100, yet those by 400. -/
def isLeap (year : Int) : Bool := year % 4 == 0 && (year % 100 != 0 || year % 400 == 0)

/-- The number of days of a month, 0 where there is no such month. -/
def daysIn (year : Int) : Nat → Nat
  | 2 => if isLeap year then 29 else 28
  | 4 | 6 | 9 | 11 => 30
  | 1 | 3 | 5 | 7 | 8 | 10 | 12 => 31
  | _ => 0

/-- Whether a day is in the calendar, which goes from the year -262143 to the year 262142. -/
def HasDay (year : Int) (month day : Nat) : Prop :=
  -262143 ≤ year ∧ year ≤ 262142 ∧ 1 ≤ day ∧ day ≤ daysIn year month

instance (year : Int) (month day : Nat) : Decidable (HasDay year month day) :=
  inferInstanceAs (Decidable (_ ∧ _ ∧ _ ∧ _))

end Calendar

/-- A day of the calendar. -/
structure Date where
  year : Int
  month : Nat
  day : Nat
  hasDay : Calendar.HasDay year month day
deriving DecidableEq

namespace Date

/-- The day of these numbers, if the calendar has it. -/
def ofNumbers? (year : Int) (month day : Nat) : Option Date :=
  if h : Calendar.HasDay year month day then some ⟨year, month, day, h⟩ else none

/-- A number in decimal digits, with zeros in front up to a width. -/
def padded (width n : Nat) : Text :=
  let digits := Nat.toDigits 10 n
  List.replicate (width - digits.length) '0' ++ digits

/-- The year in at least four digits. One that these cannot tell, a year before 0 or after 9999,
has its sign in front. -/
def yearText (year : Int) : Text :=
  let digits := padded 4 year.natAbs
  if year < 0 then '-' :: digits else if 9999 < year then '+' :: digits else digits

/-- A date as it is written. -/
def text (d : Date) : Text :=
  yearText d.year ++ '-' :: padded 2 d.month ++ '-' :: padded 2 d.day

/-- Reads a number of one to `most` digits. -/
def number? (most : Nat) (t : Text) : Option (Nat × Text) :=
  let digits := (t.take most).takeWhile Char.isDigit
  if digits = [] then none else some (Nat.ofDigitChars 10 digits 0, t.drop digits.length)

/-- Reads a year: four digits at most, or a sign and any number of digits. -/
def year? (t : Text) : Option (Int × Text) :=
  match t with
  | '-' :: cs => (number? cs.length cs).map fun (n, rest) => (-(n : Int), rest)
  | '+' :: cs => (number? cs.length cs).map fun (n, rest) => ((n : Int), rest)
  | _ => (number? 4 t).map fun (n, rest) => ((n : Int), rest)

/-- Reads a date that takes up the whole text. White space may stand before each number. -/
def parse? (t : Text) : Option Date := do
  let (year, t) ← year? t.trimStart
  let t ← t.stripStart? ['-']
  let (month, t) ← number? 2 t.trimStart
  let t ← t.stripStart? ['-']
  let (day, t) ← number? 2 t.trimStart
  if t = [] then ofNumbers? year month day else none

end Date

end Transplant
