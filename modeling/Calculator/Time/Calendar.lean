/-!
Dates of the proleptic Gregorian calendar and times of day from seconds since the start of 1970, and
their written form. Years begin in March here, so that a leap day is the last day of its year.
-/

namespace Calculator.Time

/-- Days in four hundred years. -/
def cycleDays : Nat := 146097

/-- Days from the first of March of the year 0 to the first of January 1970. -/
def epochDays : Int := 719468

structure Date where
  year : Int
  month : Nat
  day : Nat
deriving DecidableEq, Repr

/-- The date of a day counted from the first of January 1970. -/
def Date.ofDays (days : Int) : Date :=
  let shifted := days + epochDays
  let cycle := shifted / cycleDays
  let dayOfCycle := (shifted % cycleDays).toNat
  let yearOfCycle :=
    (dayOfCycle - dayOfCycle / 1460 + dayOfCycle / 36524 - dayOfCycle / 146096) / 365
  let dayOfYear := dayOfCycle - (365 * yearOfCycle + yearOfCycle / 4 - yearOfCycle / 100)
  let monthFromMarch := (5 * dayOfYear + 2) / 153
  let day := dayOfYear - (153 * monthFromMarch + 2) / 5 + 1
  let month := if monthFromMarch < 10 then monthFromMarch + 3 else monthFromMarch - 9
  let year := cycle * 400 + yearOfCycle + (if month ≤ 2 then 1 else 0)
  ⟨year, month, day⟩

/-- A number in decimal digits, at least as many as given. -/
def padded (width n : Nat) : List Char :=
  let digits := Nat.toDigits 10 n
  List.replicate (width - digits.length) '0' ++ digits

/-- Years from 0 to 9999 have four digits; all others have a sign and at least four. -/
def yearText (year : Int) : List Char :=
  if year < 0 then '-' :: padded 4 year.natAbs
  else if year ≤ 9999 then padded 4 year.natAbs
  else '+' :: padded 4 year.natAbs

def Date.text (date : Date) : List Char :=
  yearText date.year ++ '-' :: padded 2 date.month ++ '-' :: padded 2 date.day

/-- The time of day as `HH:MM:SS`. -/
def timeOfDay (seconds : Int) : List Char :=
  let second := (seconds % 86400).toNat
  padded 2 (second / 3600) ++ ':' :: padded 2 (second / 60 % 60) ++ ':' :: padded 2 (second % 60)

/-- Date and time of day, as `YYYY-MM-DD HH:MM:SS`. -/
def stamp (seconds : Int) : String :=
  String.ofList ((Date.ofDays (seconds / 86400)).text ++ ' ' :: timeOfDay seconds)

end Calculator.Time
