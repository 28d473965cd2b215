import Calculator.Toml.Reader

/-!
Dates, times, and dates with times. They are checked and nothing of them is kept.
-/

namespace Calculator.Toml

open Reader

/-- A number of so many digits. -/
def digits (count : Nat) : Reader Nat := return Nat.ofDigitChars 10 (← exactly Char.isDigit count) 0

def digitsFrom (count least greatest : Nat) : Reader Nat := do
  let n ← digits count
  if least ≤ n ∧ n ≤ greatest then return n else failure

def isLeapYear (year : Nat) : Bool := year % 4 == 0 && (year % 100 != 0 || year % 400 == 0)

def daysIn (year month : Nat) : Nat :=
  if month = 2 then if isLeapYear year then 29 else 28
  else if month = 4 ∨ month = 6 ∨ month = 9 ∨ month = 11 then 30
  else 31

def date : Reader Unit := do
  let year ← digits 4
  char '-'
  let month ← digitsFrom 2 1 12
  char '-'
  let _ ← digitsFrom 2 1 (daysIn year month)

def hourAndMinute : Reader Unit := do
  let _ ← digitsFrom 2 0 23
  char ':'
  let _ ← digitsFrom 2 0 59

/-- A time with its seconds, and parts of a second if there are any. -/
def time : Reader Unit := do
  hourAndMinute
  char ':'
  let _ ← digitsFrom 2 0 60
  let _ ← optional (char '.' *> takeSome Char.isDigit)

def offset : Reader Unit := do
  match ← next with
  | 'Z' | 'z' => return
  | '+' | '-' => hourAndMinute
  | _ => failure

def dateWithTime : Reader Unit := do
  date
  let _ ← optional do
    let _ ← satisfying fun c => c == 'T' || c == 't' || c == ' '
    time
    optional offset

def moment : Reader Unit := dateWithTime <|> time

end Calculator.Toml
