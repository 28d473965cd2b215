import Calculator.Number.Numeral
import Calculator.Number.Whole
import Calculator.Toml.Text

/-!
Numbers: integers of 64 bits in four bases, and floats. Underscores may stand between digits.
-/

namespace Calculator.Toml

open Reader

/-- Digits, without the underscores between them. -/
def digitRun (isDigit : Char → Bool) : Reader (List Char) :=
  return (← satisfying isDigit) :: (← many (optional (char '_') *> satisfying isDigit))

def sign : Reader (List Char) := return (← optional (satisfying fun c => c == '+' || c == '-')).toList

/-- A sign and digits, of which the first is no zero unless it is the only one. -/
def decimal : Reader (List Char) := do
  let sign ← sign
  if (← peek?) = some '0' then return sign ++ [← next]
  else return sign ++ (← digitRun Char.isDigit)

def exponent : Reader (List Char) := do
  let mark ← satisfying fun c => c == 'e' || c == 'E'
  return mark :: (← sign) ++ (← digitRun Char.isDigit)

def fraction : Reader (List Char) := do
  let point ← satisfying (· == '.')
  return point :: (← digitRun Char.isDigit) ++ ((← optional exponent).getD [])

/-- A float with a fraction or an exponent; one too great for a finite value is refused. -/
def writtenFloat : Reader Binary64 := do
  let whole ← decimal
  match Numeral.read? (whole ++ (← exponent <|> fraction)) with
  | some x => if x = .infinity false then failure else return x
  | none => failure

def namedFloat : Reader Binary64 := do
  let negative := (← sign) == ['-']
  (text "inf".toList *> return .infinity negative) <|> (text "nan".toList *> return .nan negative)

def float : Reader Binary64 := writtenFloat <|> namedFloat

/-- An integer in another base, written with its mark and without a sign. -/
def marked (mark : Char) (base : Nat) (isDigit : Char → Bool) : Reader Int := do
  text ['0', mark]
  let n := (← digitRun isDigit).foldl (fun n c => base * n + hexValue c) 0
  match Whole.inRange? n with
  | some n => return n
  | none => failure

def decimalInteger : Reader Int := do
  match Whole.read? (String.ofList (← decimal)) with
  | some n => return n
  | none => failure

def integer : Reader Int :=
  marked 'x' 16 isHexDigit <|> marked 'o' 8 (fun c => '0' ≤ c && c ≤ '7') <|>
    marked 'b' 2 (fun c => c == '0' || c == '1') <|> decimalInteger

end Calculator.Toml
