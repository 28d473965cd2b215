import Calculator.Text.Lowercase
import Calculator.Text.Blank

/-!
Where a line of input goes: to a command by its first word, or to the evaluator as a whole.
-/

namespace Calculator

inductive Route where
  | skip
  | exit
  /-- The whole trimmed line is an expression. -/
  | expression (line : String)
  | command (name : String) (args : List String)
deriving DecidableEq, Repr

namespace Route

def hasOperator (cs : List Char) : Bool :=
  cs.any fun c => c == '+' || c == '-' || c == '*' || c == '/'

/-- `history save x` is `history-save x` where such a command is registered. -/
def joinVerb (isRegistered : String → Bool) (name : String) : List String → String × List String
  | [] => (name, [])
  | verb :: rest =>
    let joined := "history-" ++ Text.lowercase verb
    if name = "history" ∧ isRegistered joined then (joined, rest) else (name, verb :: rest)

/-- The words of a line: the first in lower case, then the others. -/
def splitCommand (cs : List Char) : String × List String :=
  match Text.words cs with
  | [] => ("", [])
  | first :: rest => (String.ofList (Text.lower first), rest.map String.ofList)

/-- A line goes to the evaluator if it has an operator and its first word is neither registered nor
all letters. -/
def ofLine (isRegistered : String → Bool) (line : String) : Route :=
  let text := Text.trim line.toList
  if text.isEmpty then skip
  else if Text.sameLetters (String.ofList text) "exit" then exit
  else
    let (first, rest) := splitCommand text
    let (name, args) := joinVerb isRegistered first rest
    if !isRegistered name && hasOperator text && !Text.isAlphabeticWord name.toList then
      expression (String.ofList text)
    else command name args

end Route

/-- Results are recorded unless they begin as error texts do. -/
def isRecordable (result : String) : Bool := !"Error".toList.isPrefixOf result.toList

end Calculator
