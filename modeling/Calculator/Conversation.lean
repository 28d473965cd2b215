import Calculator.Session
import Calculator.Text.Erasing
import Calculator.Text.Lines

/-!
A conversation: lines of input go to a session one by one, and its replies are printed, until a line
asks for the end or no further line can be read. Then the session is shut down, unless the program is
broken off.
-/

namespace Calculator

/-- What the reader of lines delivers. -/
inductive Input where
  | line (text : String)
  /-- A line that is no text. -/
  | unreadable
  /-- A line whose backspaces would tear a character. -/
  | torn
  | finished
deriving DecidableEq, Repr

/-- How a conversation comes to its end. -/
inductive Ending where
  | exit
  | endOfInput
  | unreadable
  /-- The program cannot go on. -/
  | broken
deriving DecidableEq, Repr

namespace Ending

/-- What is printed when there is no more input for a reason. -/
def apology (reason : String) : String :=
  s!"\nAn unexpected error occurred: {reason}\nPlease check the logs for more information.\n"

/-- Why there is no more input; none if the end was asked for or the program is broken off. -/
def reason? : Ending → Option String
  | endOfInput => some "end of input"
  | unreadable => some Files.FileError.notText.message
  | exit | broken => none

/-- What is printed at the end. -/
def farewell : Ending → String
  | exit => "Thank you for using Abacus Calculator. Goodbye!\n"
  | broken => ""
  | ending => ending.reason?.elim "" apology

def status : Ending → Nat
  | broken => Fault.status
  | _ => 0

end Ending

namespace Conversation

def bannerLines : List String :=
  ["\n===== Abacus Calculator =====",
   "Type 'help' for available commands or 'exit' to quit.",
   "You can use commands like 'add 5 3' or expressions like '5+3'",
   "Try 'menu' to see available operations",
   "Type 'history' to view your calculation history",
   "=======================================\n"]

/-- What is printed at the start. -/
def banner : String := String.join (bannerLines.map (· ++ "\n"))

/-- What an outcome prints. -/
def printed : LineOutcome → String
  | .reply reply => reply.text ++ "\n"
  | _ => ""

/-- The ending that an input brings about, and otherwise the session after it with what it prints. -/
def step (session : Session) : Input → (String × Session) × Option Ending
  | .finished => (("", session), some .endOfInput)
  | .unreadable => (("", session), some .unreadable)
  | .torn => (("", session), some .broken)
  | .line text =>
    let (outcome, session) := session.handle text
    ((printed outcome, session), if outcome = .exit then some .exit else none)

/-- A conversation that has ended. -/
structure Transcript where
  /-- What was printed, piece by piece. -/
  printed : List String
  ending : Ending
  session : Session

/-- Goes through inputs with a prompt printed before each. -/
def converse (prompt : String) (session : Session) : List Input → Transcript
  | [] => ⟨[prompt], .endOfInput, session⟩
  | input :: rest =>
    match step session input with
    | ((text, session), some ending) => ⟨[prompt, text], ending, session⟩
    | ((text, session), none) =>
      let transcript := converse prompt session rest
      { transcript with printed := prompt :: text :: transcript.printed }

/-- The session before the first line. -/
def opened (session : Session) : Session := session.note .info .loop "Conversation started"

/-- The session after its shutdown at an ending. What is broken off is not shut down. -/
def closed (session : Session) : Ending → Session
  | .broken => session.note .error .faults "Broken off" [("location", "input"), ("message", "torn")]
  | ending =>
    (ending.reason?.elim session fun reason =>
      session.note .error .loop "Unexpected end" [("error", reason)]).shutdown

/-- A whole conversation with what is printed at its start and its end. -/
def run (prompt : String) (session : Session) (inputs : List Input) : Transcript :=
  let transcript := converse prompt (opened session) inputs
  { transcript with
    printed := banner :: transcript.printed ++ [transcript.ending.farewell]
    session := closed transcript.session transcript.ending }

/-- The input in a line with its end. -/
def inputOf : Option String → Input
  | none => .unreadable
  | some line =>
    (Text.erased (Text.withoutEnd line.toList)).elim .torn fun cs => .line (String.ofList cs)

def inputsIn (content : ByteArray) : List Input := (Text.lines content).map inputOf

end Conversation

end Calculator
