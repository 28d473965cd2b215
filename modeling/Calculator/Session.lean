import Calculator.Command.Standard
import Calculator.Route
import Calculator.Settings.Config

/-!
A session: the standard operations and commands, a history, and the lines that are handled one by one.
A successful calculation on a line is recorded; one that is asked for otherwise is not.
-/

namespace Calculator

open Command (Dispatcher Reply Policy)

inductive LineOutcome where
  | skip
  | exit
  | reply (reply : Reply)
deriving DecidableEq, Repr

structure Session where
  config : Settings.Config
  dispatcher : Dispatcher
  state : Command.State

namespace Session

def history (session : Session) : History := session.state.desk.history

def files (session : Session) : Files.Tree := session.state.desk.files

def note (session : Session) (level : Log.Level) (topic : Log.Topic) (text : String)
    (details : List Log.Detail := []) : Session :=
  { session with state := session.state.note level topic text details }

def onDesk (session : Session) (change : Command.Desk → Command.Desk) : Session :=
  { session with state := { session.state with desk := change session.state.desk } }

/-- The session with another history. -/
def withHistory (session : Session) (history : History) : Session :=
  session.onDesk fun desk => { desk with history := history }

/-- The session with other files. -/
def withFiles (session : Session) (files : Files.Tree) : Session :=
  session.onDesk fun desk => { desk with files := files }

/-- The dispatcher of every session. -/
def dispatcherIn (environment : Settings.Environment) (host : Command.Host) : Dispatcher :=
  Dispatcher.addStandard
    { operations := Operation.Catalogue.standard, environment := environment, host := host }

/-- Notes about what has been filed. -/
def filingNotes (dispatcher : Dispatcher) (historyPath : String) : List Log.Note :=
  (dispatcher.operations.names.map fun name =>
    { level := .info, topic := .operations, text := "Registered operation"
      details := [("operation", name)] }) ++
  (dispatcher.names.map fun name =>
    { level := .debug, topic := .dispatch, text := "Registered command"
      details := [("command", name)] }) ++
  [{ level := .debug, topic := .history, text := "History initialized"
     details := [("path", historyPath)] }]

/-- A session before anything has happened in it. -/
def fresh (config : Settings.Config) (environment : Settings.Environment) (host : Command.Host)
    (files : Files.Tree) (clock : Time.Clock) : Session where
  config := config
  dispatcher := dispatcherIn environment host
  state :=
    { desk :=
        { history := { defaultPath := config.history.path }
          files := files
          notes := (filingNotes (dispatcherIn environment host) config.history.path).reverse }
      clock := clock }

/-- Loads the default file. A file that is not there is no failure, and a failure changes nothing. -/
def loadDefault (session : Session) : Session :=
  match session.history.load session.files none with
  | .ok (path, history) =>
    ((session.withHistory history).onDesk (·.noteLoaded path)).note .info .session
      "History autoloaded" [("path", path), ("entries", toString history.entries.length)]
  | .error (.notFound path) => session.onDesk (·.noteMissing path)
  | .error e => session.note .error .session "Failed to autoload history" [("error", e.message)]

def start (config : Settings.Config) (environment : Settings.Environment) (host : Command.Host)
    (files : Files.Tree) (clock : Time.Clock) : Session :=
  let session := fresh config environment host files clock
  let session := if config.history.autoload then session.loadDefault else session
  session.note .info .session "Calculator initialized"
    [("commands", toString session.dispatcher.names.length),
     ("operations", toString session.dispatcher.operations.names.length),
     ("environment", environment.name)]

/-- Runs a command. Nothing is recorded. -/
def execute (session : Session) (policy : Policy) (name : String) (args : List String) :
    Reply × Session :=
  let (reply, state) := session.dispatcher.run policy name args session.state
  (reply, { session with state := state })

/-- Records a calculation at the time of the clock. -/
def record (session : Session) (operation inputs result : String) : Session :=
  (session.withHistory
    (session.history.add session.state.clock.now operation inputs result)).note
    .debug .history "Added history entry" [("operation", operation), ("inputs", inputs)]

/-- Whether a reply is the result of a calculation. -/
def isResult (reply : Reply) : Bool := reply.isCompleted && isRecordable reply.text

/-- Records a reply that is a result. -/
def recordReply (session : Session) (operation inputs : String) (reply : Reply) : Session :=
  if isResult reply then session.record operation inputs reply.text else session

def handleExpression (session : Session) (line : String) : Reply × Session :=
  let (reply, session) := session.execute .checked Command.Calculation.expressionName [line]
  (reply, session.recordReply Command.Calculation.expressionName line reply)

/-- Only the results of operations are recorded. -/
def handleCommand (session : Session) (name : String) (args : List String) : Reply × Session :=
  let (reply, session) := session.execute .unchecked name args
  if session.dispatcher.operations.contains name then
    (reply, session.recordReply name (" ".intercalate args) reply)
  else (reply, session)

def handle (session : Session) (line : String) : LineOutcome × Session :=
  match Route.ofLine session.dispatcher.contains line with
  | .skip => (.skip, session)
  | .exit => (.exit, session)
  | .expression line => (session.handleExpression line).map .reply id
  | .command name args => (session.handleCommand name args).map .reply id

/-- Saves a history with entries to the default file. -/
def saveDefault (session : Session) : Session :=
  if session.history.entries.isEmpty then session
  else
    let (result, files) := session.history.save session.files none
    match result with
    | .ok path => (session.withFiles files).onDesk (·.noteSaved path)
    | .error e =>
      (session.withFiles files).note .error .session "Failed to autosave history"
        [("error", e.message)]

def shutdown (session : Session) : Session :=
  let session := if session.config.history.autosave then session.saveDefault else session
  session.note .info .session "Application shutdown"

end Session

end Calculator
