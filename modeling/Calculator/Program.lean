import Calculator.Conversation
import Calculator.Log.Filter
import Calculator.Settings.EnvFile

/-!
The whole program: it reads the environment file and the configuration, opens the log, and holds a
conversation. It fails only where it cannot start.
-/

namespace Calculator

/-- What the program finds when it starts. -/
structure Surroundings where
  arguments : List String := []
  environment : Settings.Environment := {}
  files : Files.Tree := {}
  clock : Time.Clock
  host : Command.Host

inductive StartError where
  | config (path : String)
  | logFolder (path : String)
  /-- The process cannot go on. -/
  | broken
deriving DecidableEq, Repr

namespace StartError

def message : StartError → String
  | config path => s!"Error: failed to load config '{path}'"
  | logFolder path => s!"Error: failed to create log directory '{path}'"
  | broken => "Error: broken off"

def status : StartError → Nat
  | broken => Fault.status
  | _ => 1

end StartError

/-- A log that is open: its file, what was in it before, and which notes it takes. -/
structure OpenLog where
  path : String
  before : ByteArray
  filter : Log.Filter

/-- The program between its start and its conversation. -/
structure Program where
  session : Session
  log : OpenLog
  prompt : String

namespace Program

def envFile : String := ".env"

/-- The environment with the variables of the environment file, if there is one. -/
def completeEnvironment (s : Surroundings) : Option Settings.Environment :=
  match s.files.find envFile with
  | .ok (.file content) => Settings.EnvFile.extend? s.environment content
  | _ => some s.environment

/-- The configuration file is the first argument. -/
def configPath (s : Surroundings) : String := s.arguments.head?.getD "abacus.toml"

/-- The filter of a log: by the program's own variable, by the customary one if it holds a filter, or by
the configuration. There is none if a rule is torn. -/
def logFilter (logging : Settings.LoggingSection) (env : Settings.Environment) :
    Except Log.RuleError Log.Filter :=
  match env.logLevel?.bind Log.Level.ofName? with
  | some level => .ok (.level level)
  | none =>
    match (env.get? "RUST_LOG").elim (.error .malformed) Log.Filter.read with
    | .error .malformed => Log.Filter.readSome logging.level
    | filter => filter

/-- The path of the log. A log without a name is named for the day. -/
def logPath (logging : Settings.LoggingSection) (now : Int) : String :=
  let name :=
    if logging.file = "" then String.ofList (Time.Date.ofDays (now / 86400)).text else logging.file
  Files.Path.join logging.directory name

/-- Makes sure that there is a file for the log, and gives what is in it. -/
def openLogFile (files : Files.Tree) (path : String) : Files.Outcome ByteArray :=
  let (opened, tree) := files.append path .empty
  match opened, tree.find path with
  | .ok (), .ok (.file content) => (.ok content, tree)
  | .error e, _ => (.error e, tree)
  | _, _ => (.error .notFound, tree)

/-- Where a file for the log cannot be opened, the folder that it lies in is made. -/
def openLogIn (files : Files.Tree) (path : String) : Files.Outcome ByteArray :=
  match openLogFile files path, Files.Path.parent? path with
  | (.error _, tree), some parent =>
    match tree.makeFolders parent with
    | (.ok (), tree) => openLogFile tree path
    | (.error e, tree) => (.error e, tree)
  | opened, _ => opened

/-- Makes the folder of the log and opens its file. -/
def openLog (config : Settings.Config) (env : Settings.Environment) (now : Int)
    (files : Files.Tree) : Except StartError OpenLog × Files.Tree :=
  match files.makeFolders config.logging.directory with
  | (.error _, files) => (.error (.logFolder config.logging.directory), files)
  | (.ok (), files) =>
    let path := logPath config.logging now
    match openLogIn files path, logFilter config.logging env with
    | (.ok before, files), .ok filter => (.ok ⟨path, before, filter⟩, files)
    | (_, files), _ => (.error .broken, files)

/-- Terminals on which lines cannot be edited. The prompt is printed for them. -/
def plainTerminals : List String := ["dumb", "cons25", "emacs"]

def promptFor (config : Settings.Config) (env : Settings.Environment) : String :=
  if (env.get? "TERM").any fun name => plainTerminals.any (Text.sameLetters name) then
    config.repl.prompt
  else ""

/-- Starts with an environment and a configuration. -/
def startWith (s : Surroundings) (env : Settings.Environment) (config : Settings.Config) :
    Except StartError Program × Files.Tree :=
  match openLog config env s.clock.now s.files with
  | (.error e, files) => (.error e, files)
  | (.ok log, files) =>
    let session := Session.start config env s.host files s.clock
    let details :=
      [("version", s.host.version), ("config", configPath s), ("environment", env.name)]
    (.ok ⟨session.note .info .program "Starting" details, log, promptFor config env⟩, files)

def start (s : Surroundings) : Except StartError Program × Files.Tree :=
  match completeEnvironment s with
  | none => (.error .broken, s.files)
  | some env =>
    match Settings.Config.loadOrDefault s.files (configPath s) with
    | .error _ => (.error (.config (configPath s)), s.files)
    | .ok config => startWith s env config

/-- The paths that are looked at before the configuration is known. -/
def earlyPaths (s : Surroundings) : List String := [envFile, configPath s]

/-- The paths that a program with a configuration starts from. -/
def startPaths (config : Settings.Config) (now : Int) : List String :=
  [config.logging.directory, logPath config.logging now, config.history.path]

/-- The lines that a log takes of the notes of a session. -/
def logLines (log : OpenLog) (session : Session) : String :=
  String.join ((session.state.desk.notes.reverse.filter log.filter.takes).map
    (·.line session.state.clock.now))

/-- Adds lines to the file of a log, unless another file has taken its place. -/
def writeLog (log : OpenLog) (lines : String) (files : Files.Tree) : Files.Tree :=
  match files.find log.path with
  | .ok (.file content) =>
    if content == log.before then (files.append log.path lines.toUTF8).2 else files
  | _ => files

/-- What is left of a run. -/
structure Result where
  status : Nat
  printed : String
  complaint : String
  files : Files.Tree

def converse (program : Program) (input : ByteArray) : Result :=
  let transcript :=
    Conversation.run program.prompt program.session (Conversation.inputsIn input)
  let session := transcript.session
  { status := transcript.ending.status
    printed := String.join transcript.printed
    complaint := ""
    files := writeLog program.log (logLines program.log session) session.files }

/-- The program from its start to its end. -/
def run (s : Surroundings) (input : ByteArray) : Result :=
  match start s with
  | (.error e, files) => ⟨e.status, "", e.message, files⟩
  | (.ok program, _) => program.converse input

end Program

end Calculator
