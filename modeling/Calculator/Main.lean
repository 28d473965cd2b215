import Calculator.Program
import Std.Time.DateTime.Timestamp

/-!
The command line. The files that a line may touch are read from the disk before the line is handled,
and what has become of them is written back afterwards; all decisions are the program's.
-/

namespace Calculator.Main

open Files (Tree Location Item)

def diskPath (location : Location) : String := Files.Path.ofNames true location

/-- Puts what is on the disk at a location into a tree. -/
def gatherAt (tree : Tree) (location : Location) : IO Tree := do
  if location.isPrefixOf tree.home then return tree
  try
    if ← (← IO.FS.realPath (diskPath location)).isDir then return tree.put location .folder
    return tree.put location (.file (← IO.FS.readBinFile (diskPath location)))
  catch _ => return tree

/-- The location that a path names, if it leads through folders only. -/
def locationOf (tree : Tree) (path : String) : Location :=
  (Files.Path.steps path).foldl
    (fun location step =>
      if step = "." then location
      else if step = ".." then location.dropLast
      else location ++ [step])
    (tree.start path)

/-- Puts a path, its sibling and the folders on the way to them into a tree. -/
def gather (tree : Tree) (path : String) : IO Tree := do
  let mut tree := tree
  for path in [path, History.sibling path] do
    let location := locationOf tree path
    for length in List.range location.length do
      tree ← gatherAt tree (location.take (length + 1))
  return tree

def gatherAll (tree : Tree) (paths : List String) : IO Tree := paths.foldlM gather tree

/-- Writes a file in one step. -/
def writeFile (path : String) (content : ByteArray) : IO Unit := do
  IO.FS.writeBinFile (path ++ ".new") content
  IO.FS.rename (path ++ ".new") path

/-- Brings the disk from one tree to another. -/
def writeBack (before after : Tree) : IO Unit := do
  for (location, item) in after.items.reverse do
    if before.get? location != some item then
      match item with
      | .folder => IO.FS.createDir (diskPath location)
      | .file content => writeFile (diskPath location) content
  for (location, _) in before.items do
    if (after.get? location).isNone then IO.FS.removeFile (diskPath location)

/-- The bytes of the next line, with its end. -/
partial def readLineFrom (input : IO.FS.Stream) (line : ByteArray) : IO ByteArray := do
  let byte ← input.read 1
  if byte.isEmpty then return line
  let line := line ++ byte
  if byte.data[0]? = some Text.lineFeed then return line else readLineFrom input line

def nextInput (input : IO.FS.Stream) : IO Input := do
  let line ← readLineFrom input .empty
  return (Conversation.inputsIn line).headD .finished

def now : IO Int := return (← Std.Time.Timestamp.now).toSecondsSinceUnixEpoch.val

/-- The variables of the environment, which stand between NUL characters. -/
def readEnvironment : IO Settings.Environment := do
  let content ← try IO.FS.readFile "/proc/self/environ" catch _ => pure ""
  let pairs := (Text.splitAll (· == '\x00') content.toList).map fun cs =>
    (String.ofList (cs.takeWhile (· != '=')), String.ofList ((cs.dropWhile (· != '=')).drop 1))
  return .ofList pairs.reverse

def readHost : IO Command.Host := do
  let stat ← try IO.FS.readFile "/proc/self/stat" catch _ => pure ""
  let processId := String.ofList (stat.toList.takeWhile Char.isDigit)
  return ⟨"1.0.0", "linux", "x86_64", processId, (← IO.currentDir).toString⟩

/-- The paths that a line may touch. -/
def pathsOf (session : Session) : Input → List String
  | .line text =>
    session.config.history.path ::
      (Text.words text.toList).map fun word => Command.Recorded.sheetPath (String.ofList word)
  | _ => [session.config.history.path]

/-- The session at a time, with the running clock as it goes from one look to all later ones. -/
def atTimes (session : Session) (wall : Int) (started ended : Nat) : Session :=
  let clock := session.state.clock
  let clock : Time.Clock :=
    { clock with
      wall := fun _ => wall
      running := fun look => if look ≤ clock.looks then started else ended }
  { session with state := { session.state with clock := clock } }

/-- Takes a step twice: once to see how long it takes, and once with the clock set to that. -/
def timedStep (session : Session) (input : Input) :
    IO ((String × Session) × Option Ending) := do
  let wall ← now
  let started ← IO.monoNanosNow
  let _ ← IO.lazyPure fun _ => Conversation.step (atTimes session wall started started) input
  let ended ← IO.monoNanosNow
  return Conversation.step (atTimes session wall started ended) input

/-- Writes the notes of a session to the log and clears them. -/
def flushNotes (log : OpenLog) (session : Session) : IO Session := do
  let handle ← IO.FS.Handle.mk log.path .append
  handle.putStr (Program.logLines log session)
  let desk := { session.state.desk with notes := [] }
  return { session with state := { session.state with desk := desk } }

/-- Runs on the files that are on the disk now, and brings the disk up to date. -/
def onDisk {α : Type} (session : Session) (paths : List String)
    (act : Session → IO (α × Session)) : IO (α × Session) := do
  let tree ← gatherAll { home := session.files.home } paths
  let (result, session) ← act (session.withFiles tree)
  writeBack tree session.files
  return (result, session)

partial def converse (program : Program) (session : Session) (input output : IO.FS.Stream) :
    IO (Ending × Session) := do
  output.putStr program.prompt
  output.flush
  let read ← nextInput input
  let (ending, session) ← onDisk session (pathsOf session read) fun session => do
    let ((text, session), ending) ← timedStep session read
    output.putStr text
    return (ending, session)
  let session ← flushNotes program.log session
  match ending with
  | some ending => return (ending, session)
  | none => converse program session input output

def conclude (program : Program) (ending : Ending) (session : Session) : IO Unit := do
  let (_, session) ← onDisk session [session.config.history.path] fun session =>
    return ((), Conversation.closed session ending)
  let _ ← flushNotes program.log session

/-- What the program finds, with the files that it starts from. -/
def readSurroundings (arguments : List String) : IO Surroundings := do
  let host ← readHost
  let time ← now
  let surroundings : Surroundings :=
    { arguments := arguments
      environment := ← readEnvironment
      files := { home := Files.Path.steps host.workingFolder }
      clock := .still time 0
      host := host }
  let tree ← gatherAll surroundings.files (Program.earlyPaths surroundings)
  let config := (Settings.Config.loadOrDefault tree (Program.configPath surroundings)).toOption
  let paths := config.elim [] fun config => Program.startPaths config time
  return { surroundings with files := ← gatherAll tree paths }

def run (arguments : List String) : IO UInt32 := do
  let surroundings ← readSurroundings arguments
  match Program.start surroundings with
  | (.error e, files) =>
    writeBack surroundings.files files
    IO.eprintln e.message
    return UInt32.ofNat e.status
  | (.ok program, files) =>
    writeBack surroundings.files files
    let output ← IO.getStdout
    output.putStr Conversation.banner
    let session ← flushNotes program.log (Conversation.opened program.session)
    let (ending, session) ← converse program session (← IO.getStdin) output
    output.putStr ending.farewell
    conclude program ending session
    return UInt32.ofNat ending.status

end Calculator.Main

def main (arguments : List String) : IO UInt32 := Calculator.Main.run arguments
