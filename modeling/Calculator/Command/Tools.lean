import Calculator.Command.Script
import Calculator.Text.Lowercase

/-!
The commands about the program itself: clearing the screen, the system it runs on and the usage of
its commands.
-/

namespace Calculator.Command.Tools

/-- Erases the terminal and moves to its upper left corner. -/
def eraseScreen : String := "\x1b[2J\x1b[1;1H"

def clear : Command := .saying fun _ _ _ => eraseScreen ++ "Screen cleared successfully."

def systemLines (view : View) : List String :=
  ["\n=== System Information ===",
   s!"Calculator Version: {view.host.version}",
   s!"Platform: {view.host.platform}",
   s!"Current Time: {Time.stamp view.now}",
   s!"Calculator Process ID: {view.host.processId}",
   s!"System Architecture: {view.host.architecture}",
   s!"Environment: {view.environment.name}",
   s!"Working Directory: {view.host.workingFolder}"]

/-- Fails where the working directory has been deleted. -/
def systemInfo : Command := .plain fun _ view desk =>
  if desk.files.gone then (.error (.file .notFound), desk)
  else
    (.ok ("\n".intercalate (systemLines view)),
      desk.note .info .tools "Displayed system information")

/-- What is known about the runs of one command. -/
def usageOf (usage : Usage) (name : String) : String :=
  match usage.get? name with
  | some runs => runs.line name
  | none => s!"No statistics recorded for '{name}'."

def usageLines (usage : Usage) : List String :=
  "\n=== Command Statistics ===" :: usage.all.map fun (name, runs) => runs.line name

def usageText (usage : Usage) : String :=
  if usage.all.isEmpty then "No commands have been executed yet."
  else "\n".intercalate (usageLines usage)

/-- The usage of one command, named in any case, or of all. -/
def commandStats : Command := .saying fun args view _ =>
  match args with
  | [] => usageText view.usage
  | name :: _ => usageOf view.usage (Text.lowercase name)

end Calculator.Command.Tools
