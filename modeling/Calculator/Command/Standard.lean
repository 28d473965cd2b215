import Calculator.Command.Calculation
import Calculator.Command.Dispatcher
import Calculator.Command.Guide
import Calculator.Command.Recorded
import Calculator.Command.Tools

/-!
The standard commands by name. Commands on the history have a name with a hyphen and one without.
-/

namespace Calculator.Command

/-- Commands on the history by their verbs. -/
def historyVerbs : List (String × Command) :=
  [("save", Recorded.save), ("load", Recorded.load), ("clear", Recorded.clear),
   ("delete", Recorded.delete), ("stats", Recorded.stats), ("search", Recorded.search)]

def historyCommands : List (String × Command) :=
  ("history", Recorded.display) :: historyVerbs.flatMap fun (verb, command) =>
    [("history-" ++ verb, command), ("history" ++ verb, command)]

def toolCommands : List (String × Command) :=
  [("clear", Tools.clear), ("cls", Tools.clear), ("system-info", Tools.systemInfo),
   ("sysinfo", Tools.systemInfo), ("command-stats", Tools.commandStats), ("menu", Guide.menu),
   ("help", Guide.help), (Calculation.expressionName, Calculation.expression)]

/-- One command for each operation, under its name. -/
def operationCommands (operations : Operation.Catalogue) : List (String × Command) :=
  operations.names.map fun name => (name, Calculation.operation name)

/-- All standard commands, in the order in which they are filed. -/
def standardCommands (operations : Operation.Catalogue) : List (String × Command) :=
  operationCommands operations ++ historyCommands ++ toolCommands

namespace Dispatcher

/-- Files commands one after the other; a blank name is passed over. -/
def addAll (dispatcher : Dispatcher) (commands : List (String × Command)) : Dispatcher :=
  commands.foldl (fun dispatcher (name, command) => (dispatcher.add? name command).getD dispatcher)
    dispatcher

/-- Files all standard commands. -/
def addStandard (dispatcher : Dispatcher) : Dispatcher :=
  dispatcher.addAll (standardCommands dispatcher.operations)

end Dispatcher

end Calculator.Command
