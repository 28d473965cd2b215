import Calculator.Command.Script

/-!
The commands that tell what can be done: the help text and the menu of operations.
-/

namespace Calculator.Command.Guide

def helpLines : List String :=
  ["======= CALCULATOR COMMANDS =======",
   "",
   "Basic Operations:",
   "  add [number1] [number2] ...      - Add numbers together",
   "  subtract [number1] [number2] ... - Subtract subsequent numbers from the first",
   "  multiply [number1] [number2] ... - Multiply numbers together",
   "  divide [number1] [number2] ...   - Divide the first number by subsequent numbers",
   "",
   "Statistics:",
   "  mean [number1] [number2] ...     - Arithmetic mean of the numbers",
   "  median [n1] [n2] [n3] ...        - Median of three or more numbers",
   "  stddev [number1] [number2] ...   - Sample standard deviation",
   "",
   "Calculator Interface:",
   "  help                             - Show this help message",
   "  menu                             - Show available calculator operations",
   "  clear                            - Clear the screen",
   "  cls                              - Clear the screen (alias)",
   "  system-info                      - Show system information (alias: sysinfo)",
   "  command-stats                    - Show how often each command has run",
   "  exit                             - Exit the calculator",
   "",
   "Mathematical Expressions:",
   "  You can also enter expressions directly, like: 2+3*4",
   "  Operators apply strictly left to right; use parentheses to group.",
   "",
   "History Management:",
   "  history [limit]                  - Show calculation history (optional: limit entries)",
   "  history-save [filepath]          - Save history to CSV file (default: data/history.csv)",
   "                                     (Can also use \"history save\")",
   "  history-load [filepath]          - Load history from CSV file",
   "                                     (Can also use \"history load\")",
   "  history-clear                    - Clear all history entries",
   "                                     (Can also use \"history clear\")",
   "  history-delete [index]           - Delete a specific history entry",
   "                                     (Can also use \"history delete\")",
   "  history-stats                    - Show statistics about your calculations",
   "                                     (Can also use \"history stats\")",
   "  history-search [term]            - Search history for matching entries",
   "                                     (Can also use \"history search\")",
   "",
   "Examples:",
   "  add 5 10 15      => Result: 30.0",
   "  subtract 20 5 3  => Result: 12.0",
   "  multiply 2 3 4   => Result: 24.0",
   "  divide 100 4 5   => Result: 5.0",
   "  5+10-2           => Result: 13.0",
   "  history 5        => Shows the last 5 entries in history",
   "  history stats    => Shows statistics about your calculations"]

def helpText : String := "\n".intercalate helpLines

def help : Command := .saying fun _ _ _ => helpText

/-- An operation in the menu. -/
def menuLine (operations : Operation.Catalogue) (name : String) : String :=
  let description := (operations.create? name).elim "No description available" Operation.description
  s!"{name}: {description}"

def menuLines (operations : Operation.Catalogue) : List String :=
  "\n=== Available Calculator Operations ===" :: operations.names.map (menuLine operations) ++
    ["",
     "To use an operation, type its name followed by the numbers to operate on.",
     "Example: 'add 5 10 15' to add the numbers 5, 10, and 15.",
     "",
     "Type 'help' for more information on using the calculator."]

def menu : Command := .plain fun _ view desk =>
  if view.operations.names.isEmpty then
    (.ok "No calculator operations are currently available.", desk)
  else
    (.ok ("\n".intercalate (menuLines view.operations)),
      desk.note .info .guide "Menu displayed" [("operations", toString view.operations.names.length)])

end Calculator.Command.Guide
