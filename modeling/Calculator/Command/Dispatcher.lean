import Calculator.Command.Script
import Calculator.Time.Clock

/-!
The dispatcher runs commands by name, times them and counts them. A command that breaks off is counted
like any other, and its failure becomes a reply.
-/

namespace Calculator.Command

/-- All that may be different after a command. -/
structure State where
  desk : Desk
  usage : Usage := {}
  clock : Time.Clock

def State.note (state : State) (level : Log.Level) (topic : Log.Topic) (text : String)
    (details : List Log.Detail := []) : State :=
  { state with desk := state.desk.note level topic text details }

/-- The state inside of runs. -/
def State.within (state : State) (runs : List Log.Run) : State :=
  { state with desk := { state.desk with runs := runs } }

/-- Asking for a command by name. -/
abbrev Dispatch := Policy → String → List String → State → Reply × State

structure Dispatcher where
  commands : Register Command := .empty
  operations : Operation.Catalogue := {}
  environment : Settings.Environment := {}
  host : Host

namespace Dispatcher

/-- Files a command under a name, and refuses a blank name. -/
def add? (dispatcher : Dispatcher) (name : String) (command : Command) : Option Dispatcher :=
  if Text.isBlankName name then none
  else some { dispatcher with commands := dispatcher.commands.insert name command }

def contains (dispatcher : Dispatcher) (name : String) : Bool := dispatcher.commands.contains name

def names (dispatcher : Dispatcher) : List String := dispatcher.commands.names

def view (dispatcher : Dispatcher) (state : State) : View where
  operations := dispatcher.operations
  environment := dispatcher.environment
  host := dispatcher.host
  usage := state.usage
  now := state.clock.now

/-- The fault of commands that ask for commands without end. -/
def tooDeep : Fault := .said "too many commands inside one another"

/-- Follows a script. It may ask for commands only where there is an `inner` dispatch. -/
def follow (dispatcher : Dispatcher) (inner : Option Dispatch) : Script → State → Outcome × State
  | .finish outcome, state => (outcome, state)
  | .look next, state => follow dispatcher inner (next (dispatcher.view state) state.desk) state
  | .change desk next, state => follow dispatcher inner next { state with desk := desk }
  | .ask policy name args next, state =>
    match inner with
    | none => (.error (.fault tooDeep), state)
    | some dispatch =>
      let (reply, state) := dispatch policy name args state
      follow dispatcher inner (next reply) state

/-- Follows a script in a run. What is noted meanwhile is noted in that run. -/
def followIn (dispatcher : Dispatcher) (run : Log.Run) (inner : Option Dispatch) (script : Script)
    (state : State) : Outcome × State :=
  let runs := state.desk.runs
  let (outcome, state) := dispatcher.follow inner script (state.within (run :: runs))
  (outcome, state.within runs)

/-- Runs a command between two looks at the clock, and counts the run. -/
def invoke (dispatcher : Dispatcher) (inner : Option Dispatch) (run : Log.Run) (script : Script)
    (state : State) : Outcome × State :=
  let (started, clock) := state.clock.look
  let (outcome, state) := dispatcher.followIn run inner script { state with clock := clock }
  let (ended, clock) := state.clock.look
  (outcome, { state with
    usage := state.usage.record run.command (ended - started) clock.now
    clock := clock })

/-- Runs the command of a name, if there is one. -/
def attempt? (dispatcher : Dispatcher) (inner : Option Dispatch) (name : String) (args : List String)
    (state : State) : Option (Outcome × State) :=
  (dispatcher.commands.get? name).map fun command =>
    dispatcher.invoke inner ⟨name, args.length⟩ (command args) state

/-- The reply to an outcome, with a note about it. -/
def report (name : String) (outcome : Outcome) (state : State) : Reply × State :=
  (.ofOutcome name outcome,
    match outcome with
    | .ok _ => state.note .info .dispatch "Command executed" [("command", name)]
    | .error e =>
      state.note .error .dispatch "Command failed"
        [("command", name), ("error", e.message), ("kind", e.kind)])

/-- The reply to a name that no command has. -/
def unknown (name hint : String) (state : State) : Reply × State :=
  (⟨.unknown, s!"Unknown command: '{name}'{hint}"⟩,
    state.note .warn .dispatch "Unknown command" [("command", name)])

/-- The reply to what has been tried. -/
def settle (name hint : String) (state : State) : Option (Outcome × State) → Reply × State
  | none => unknown name hint state
  | some (outcome, state) => report name outcome state

def step (dispatcher : Dispatcher) (inner : Option Dispatch) : Dispatch
  | .checked, name, args, state =>
    if dispatcher.contains name then settle name "" state (dispatcher.attempt? inner name args state)
    else unknown name "" state
  | .unchecked, name, args, state =>
    settle name ". Type 'help' for available commands." state (dispatcher.attempt? inner name args state)

/-- Runs a command, inside which commands may run inside one another up to a depth. -/
def dispatch (dispatcher : Dispatcher) : Nat → Dispatch
  | 0, policy, name, args, state => dispatcher.step none policy name args state
  | depth + 1, policy, name, args, state =>
    dispatcher.step (some (dispatch dispatcher depth)) policy name args state

/-- How deep commands may run inside one another. -/
def maxDepth : Nat := 1000000000

def run (dispatcher : Dispatcher) : Dispatch := dispatcher.dispatch maxDepth

end Dispatcher

end Calculator.Command
