import Calculator.Proofs.Command.Running

/-!
The course of dispatches: which calls of commands there are, one inside another and one after
another, and what is seen of the usage in between. A course is told beside the dispatcher, from what
the dispatcher does.
-/

namespace Calculator.Command

/-- A run of a command, from one look at the running clock to another. -/
structure Call where
  name : String
  start : Nat
  stop : Nat
deriving DecidableEq, Repr

namespace Call

def elapsed (clock : Time.Clock) (call : Call) : Nat :=
  clock.running call.stop - clock.running call.start

/-- The time on the wall when the call has ended. -/
def stamp (clock : Time.Clock) (call : Call) : Int := clock.wall (call.stop + 1)

end Call

/-- What happens, from first to last: a look at what may be known, a dispatch of a name that no command
has, or a call with what happens inside it. -/
inductive Course where
  | done
  | looked (usage : Usage) (rest : Course)
  | missed (name : String) (rest : Course)
  | ran (call : Call) (inside rest : Course)

namespace Course

def append : Course → Course → Course
  | done, next => next
  | looked usage rest, next => looked usage (rest.append next)
  | missed name rest, next => missed name (rest.append next)
  | ran call inside rest, next => ran call inside (rest.append next)

/-- The calls that are not inside another one. -/
def calls : Course → List Call
  | done => []
  | looked _ rest => rest.calls
  | missed _ rest => rest.calls
  | ran call _ rest => call :: rest.calls

/-- All calls in the order in which they end. -/
def ends : Course → List Call
  | done => []
  | looked _ rest => rest.ends
  | missed _ rest => rest.ends
  | ran call inside rest => inside.ends ++ call :: rest.ends

/-- What is seen of the usage, with the calls that have ended before. -/
def seen : List Call → Course → List (List Call × Usage)
  | _, done => []
  | ended, looked usage rest => (ended, usage) :: seen ended rest
  | ended, missed _ rest => seen ended rest
  | ended, ran call inside rest =>
    seen ended inside ++ seen (ended ++ inside.ends ++ [call]) rest

/-- Each call with the calls that it makes itself. -/
def families : Course → List (Call × List Call)
  | done => []
  | looked _ rest => rest.families
  | missed _ rest => rest.families
  | ran call inside rest => (call, inside.calls) :: (inside.families ++ rest.families)

variable (first next : Course)

theorem calls_append : (first.append next).calls = first.calls ++ next.calls := by
  induction first with
  | done => rfl
  | looked usage rest ih => exact ih
  | missed name rest ih => exact ih
  | ran call inside rest _ ih => exact congrArg (call :: ·) ih

theorem ends_append : (first.append next).ends = first.ends ++ next.ends := by
  induction first with
  | done => rfl
  | looked usage rest ih => exact ih
  | missed name rest ih => exact ih
  | ran call inside rest _ ih => simp [append, ends, ih]

theorem seen_append (ended : List Call) :
    (first.append next).seen ended = first.seen ended ++ next.seen (ended ++ first.ends) := by
  induction first generalizing ended with
  | done => simp [append, seen, ends]
  | looked usage rest ih => exact congrArg ((ended, usage) :: ·) (ih ended)
  | missed name rest ih => exact ih ended
  | ran call inside rest _ ih => simp [append, seen, ends, ih]

theorem families_append : (first.append next).families = first.families ++ next.families := by
  induction first with
  | done => rfl
  | looked usage rest ih => exact ih
  | missed name rest ih => exact ih
  | ran call inside rest _ ih => simp [append, families, ih]

end Course

namespace Dispatcher

/-- What tells the course of a dispatch. -/
abbrev Teller := Policy → String → List String → State → Course

/-- The course of a script. -/
def scriptCourse (dispatcher : Dispatcher) (inner : Option (Dispatch × Teller)) :
    Script → State → Course
  | .finish _, _ => .done
  | .look next, state =>
    .looked state.usage (scriptCourse dispatcher inner (next (dispatcher.view state) state.desk) state)
  | .change desk next, state => scriptCourse dispatcher inner next { state with desk := desk }
  | .ask policy name args next, state =>
    match inner with
    | none => .done
    | some (dispatch, tell) =>
      let (reply, after) := dispatch policy name args state
      (tell policy name args state).append (scriptCourse dispatcher inner (next reply) after)

/-- The course of a call: it starts with one look at the running clock and ends with another. -/
def callCourse (dispatcher : Dispatcher) (inner : Option (Dispatch × Teller)) (run : Log.Run)
    (script : Script) (state : State) : Course :=
  let begun : State := { state with clock := state.clock.look.2 }
  let ended := (dispatcher.followIn run (inner.map Prod.fst) script begun).2
  .ran ⟨run.command, state.clock.looks, ended.clock.looks⟩
    (dispatcher.scriptCourse inner script (begun.within (run :: begun.desk.runs))) .done

/-- The course of a dispatch: a call, if the name is the name of a command. -/
def stepCourse (dispatcher : Dispatcher) (inner : Option (Dispatch × Teller)) : Teller :=
  fun _ name args state =>
    match dispatcher.commands.get? name with
    | none => .missed name .done
    | some command => dispatcher.callCourse inner ⟨name, args.length⟩ (command args) state

/-- The course of a dispatch inside which commands may run inside one another up to a depth. -/
def course (dispatcher : Dispatcher) : Nat → Teller
  | 0, policy, name, args, state => dispatcher.stepCourse none policy name args state
  | depth + 1, policy, name, args, state =>
    dispatcher.stepCourse (some (dispatcher.dispatch depth, course dispatcher depth)) policy name args
      state

end Dispatcher

/-- What may happen to a dispatcher: a command is filed, what commands work on is replaced, or a command
is asked for. -/
inductive Event where
  | file (name : String) (command : Command)
  | supply (operations : Operation.Catalogue) (environment : Settings.Environment) (host : Host)
      (desk : Desk)
  | dispatch (policy : Policy) (name : String) (args : List String)

namespace Event

variable (depth : Nat)

def apply : Event → Dispatcher × State → Dispatcher × State
  | file name command, (dispatcher, state) =>
    ((dispatcher.add? name command).getD dispatcher, state)
  | supply operations environment host desk, (dispatcher, state) =>
    ({ dispatcher with operations := operations, environment := environment, host := host },
      { state with desk := desk })
  | dispatch policy name args, (dispatcher, state) =>
    (dispatcher, (dispatcher.dispatch depth policy name args state).2)

def course : Event → Dispatcher × State → Course
  | dispatch policy name args, (dispatcher, state) =>
    dispatcher.course depth policy name args state
  | _, _ => .done

/-- The dispatcher and its state after one event and another. -/
def applyAll (events : List Event) (world : Dispatcher × State) : Dispatcher × State :=
  events.foldl (fun world event => event.apply depth world) world

/-- The course of one event after another. -/
def courseAll : List Event → Dispatcher × State → Course
  | [], _ => .done
  | event :: events, world => (event.course depth world).append (courseAll events (event.apply depth world))

end Event

end Calculator.Command
