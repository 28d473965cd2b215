import Calculator.Proofs.Command.Effects

/-!
What a session keeps while lines are handled, and which lines can touch the files.
-/

namespace Calculator

namespace History

theorem load_eq (h : History) (tree : Files.Tree) (path? : Option String) :
    h.load tree path? = (loadEntries tree (path?.getD h.defaultPath)).map fun entries =>
      (path?.getD h.defaultPath, { h with entries := entries }) := rfl

theorem defaultPath_load {h next : History} {tree : Files.Tree} {path? : Option String} {path : String}
    (hl : h.load tree path? = .ok (path, next)) : next.defaultPath = h.defaultPath := by
  rw [load_eq] at hl
  cases he : loadEntries tree (path?.getD h.defaultPath) with
  | error e =>
    rw [he] at hl
    cases hl
  | ok entries =>
    rw [he] at hl
    cases hl
    rfl

theorem defaultPath_delete? {h next : History} {index : Nat} {entry : Entry}
    (hd : h.delete? index = some (entry, next)) : next.defaultPath = h.defaultPath := by
  obtain ⟨_, -, he⟩ := Option.map_eq_some_iff.mp hd
  cases he
  rfl

end History

namespace Command.Effect

variable {name : String} {before after : Desk}

theorem defaultPath_eq (h : Effect name before after) :
    after.history.defaultPath = before.history.defaultPath := by
  cases h with
  | none hh _ => rw [hh]
  | saved _ _ hh _ => rw [hh]
  | loaded _ path? path hl _ => exact History.defaultPath_load hl
  | cleared _ hh _ =>
    rw [hh]
    rfl
  | deleted _ index entry hd _ => exact History.defaultPath_delete? hd

theorem files_eq (h : Effect name before after) (hn : name ∉ spellings "save") :
    after.files = before.files := by
  cases h with
  | saved hs => exact absurd hs hn
  | none _ hf => exact hf
  | loaded _ _ _ _ hf => exact hf
  | cleared _ _ hf => exact hf
  | deleted _ _ _ _ hf => exact hf

end Command.Effect

/-- The name of the command that a line goes to. -/
def Route.commandName? : Route → Option String
  | command name _ => some name
  | _ => none

namespace Session

open Command (Policy Reply Effect spellings)

/-- The session after lines have been handled one by one. -/
def handleAll (session : Session) (lines : List String) : Session :=
  lines.foldl (fun session line => (session.handle line).2) session

/-- No line goes to the command of a verb on the history. -/
def Avoids (environment : Settings.Environment) (host : Command.Host) (verb : String)
    (lines : List String) : Prop :=
  ∀ line ∈ lines, ∀ name ∈ (Route.ofLine (dispatcherIn environment host).contains line).commandName?,
    name ∉ spellings verb

instance (environment : Settings.Environment) (host : Command.Host) (verb : String)
    (lines : List String) : Decidable (Avoids environment host verb lines) :=
  inferInstanceAs (Decidable (∀ line ∈ lines,
    ∀ name ∈ (Route.ofLine (dispatcherIn environment host).contains line).commandName?,
      name ∉ spellings verb))

def nowhere : Command.Host := ⟨"", "", "", "", ""⟩

/-- What a session keeps from its start on. -/
structure BuiltFrom (config : Settings.Config) (environment : Settings.Environment)
    (host : Command.Host) (session : Session) : Prop where
  config_eq : session.config = config
  dispatcher_eq : session.dispatcher = dispatcherIn environment host
  defaultPath_eq : session.history.defaultPath = config.history.path

variable {config : Settings.Config} {environment : Settings.Environment} {host : Command.Host}
  {session : Session} {files : Files.Tree} {clock : Time.Clock} {name line : String}

theorem effect_execute (h : BuiltFrom config environment host session) (policy : Policy)
    (name : String) (args : List String) :
    Effect name session.state.desk (session.execute policy name args).2.state.desk := by
  refine Command.Dispatcher.effect_run (fun command hc => ?_) policy args session.state
  rw [h.dispatcher_eq] at hc
  exact Command.Dispatcher.hasEffect_of_get?_addStandard hc

/-- A line is passed over, goes to the evaluator, or goes to a command; the reply may be recorded. -/
theorem handle_cases (session : Session) (line : String) :
    (session.handle line).2 = session ∨
      (∃ text, Route.ofLine session.dispatcher.contains line = .expression text ∧
        let executed := session.execute .checked Command.Calculation.expressionName [text]
        (session.handle line).2 =
          executed.2.recordReply Command.Calculation.expressionName text executed.1) ∨
      ∃ name args, Route.ofLine session.dispatcher.contains line = .command name args ∧
        let executed := session.execute .unchecked name args
        (session.handle line).2 =
          if executed.2.dispatcher.operations.contains name then
            executed.2.recordReply name (" ".intercalate args) executed.1
          else executed.2 := by
  unfold handle
  cases hr : Route.ofLine session.dispatcher.contains line with
  | skip => exact .inl rfl
  | exit => exact .inl rfl
  | expression text =>
    refine .inr (.inl ⟨text, rfl, ?_⟩)
    simp only [handleExpression]
    generalize session.execute .checked Command.Calculation.expressionName [text] = executed
    rfl
  | command name args =>
    refine .inr (.inr ⟨name, args, rfl, ?_⟩)
    simp only [handleCommand]
    generalize session.execute .unchecked name args = executed
    obtain ⟨reply, after⟩ := executed
    dsimp only
    split <;> rfl

/-- What a line for a command replies and leaves, where the command is that of no operation. -/
theorem handle_of_command {args : List String}
    (hr : Route.ofLine session.dispatcher.contains line = .command name args)
    (hn : session.dispatcher.operations.contains name = false) :
    session.handle line =
      (.reply (session.execute .unchecked name args).1, (session.execute .unchecked name args).2) := by
  have hc : (session.execute .unchecked name args).2.dispatcher.operations.contains name = false := hn
  unfold handle
  rw [hr]
  dsimp only [handleCommand]
  rw [hc]
  rfl

namespace BuiltFrom

theorem execute (h : BuiltFrom config environment host session) (policy : Policy) (name : String)
    (args : List String) : BuiltFrom config environment host (session.execute policy name args).2 :=
  ⟨h.config_eq, h.dispatcher_eq, (effect_execute h policy name args).defaultPath_eq.trans h.defaultPath_eq⟩

theorem recordReply (h : BuiltFrom config environment host session) (operation inputs : String)
    (reply : Reply) : BuiltFrom config environment host (session.recordReply operation inputs reply) := by
  unfold Session.recordReply
  split
  · exact ⟨h.config_eq, h.dispatcher_eq, h.defaultPath_eq⟩
  · exact h

theorem handle (h : BuiltFrom config environment host session) (line : String) :
    BuiltFrom config environment host (session.handle line).2 := by
  rcases session.handle_cases line with hs | ⟨text, -, hs⟩ | ⟨name, args, -, hs⟩
  · rw [hs]
    exact h
  · rw [hs]
    exact (h.execute .checked _ [text]).recordReply _ text _
  · rw [hs]
    split
    · exact (h.execute .unchecked name args).recordReply name _ _
    · exact h.execute .unchecked name args

theorem handleAll (h : BuiltFrom config environment host session) (lines : List String) :
    BuiltFrom config environment host (session.handleAll lines) := by
  induction lines generalizing session with
  | nil => exact h
  | cons line lines ih => exact ih (h.handle line)

end BuiltFrom

theorem files_recordReply (session : Session) (operation inputs : String) (reply : Reply) :
    (session.recordReply operation inputs reply).files = session.files := by
  unfold recordReply
  split <;> rfl

theorem dispatcher_recordReply (session : Session) (operation inputs : String)
    (reply : Reply) :
    (session.recordReply operation inputs reply).dispatcher = session.dispatcher := by
  unfold recordReply
  split <;> rfl

theorem dispatcher_handle (session : Session) (line : String) :
    (session.handle line).2.dispatcher = session.dispatcher := by
  rcases session.handle_cases line with hs | ⟨text, -, hs⟩ | ⟨name, args, -, hs⟩
  · rw [hs]
  · rw [hs]
    exact dispatcher_recordReply ..
  · rw [hs]
    split
    · exact dispatcher_recordReply ..
    · rfl

/-- No line touches a file but one that goes to a command that saves. -/
theorem files_handle (h : BuiltFrom config environment host session)
    (hl : ∀ name ∈ (Route.ofLine session.dispatcher.contains line).commandName?,
      name ∉ spellings "save") : (session.handle line).2.files = session.files := by
  rcases session.handle_cases line with hs | ⟨text, -, hs⟩ | ⟨name, args, hr, hs⟩
  · rw [hs]
  · have hn : Command.Calculation.expressionName ∉ spellings "save" := by decide
    rw [hs, files_recordReply]
    exact (effect_execute h .checked _ [text]).files_eq hn
  · have hn : name ∉ spellings "save" := hl name (by rw [hr]; rfl)
    have hf := (effect_execute h .unchecked name args).files_eq hn
    rw [hs]
    split
    · exact (files_recordReply ..).trans hf
    · exact hf

theorem files_handleAll {lines : List String} (h : BuiltFrom config environment host session)
    (hl : Avoids environment host "save" lines) : (session.handleAll lines).files = session.files := by
  induction lines generalizing session with
  | nil => rfl
  | cons line lines ih =>
    have hone : (session.handle line).2.files = session.files :=
      files_handle h (h.dispatcher_eq ▸ hl line List.mem_cons_self)
    exact (ih (h.handle line) fun line hm => hl line (List.mem_cons_of_mem _ hm)).trans hone

/-- Loading the default file touches no file, and a file that cannot be loaded changes nothing. -/
theorem loadDefault_cases (session : Session) :
    session.loadDefault.config = session.config ∧
      session.loadDefault.dispatcher = session.dispatcher ∧
      session.loadDefault.files = session.files ∧
      session.loadDefault.history = { session.history with
        entries := (History.loadEntries session.files session.history.defaultPath).toOption.getD
          session.history.entries } := by
  unfold loadDefault
  rw [History.load_eq, Option.getD_none]
  cases History.loadEntries session.files session.history.defaultPath with
  | ok entries => exact ⟨rfl, rfl, rfl, rfl⟩
  | error e => cases e <;> exact ⟨rfl, rfl, rfl, rfl⟩

theorem builtFrom_start (config : Settings.Config) (environment : Settings.Environment)
    (host : Command.Host) (files : Files.Tree) (clock : Time.Clock) :
    BuiltFrom config environment host (start config environment host files clock) := by
  unfold start
  dsimp only
  split
  · obtain ⟨hc, hd, -, hh⟩ := (fresh config environment host files clock).loadDefault_cases
    exact ⟨hc, hd, congrArg History.defaultPath hh⟩
  · exact ⟨rfl, rfl, rfl⟩

theorem files_start (config : Settings.Config) (environment : Settings.Environment)
    (host : Command.Host) (files : Files.Tree) (clock : Time.Clock) :
    (start config environment host files clock).files = files := by
  unfold start
  dsimp only
  split
  · exact (fresh config environment host files clock).loadDefault_cases.2.2.1
  · rfl

theorem entries_start (environment : Settings.Environment) (host : Command.Host)
    (files : Files.Tree) (clock : Time.Clock) (h : config.history.autoload = true) :
    (start config environment host files clock).history.entries =
      (History.loadEntries files config.history.path).toOption.getD [] := by
  unfold start
  dsimp only
  rw [if_pos h]
  exact congrArg History.entries (fresh config environment host files clock).loadDefault_cases.2.2.2

/-- A shutdown with autosave saves a history with entries and touches no file otherwise. -/
theorem files_shutdown (h : session.config.history.autosave = true) :
    session.shutdown.files =
      if session.history.entries.isEmpty then session.files
      else (session.history.save session.files none).2 := by
  unfold shutdown saveDefault
  dsimp only
  rw [if_pos h]
  split
  · rfl
  · generalize session.history.save session.files none = saved
    obtain ⟨result, files⟩ := saved
    cases result <;> rfl

end Session

end Calculator
