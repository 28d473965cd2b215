import Calculator.Session

/-!
What running a command comes to: which command a name has among the standard ones, and what is left of
a command that looks once and changes the desk once.
-/

namespace Calculator.Command.Dispatcher

variable {dispatcher : Dispatcher} {name other : String} {command : Command}

theorem get?_add? (hb : Text.isBlankName name = false) :
    ((dispatcher.add? name command).getD dispatcher).commands.get? name = some command := by
  simp [add?, hb]

theorem get?_add?_of_ne (h : name ≠ other) :
    ((dispatcher.add? other command).getD dispatcher).commands.get? name =
      dispatcher.commands.get? name := by
  unfold add?
  split
  · rfl
  · exact Register.get?_insert_of_ne _ _ h

theorem get?_addAll_of_not_mem {commands : List (String × Command)}
    (h : name ∉ commands.map Prod.fst) :
    (dispatcher.addAll commands).commands.get? name = dispatcher.commands.get? name := by
  induction commands generalizing dispatcher with
  | nil => rfl
  | cons entry commands ih =>
    obtain ⟨hne, hn⟩ := not_or.mp (mt List.mem_cons.mpr h)
    exact (ih hn).trans (get?_add?_of_ne hne)

/-- Of several commands that are filed under one name the last one counts. -/
theorem get?_addAll {before after : List (String × Command)} (hb : Text.isBlankName name = false)
    (h : name ∉ after.map Prod.fst) :
    (dispatcher.addAll (before ++ (name, command) :: after)).commands.get? name = some command := by
  let first := dispatcher.addAll before
  have ha : dispatcher.addAll (before ++ (name, command) :: after) =
      ((first.add? name command).getD first).addAll after := by
    simp [first, addAll]
  rw [ha, get?_addAll_of_not_mem h, get?_add? hb]

/-- The commands on the history are found under their names, whatever the operations are called. -/
theorem get?_addStandard (hm : (name, command) ∈ historyCommands) :
    dispatcher.addStandard.commands.get? name = some command := by
  obtain ⟨before, after, hc⟩ := List.append_of_mem hm
  have hb : Text.isBlankName name = false := by
    have hall : ∀ name ∈ historyCommands.map Prod.fst, Text.isBlankName name = false := by decide
    exact hall name (List.mem_map_of_mem hm)
  have hn : name ∉ (after ++ toolCommands).map Prod.fst := by
    have hnodup : ((historyCommands ++ toolCommands).map Prod.fst).Nodup := by decide
    rw [hc, List.append_assoc, List.map_append] at hnodup
    exact (List.nodup_cons.mp (List.nodup_append.mp hnodup).2.1).1
  have hs : standardCommands dispatcher.operations =
      (operationCommands dispatcher.operations ++ before) ++
        (name, command) :: (after ++ toolCommands) := by
    simp [standardCommands, hc]
  rw [addStandard, hs]
  exact get?_addAll hb hn

theorem get?_history : dispatcher.addStandard.commands.get? "history" = some Recorded.display :=
  get?_addStandard List.mem_cons_self

/-- A command on the history has two names. -/
theorem get?_historyVerb {verb : String} (hm : (verb, command) ∈ historyVerbs) :
    dispatcher.addStandard.commands.get? ("history-" ++ verb) = some command ∧
      dispatcher.addStandard.commands.get? ("history" ++ verb) = some command :=
  ⟨get?_addStandard (List.mem_cons_of_mem _ (List.mem_flatMap.mpr ⟨_, hm, by simp⟩)),
    get?_addStandard (List.mem_cons_of_mem _ (List.mem_flatMap.mpr ⟨_, hm, by simp⟩))⟩

theorem get?_historySave :
    dispatcher.addStandard.commands.get? "history-save" = some Recorded.save := by
  have hm : ("save", Recorded.save) ∈ historyVerbs := by simp [historyVerbs]
  exact (get?_historyVerb hm).1

theorem get?_historyLoad :
    dispatcher.addStandard.commands.get? "history-load" = some Recorded.load := by
  have hm : ("load", Recorded.load) ∈ historyVerbs := by simp [historyVerbs]
  exact (get?_historyVerb hm).1

theorem get?_historyDelete :
    dispatcher.addStandard.commands.get? "history-delete" = some Recorded.delete := by
  have hm : ("delete", Recorded.delete) ∈ historyVerbs := by simp [historyVerbs]
  exact (get?_historyVerb hm).1

theorem get?_historySearch :
    dispatcher.addStandard.commands.get? "history-search" = some Recorded.search := by
  have hm : ("search", Recorded.search) ∈ historyVerbs := by simp [historyVerbs]
  exact (get?_historyVerb hm).1

/-- The dispatch of what a command asks for. -/
def inner (dispatcher : Dispatcher) : Nat → Option Dispatch
  | 0 => none
  | depth + 1 => some (dispatcher.dispatch depth)

theorem dispatch_eq_step (dispatcher : Dispatcher) (depth : Nat) :
    dispatcher.dispatch depth = dispatcher.step (dispatcher.inner depth) := by
  funext policy name args state
  cases depth <;> rfl

/-- Both policies run a command that is there, and report on it. -/
theorem step_of_get? (h : dispatcher.commands.get? name = some command) (inner : Option Dispatch)
    (policy : Policy) (args : List String) (state : State) :
    dispatcher.step inner policy name args state =
      let (outcome, state) := dispatcher.invoke inner ⟨name, args.length⟩ (command args) state
      report name outcome state := by
  cases policy with
  | checked =>
    have hc : dispatcher.contains name = true := by simp [contains, Register.contains, h]
    simp only [step, hc, attempt?, h, Option.map_some, settle, if_true]
  | unchecked => simp only [step, attempt?, h, Option.map_some, settle]

/-- What a reply to an unknown name says about help. -/
def hint : Policy → String
  | .checked => ""
  | .unchecked => ". Type 'help' for available commands."

theorem step_of_get?_eq_none (h : dispatcher.commands.get? name = none) (inner : Option Dispatch)
    (policy : Policy) (args : List String) (state : State) :
    dispatcher.step inner policy name args state = unknown name (hint policy) state := by
  have hc : dispatcher.contains name = false := by simp [contains, Register.contains, h]
  cases policy with
  | checked =>
    simp only [step, hc, Bool.false_eq_true, if_false]
    rfl
  | unchecked =>
    simp only [step, attempt?, h, Option.map_none, settle]
    rfl

theorem dispatch_of_get? (h : dispatcher.commands.get? name = some command) (depth : Nat)
    (policy : Policy) (args : List String) (state : State) :
    dispatcher.dispatch depth policy name args state =
      let (outcome, state) := dispatcher.invoke (dispatcher.inner depth) ⟨name, args.length⟩
        (command args) state
      report name outcome state := by
  rw [dispatch_eq_step]
  exact step_of_get? h _ policy args state

theorem dispatch_of_get?_eq_none (h : dispatcher.commands.get? name = none) (depth : Nat)
    (policy : Policy) (args : List String) (state : State) :
    dispatcher.dispatch depth policy name args state = unknown name (hint policy) state := by
  rw [dispatch_eq_step]
  exact step_of_get?_eq_none h _ policy args state

theorem report_desk (outcome : Outcome) (state : State) :
    (report name outcome state).2.desk.history = state.desk.history ∧
      (report name outcome state).2.desk.files = state.desk.files := by
  cases outcome <;> exact ⟨rfl, rfl⟩

theorem report_clock (outcome : Outcome) (state : State) :
    (report name outcome state).2.clock = state.clock := by
  cases outcome <;> rfl

theorem report_usage (outcome : Outcome) (state : State) :
    (report name outcome state).2.usage = state.usage := by
  cases outcome <;> rfl

/-- A command that looks once and changes the desk once sees the operations and the desk as they are,
but for the run that it is in, and leaves the desk as it changes it. -/
theorem run_plain {act : List String → View → Desk → Outcome × Desk}
    (h : dispatcher.commands.get? name = some (plain act)) (policy : Policy) (args : List String)
    (state : State) :
    ∃ view, let desk := { state.desk with runs := ⟨name, args.length⟩ :: state.desk.runs }
      view.operations = dispatcher.operations ∧
      (dispatcher.run policy name args state).1 = .ofOutcome name (act args view desk).1 ∧
      (dispatcher.run policy name args state).2.desk.history = (act args view desk).2.history ∧
      (dispatcher.run policy name args state).2.desk.files = (act args view desk).2.files := by
  let looked : State := { state with clock := state.clock.look.2 }
  refine ⟨dispatcher.view (looked.within (⟨name, args.length⟩ :: state.desk.runs)), ?_⟩
  rw [run, dispatch_of_get? h maxDepth policy args state]
  exact ⟨rfl, rfl, (report_desk _ _).1, (report_desk _ _).2⟩

/-- A command that looks once and changes the desk once is timed from one look at the clock to the
next. -/
theorem run_plain_timed {act : List String → View → Desk → Outcome × Desk}
    (h : dispatcher.commands.get? name = some (plain act)) (policy : Policy) (args : List String)
    (state : State) :
    let started := state.clock.look
    let ended := started.2.look
    (dispatcher.run policy name args state).2.clock = ended.2 ∧
      (dispatcher.run policy name args state).2.usage =
        state.usage.record name (ended.1 - started.1) ended.2.now := by
  intro started ended
  rw [run, dispatch_of_get? h, report_clock, report_usage]
  exact ⟨rfl, rfl⟩

end Calculator.Command.Dispatcher
