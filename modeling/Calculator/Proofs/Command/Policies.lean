import Calculator.Proofs.Command.Course

/-!
The two policies of asking for a command agree. A command that is there runs in the same way under
both, and what breaks it off becomes a reply; a name that no command has is told from any other by the
reply alone.
-/

namespace Calculator.Command.Dispatcher

variable {dispatcher : Dispatcher} {name : String} {command : Command}

theorem contains_eq_true_iff :
    dispatcher.contains name = true ↔ ∃ command, dispatcher.commands.get? name = some command :=
  Option.isSome_iff_exists

theorem get?_eq_none_of_not_contains (h : dispatcher.contains name = false) :
    dispatcher.commands.get? name = none := by
  simpa [contains, Register.contains] using h

/-- A command in the run that it is asked for in, before the run is counted. -/
def body (dispatcher : Dispatcher) (depth : Nat) (name : String) (command : Command)
    (args : List String) (state : State) : Outcome × State :=
  dispatcher.followIn ⟨name, args.length⟩ (dispatcher.inner depth) (command args)
    { state with clock := state.clock.look.2 }

/-- The reply to a command says how it came out, and the desk is as the command left it. -/
theorem dispatch_body (h : dispatcher.commands.get? name = some command) (depth : Nat)
    (policy : Policy) (args : List String) (state : State) :
    let dispatched := dispatcher.dispatch depth policy name args state
    let body := dispatcher.body depth name command args state
    dispatched.1 = .ofOutcome name body.1 ∧
      dispatched.2.desk.history = body.2.desk.history ∧
      dispatched.2.desk.files = body.2.desk.files := by
  intro dispatched body
  have hd : dispatched = _ := dispatch_of_get? h depth policy args state
  rw [hd]
  obtain ⟨hh, hf⟩ := @report_desk name body.1
    (dispatcher.invoke (dispatcher.inner depth) ⟨name, args.length⟩ (command args) state).2
  exact ⟨rfl, hh, hf⟩

/-- A name without a command changes nothing but the notes. -/
theorem unknown_eq (name hint : String) (state : State) :
    (unknown name hint state).1 = ⟨.unknown, s!"Unknown command: '{name}'" ++ hint⟩ ∧
      (unknown name hint state).2.desk.history = state.desk.history ∧
      (unknown name hint state).2.desk.files = state.desk.files ∧
      (unknown name hint state).2.clock = state.clock ∧
      (unknown name hint state).2.usage = state.usage :=
  ⟨rfl, rfl, rfl, rfl, rfl⟩

/-- A name without a command is missed: no command runs. -/
theorem course_of_get?_eq_none (h : dispatcher.commands.get? name = none) (depth : Nat)
    (policy : Policy) (args : List String) (state : State) :
    dispatcher.course depth policy name args state = .missed name .done := by
  cases depth <;> simp only [course, stepCourse, h]

/-- Asking for a command under one policy comes to the same as under the other, whatever the command
does and however it ends: an end by a fault or by an error is a reply that says so. Asking for a name
that no command has runs nothing and changes nothing; then only the hint at help differs. -/
theorem policies_agree (dispatcher : Dispatcher) (depth : Nat) (name : String) (args : List String)
    (state : State) :
    let checked := dispatcher.dispatch depth .checked name args state
    let unchecked := dispatcher.dispatch depth .unchecked name args state
    (dispatcher.contains name = true →
      checked = unchecked ∧
      ∃ command, dispatcher.commands.get? name = some command ∧
        let body := dispatcher.body depth name command args state
        checked.2.desk.history = body.2.desk.history ∧
        checked.2.desk.files = body.2.desk.files ∧
        checked.1 =
          match body.1 with
          | .ok text => ⟨.completed, text⟩
          | .error e => ⟨.failed, s!"Error executing command '{name}': {e.message}"⟩) ∧
    (dispatcher.contains name = false →
      (∀ policy, dispatcher.course depth policy name args state = .missed name .done) ∧
      checked.2 = unchecked.2 ∧
      checked.2.desk.history = state.desk.history ∧ checked.2.desk.files = state.desk.files ∧
      checked.2.clock = state.clock ∧ checked.2.usage = state.usage ∧
      checked.1 = ⟨.unknown, s!"Unknown command: '{name}'"⟩ ∧
      unchecked.1 = ⟨.unknown, checked.1.text ++ ". Type 'help' for available commands."⟩) := by
  intro checked unchecked
  constructor
  · intro hc
    obtain ⟨command, hg⟩ := contains_eq_true_iff.mp hc
    have hone : checked = _ := dispatch_of_get? hg depth .checked args state
    have htwo : unchecked = _ := dispatch_of_get? hg depth .unchecked args state
    obtain ⟨hreply, hh, hf⟩ := dispatch_body hg depth .checked args state
    refine ⟨hone.trans htwo.symm, command, hg, hh, hf, ?_⟩
    change checked.1 = _ at hreply
    rw [hreply]
    cases (dispatcher.body depth name command args state).1 <;> rfl
  · intro hc
    have hg := get?_eq_none_of_not_contains hc
    have hone : checked = _ := dispatch_of_get?_eq_none hg depth .checked args state
    have htwo : unchecked = _ := dispatch_of_get?_eq_none hg depth .unchecked args state
    obtain ⟨htext, hh, hf, hk, hu⟩ := unknown_eq name (hint .checked) state
    obtain ⟨htext', -⟩ := unknown_eq name (hint .unchecked) state
    have hempty : s!"Unknown command: '{name}'" ++ hint .checked = s!"Unknown command: '{name}'" :=
      String.append_empty
    rw [hempty] at htext
    rw [hone, htwo, htext]
    exact ⟨fun policy => course_of_get?_eq_none hg depth policy args state, rfl, hh, hf, hk, hu, rfl,
      htext'⟩

/-- A command that has another one run and gives its reply as its own text. -/
def passingOn (name : String) : Command := fun args =>
  .ask .unchecked name args fun reply => .finish (.ok reply.text)

/-- A command that only breaks off. -/
def breaking (message : String) : Command := fun _ => .finish (.error (.fault (.said message)))

def smallDispatcher : Dispatcher where
  commands := (Register.empty.insert "boom" (breaking "kaboom")).insert "outer" (passingOn "boom")
  operations := ⟨.empty⟩
  environment := ⟨.empty⟩
  host := ⟨"", "", "", "", ""⟩

/-- The fault of a command inside another one is a reply to the outer command under both policies, and a
name that no command has is told apart by the reply. -/
theorem policies_agree_on_inner_fault :
    let state : State := { desk := { history := { defaultPath := "" }, files := {} }, clock := .still 5 10 }
    let checked := smallDispatcher.dispatch 1 .checked
    let unchecked := smallDispatcher.dispatch 1 .unchecked
    smallDispatcher.contains "outer" = true ∧ smallDispatcher.contains "inner" = false ∧
      checked "outer" ["x"] state = unchecked "outer" ["x"] state ∧
      (checked "outer" ["x"] state).1 = ⟨.completed, "Error executing command 'boom': kaboom"⟩ ∧
      (checked "boom" [] state).1 = ⟨.failed, "Error executing command 'boom': kaboom"⟩ ∧
      (unchecked "inner" [] state).1 =
        ⟨.unknown, "Unknown command: 'inner'. Type 'help' for available commands."⟩ := by
  intro state checked unchecked
  have houter : smallDispatcher.contains "outer" = true := by decide
  have hboom : smallDispatcher.contains "boom" = true := by decide
  have hinner : smallDispatcher.contains "inner" = false := by decide
  have hsame := ((policies_agree smallDispatcher 1 "outer" ["x"] state).1 houter).1
  obtain ⟨-, command, hg, -, -, hfailed⟩ := (policies_agree smallDispatcher 1 "boom" [] state).1 hboom
  cases Option.some.inj hg
  obtain ⟨-, -, -, -, -, -, htext, hhint⟩ :=
    (policies_agree smallDispatcher 1 "inner" [] state).2 hinner
  have hpassed : (checked "outer" ["x"] state).1 =
      ⟨.completed, "Error executing command 'boom': kaboom"⟩ := by decide
  rw [htext] at hhint
  exact ⟨houter, hinner, hsame, hpassed, hfailed, hhint⟩

end Calculator.Command.Dispatcher
